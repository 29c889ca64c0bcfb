import PullComment.Proofs.Comment.Precedence
import PullComment.Proofs.Schema.Lossless
import PullComment.Proofs.Schema.Placement
import PullComment.Proofs.Schema.RoundTrip
import PullComment.Proofs.Schema.Tells

namespace PullComment.Schema

open Checked Readable

section Yields

variable {ι α β : Type}

variable [Readable ι] {members : List (String × ι)}

end Yields

section Wholes

variable {α β : Type} {slot : Slot} {key : α → β} {read : Value → Checked α} {readJson : Json → Checked α}
  {v : Value} {held : List (String × Value)} {members : List (String × Json)}

namespace ReadsAtHome

end ReadsAtHome

end Wholes

section Records

variable {v : Value}

end Records

end PullComment.Schema
