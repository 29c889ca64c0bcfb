import PullComment.Proofs.Schema.Reading
import PullComment.Proofs.Schema.StandIn

namespace PullComment.Schema

open Checked Readable

inductive Slot where
  | record (model : Model)
  | outcome
  | results
  | text
  | message
  | other
  deriving DecidableEq, Repr

namespace Slot

def ofField (model : Model) (name : String) : Slot :=
  match model with
  | .variant kind =>
      if name ∈ (Model.variant kind).fieldNames.tail then if kind = .error then .message else .text else .other
  | .projectResult => if name = "path" then .text else if name = "outcome" then .outcome else .other
  | .commandResponse =>
      if name = "error" then .message
      else if name = "failure" then .text
      else if name = "project_results" then .results
      else .other

def ofItem : Slot → Slot
  | .results => .record .projectResult
  | _ => .other

def ofMember (slot : Slot) (members : List (String × Value)) (name : String) : Slot :=
  match slot with
  | .record model => ofField model name
  | .outcome =>
      match Members.get? "kind" members with
      | some (.string tag) =>
          match Kind.ofTag? tag with
          | some kind => ofField (.variant kind) name
          | none => .other
      | _ => .other
  | _ => .other

end Slot

namespace AtHome

variable {slot : Slot}

end AtHome

section Texts

end Texts

end PullComment.Schema
