import PullComment.Json.Parser
import PullComment.Schema.Value
import PullComment.Schema.Violation
import PullComment.Text.Utf8

/-!
Validation: a value is read as one of the models, or all its violations are reported: those of the fields
in declaration order, then the unknown names in input order. The tag of an outcome picks the variant
before anything else of it is looked at.
-/

namespace PullComment.Schema

open PullComment

inductive Shape (ι : Type) where
  | null
  | scalar
  | string (s : String)
  | array (items : List ι)
  | object (members : List (String × ι))
  | tuple (items : List ι)
  | octets (data : List UInt8)
  | raised (text : String)
  | record (r : Record)

class Readable (ι : Type) where
  shape : ι → Shape ι
  shown : ι → String

def Shape.ofJson : Json → Shape Json
  | .null => .null
  | .bool _ => .scalar
  | .number _ => .scalar
  | .string s => .string s
  | .array items => .array items
  | .object members => .object members

def Shape.ofValue : Value → Shape Value
  | .null => .null
  | .bool _ => .scalar
  | .number _ => .scalar
  | .string s => .string s
  | .array items => .array items
  | .object members => .object members
  | .tuple items => .tuple items
  | .octets data => .octets data
  | .raised e => .raised e.message
  | .record r => .record r

instance : Readable Json := ⟨Shape.ofJson, Json.shown⟩

instance : Readable Value := ⟨Shape.ofValue, Value.shown⟩

abbrev Checked (α : Type) := Except (List Violation) α

namespace Checked

variable {α β : Type}

def fail (cause : Cause) : Checked α :=
  .error [⟨[], cause⟩]

def violations : Checked α → List Violation
  | .ok _ => []
  | .error vs => vs

def both : Checked α → Checked β → Checked (α × β)
  | .ok a, .ok b => .ok (a, b)
  | .ok _, .error vs => .error vs
  | .error vs, .ok _ => .error vs
  | .error vs, .error ws => .error (vs ++ ws)

def under (segment : Segment) : Checked α → Checked α
  | .ok a => .ok a
  | .error vs => .error (vs.map (Violation.under segment))

def all : List (Checked α) → Checked (List α)
  | [] => .ok []
  | c :: rest => (both c (all rest)).map fun p => p.1 :: p.2

theorem violations_map (f : α → β) (c : Checked α) : violations (c.map f) = c.violations := by
  cases c <;> rfl

theorem violations_both (a : Checked α) (b : Checked β) :
    (both a b).violations = a.violations ++ b.violations := by
  cases a <;> cases b <;> simp [both, violations]

theorem violations_under (segment : Segment) (c : Checked α) :
    (c.under segment).violations = c.violations.map (Violation.under segment) := by
  cases c <;> rfl

theorem violations_all (cs : List (Checked α)) :
    (all cs).violations = cs.flatMap violations := by
  induction cs with
  | nil => rfl
  | cons c rest ih => rw [all, violations_map, violations_both, ih, List.flatMap_cons]

end Checked

open Checked Readable

variable {ι : Type} [Readable ι]

def readText (v : ι) : Checked String :=
  match shape v with
  | .string s => .ok s
  | .octets data =>
      match Text.decodeText data with
      | .ok cs => .ok (String.ofList cs)
      | .error _ => fail .notUnicode
  | _ => fail .notAString

def readFilledText (v : ι) : Checked String :=
  match readText v with
  | .ok s => if s = "" then fail .tooShort else .ok s
  | .error vs => .error vs

def readMessage (v : ι) : Checked String :=
  match shape v with
  | .raised text => .ok text
  | _ => readText v

def readOptionalMessage (v : ι) : Checked (Option String) :=
  match shape v with
  | .null => .ok none
  | _ => (readMessage v).map some

def readKind (expected : Kind) (v : ι) : Checked Unit :=
  match shape v with
  | .string s => if s = expected.tag then .ok () else fail (.wrongKind expected)
  | _ => fail (.wrongKind expected)

def required {α : Type} (name : String) (read : ι → Checked α) (members : List (String × ι)) : Checked α :=
  match Members.get? name members with
  | some v => (read v).under (.field name)
  | none => (fail .missing).under (.field name)

def optional {α : Type} (name : String) (absent : α) (read : ι → Checked α)
    (members : List (String × ι)) : Checked (α × Bool) :=
  match Members.get? name members with
  | some v => ((read v).under (.field name)).map fun a => (a, true)
  | none => .ok (absent, false)

def unknownNames (declared : List String) (members : List (String × ι)) : List String :=
  (Members.names members).filter fun n => !declared.contains n

def noUnknown (declared : List String) (members : List (String × ι)) : Checked Unit :=
  match unknownNames declared members with
  | [] => .ok ()
  | names => .error (names.map fun n => ⟨[.field n], .unknownField⟩)

def readOutcome (kind : Kind) (members : List (String × ι)) : Checked Outcome :=
  match kind with
  | .error => (required "message" readMessage members).map .error
  | .failure => (required "message" readFilledText members).map .failure
  | .planSuccess =>
      (both (required "terraform_output" readText members) (required "lock_url" readText members)).map
        fun p => .planSuccess p.1 p.2
  | .applySuccess => (required "output" readFilledText members).map .applySuccess

def readVariantMembers (kind : Kind) (members : List (String × ι)) : Checked Variant :=
  (both (optional "kind" () (readKind kind) members)
    (both (readOutcome kind members) (noUnknown (Model.variant kind).fieldNames members))).map
    fun p => ⟨p.2.1, p.1.2⟩

def readVariant (kind : Kind) (v : ι) : Checked Variant :=
  match shape v with
  | .object members => readVariantMembers kind members
  | .record (.variant w) => if w.kind = kind then .ok w else fail (.notAModel (.variant kind))
  | _ => fail (.notAModel (.variant kind))

def readByTag (tag : ι) (read : Kind → Checked Variant) : Checked Variant :=
  match shape tag with
  | .string s =>
      match Kind.ofTag? s with
      | some kind => (read kind).under (.field s)
      | none => fail (.tagUnknown s)
  | _ => fail (.tagUnknown (shown tag))

def readOverlaid (r : Record) (members : List (String × ι)) : Checked Variant :=
  match Members.get? "kind" members, r with
  | some tag, _ => readByTag tag fun kind => fail (.notAModel (.variant kind))
  | none, .variant w => (fail (.notAModel (.variant w.kind))).under (.field w.kind.tag)
  | none, _ => fail .tagMissing

def readTagged (v : ι) : Checked Variant :=
  match shape v with
  | .object members =>
      match Members.get? "kind" members with
      | some tag => readByTag tag fun kind => readVariantMembers kind members
      | none => fail .tagMissing
  | .record (.variant w) => .ok w
  | .record _ => fail .tagMissing
  | .tuple [first, second] =>
      match shape first, shape second with
      | .record r, .object members => readOverlaid r members
      | _, _ => fail .outcomeNotAnObject
  | _ => fail .outcomeNotAnObject

def readResultMembers (members : List (String × ι)) : Checked Result :=
  (both (required "path" readFilledText members)
    (both (required "outcome" readTagged members) (noUnknown Model.projectResult.fieldNames members))).map
    fun p => ⟨p.1, p.2.1⟩

def readResult (v : ι) : Checked Result :=
  match shape v with
  | .object members => readResultMembers members
  | .record (.result r) => .ok r
  | _ => fail (.notAModel .projectResult)

def readItemsFrom (i : Nat) : List ι → List (Checked Result)
  | [] => []
  | v :: rest => (readResult v).under (.index i) :: readItemsFrom (i + 1) rest

def readItems (items : List ι) : Checked (List Result) :=
  all (readItemsFrom 0 items)

def readResults (v : ι) : Checked (List Result) :=
  match shape v with
  | .array items => readItems items
  | .tuple items => readItems items
  | .record r =>
      .error ((List.range r.model.fieldNames.length).map fun i =>
        ⟨[.index i], .notAModel .projectResult⟩)
  | _ => fail .notAList

def readResponseMembers (members : List (String × ι)) : Checked (Response (List Result)) :=
  (both (optional "error" none readOptionalMessage members)
    (both (optional "failure" "" readText members)
      (both (optional "project_results" [] readResults members)
        (noUnknown Model.commandResponse.fieldNames members)))).map
    fun p => ⟨p.1.1, p.2.1.1, p.2.2.1.1, ⟨p.1.2, p.2.1.2, p.2.2.1.2⟩⟩

def readResponse (v : ι) : Checked (Response (List Result)) :=
  match shape v with
  | .object members => readResponseMembers members
  | .record (.response r) => .ok r
  | _ => fail (.notAModel .commandResponse)

def readAs (model : Model) (v : ι) : Checked Record :=
  match model with
  | .variant kind => (readVariant kind v).map .variant
  | .projectResult => (readResult v).map .result
  | .commandResponse => (readResponse v).map .response

def reported {α : Type} (m : Medium) : Checked α → Except ValidationError α
  | .ok a => .ok a
  | .error vs => .error ⟨m, vs⟩

def invalidJson {α : Type} : Except ValidationError α :=
  reported .json (fail .invalidJson)

def readJsonText {α : Type} (read : Json → Checked α) (text : String) : Except ValidationError α :=
  match Json.parse text with
  | some v => reported .json (read v)
  | none => invalidJson

/-- A JSON value is read like a text that holds it: nested too deeply, or with too long a number, it is no JSON. -/
def readJsonValue {α : Type} (read : Json → Checked α) (v : Json) : Except ValidationError α :=
  if v.WithinLimits then reported .json (read v) else invalidJson

def readMemory {α : Type} (read : Value → Checked α) (v : Value) : Except ValidationError α :=
  reported .memory (read v)

def validateText (model : Model) (text : String) : Except ValidationError Record :=
  readJsonText (readAs model) text

def validateMemory (model : Model) (v : Value) : Except ValidationError Record :=
  readMemory (readAs model) v

end PullComment.Schema
