import PullComment.Schema.Validation
import PullComment.Text.Hex

namespace PullComment.Schema

open PullComment

/-- A value in memory as it is described. A record in it is described by the name of its model and what it
is validated from, and octets by their digits; a tuple may be described by anything that has parts. -/
inductive Described where
  | null
  | bool (b : Bool)
  | number (n : Number)
  | string (s : String)
  | array (items : List Described)
  | object (members : List (String × Described))
  | tuple (items : List Described)
  | tupleOf (whole : Json)
  | octets (digits : Json)
  | raised (e : RaisedError)
  | record (model : String) (source : Described)
  deriving Repr

inductive BuildFault where
  | unraisable (f : RaisingFault)
  | notHex (place : Nat)
  | notText (kind : String)
  | noParts (kind : String)
  | unknownModel (name : String)
  deriving DecidableEq, Repr

def notIterableText (kind : String) : String :=
  Text.quote kind ++ " object is not iterable"

def BuildFault.message : BuildFault → String
  | .unraisable f => f.message
  | .notHex place => "non-hexadecimal number found in fromhex() arg at position " ++ toString place
  | .notText kind => "fromhex() argument must be str, not " ++ kind
  | .noParts kind => notIterableText kind
  | .unknownModel name => Text.quote name

inductive InputFault where
  | invalid (e : ValidationError)
  | unbuildable (f : BuildFault)
  deriving DecidableEq, Repr

def validated {α : Type} : Except ValidationError α → Except InputFault α
  | .ok a => .ok a
  | .error e => .error (.invalid e)

namespace Described

def buildOctets : Json → Except InputFault Value
  | .string digits =>
      match Text.readHex digits with
      | .ok data => .ok (.octets data)
      | .error place => .error (.unbuildable (.notHex place))
  | v => .error (.unbuildable (.notText v.kindName))

def buildTuple (whole : Json) : Except InputFault Value :=
  match partsOf? whole with
  | some parts => .ok (.tuple (parts.map Value.ofJson))
  | none => .error (.unbuildable (.noParts whole.kindName))

mutual

def build : Described → Except InputFault Value
  | .null => .ok .null
  | .bool b => .ok (.bool b)
  | .number n => .ok (.number n)
  | .string s => .ok (.string s)
  | .array items => (buildItems items).map .array
  | .object members => (buildMembers members).map .object
  | .tuple items => (buildItems items).map .tuple
  | .tupleOf whole => buildTuple whole
  | .octets digits => buildOctets digits
  | .raised e =>
      match e.raisingFault? with
      | some f => .error (.unbuildable (.unraisable f))
      | none => .ok (.raised e)
  | .record name source =>
      match Model.ofName? name with
      | none => .error (.unbuildable (.unknownModel name))
      | some model => do
          let v ← build source
          (validated (validateMemory model v)).map .record

def buildItems : List Described → Except InputFault (List Value)
  | [] => .ok []
  | item :: items => do
      let v ← build item
      let vs ← buildItems items
      .ok (v :: vs)

def buildMembers : List (String × Described) → Except InputFault (List (String × Value))
  | [] => .ok []
  | (name, member) :: members => do
      let v ← build member
      let vs ← buildMembers members
      .ok ((name, v) :: vs)

end

end Described

inductive Input where
  | text (s : String)
  | json (v : Json)
  | memory (d : Described)
  deriving Repr

def Input.readWith {α : Type} (read : {ι : Type} → [Readable ι] → ι → Checked α) :
    Input → Except InputFault α
  | .text s => validated (readJsonText read s)
  | .json v => validated (readJsonValue read v)
  | .memory d => do
      let v ← d.build
      validated (readMemory read v)

def Input.validate (model : Model) (input : Input) : Except InputFault Record :=
  input.readWith (readAs model)

end PullComment.Schema
