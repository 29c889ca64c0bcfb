import PullComment.Json.Shown
import PullComment.Schema.RaisedError
import PullComment.Schema.Record

namespace PullComment.Schema

open PullComment

inductive Value where
  | null
  | bool (b : Bool)
  | number (n : Number)
  | string (s : String)
  | array (items : List Value)
  | object (members : List (String × Value))
  | tuple (items : List Value)
  | octets (data : List UInt8)
  | raised (e : RaisedError)
  | record (r : Record)
  deriving Repr

namespace Value

mutual

def ofJson : Json → Value
  | .null => .null
  | .bool b => .bool b
  | .number n => .number n
  | .string s => .string s
  | .array items => .array (ofItems items)
  | .object members => .object (Members.normalize (ofMembers members))

def ofItems : List Json → List Value
  | [] => []
  | item :: items => ofJson item :: ofItems items

def ofMembers : List (String × Json) → List (String × Value)
  | [] => []
  | (name, v) :: members => (name, ofJson v) :: ofMembers members

end

def fieldText (f : String × String) : String :=
  f.1 ++ "=" ++ f.2

def called (name : String) (fields : List (String × String)) : String :=
  name ++ "(" ++ commaList (fields.map fieldText) ++ ")"

def variantTexts (v : Variant) : List (String × String) :=
  v.fields.map fun f => (f.name, f.value.quoted)

def resultTexts (r : Result) : List (String × String) :=
  [("path", Text.quote r.path),
    ("outcome", called (Model.variant r.variant.kind).name (variantTexts r.variant))]

def responseTexts (r : Response (List Result)) : List (String × String) :=
  [("error", ((r.error.map Json.string).getD .null).quoted), ("failure", Text.quote r.failure),
    ("project_results",
      listText (r.results.map fun x => called Model.projectResult.name (resultTexts x)))]

def recordTexts : Record → List (String × String)
  | .variant v => variantTexts v
  | .result r => resultTexts r
  | .response r => responseTexts r

mutual

def quoted : Value → String
  | .null => "None"
  | .bool b => boolText b
  | .number n => n.shown
  | .string s => Text.quote s
  | .array items => listText (quotedItems items)
  | .object members => objectText (quotedMembers members)
  | .tuple items => tupleText (quotedItems items)
  | .octets data => Text.quoteOctets data
  | .raised e => e.quoted
  | .record r => called r.model.name (recordTexts r)

def quotedItems : List Value → List String
  | [] => []
  | item :: items => quoted item :: quotedItems items

def quotedMembers : List (String × Value) → List (String × String)
  | [] => []
  | (name, v) :: members => (name, quoted v) :: quotedMembers members

end

def shown : Value → String
  | .string s => s
  | .raised e => e.message
  | .record r => " ".intercalate ((recordTexts r).map fieldText)
  | v => quoted v

end Value

end PullComment.Schema
