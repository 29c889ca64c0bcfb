import PullComment.Json.Basic
import PullComment.Text.Quoted

namespace PullComment

def shownStyle : Decimal.Style :=
  ⟨-4, 2⟩

def Number.shown (n : Number) : String :=
  n.text shownStyle

def boolText (b : Bool) : String :=
  if b then "True" else "False"

def commaList (texts : List String) : String :=
  ", ".intercalate texts

def listText (texts : List String) : String :=
  "[" ++ commaList texts ++ "]"

def tupleText (texts : List String) : String :=
  match texts with
  | [text] => "(" ++ text ++ ",)"
  | texts => "(" ++ commaList texts ++ ")"

def objectText (members : List (String × String)) : String :=
  "\x7b" ++ commaList (members.map fun m => Text.quote m.1 ++ ": " ++ m.2) ++ "\x7d"

namespace Json

mutual

def quoted : Json → String
  | .null => "None"
  | .bool b => boolText b
  | .number n => n.shown
  | .string s => Text.quote s
  | .array items => listText (quotedItems items)
  | .object members => objectText (Members.normalize (quotedMembers members))

def quotedItems : List Json → List String
  | [] => []
  | item :: items => quoted item :: quotedItems items

def quotedMembers : List (String × Json) → List (String × String)
  | [] => []
  | (name, v) :: members => (name, quoted v) :: quotedMembers members

end

def shown : Json → String
  | .string s => s
  | v => quoted v

def kindName : Json → String
  | .null => "NoneType"
  | .bool _ => "bool"
  | .number (.integer _) => "int"
  | .number _ => "float"
  | .string _ => "str"
  | .array _ => "list"
  | .object _ => "dict"

end Json

end PullComment
