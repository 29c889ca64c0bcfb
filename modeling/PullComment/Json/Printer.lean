import PullComment.Json.Basic
import PullComment.Text.Hex

namespace PullComment.Json

inductive Layout where
  | compact
  | indented (width : Nat)
  deriving DecidableEq, Repr

def Layout.gap : Layout → Nat → List Char
  | .compact, _ => []
  | .indented width, level => '\n' :: List.replicate (width * level) ' '

def Layout.colon : Layout → List Char
  | .compact => [':']
  | .indented _ => [':', ' ']

def escapeChar (c : Char) : List Char :=
  if c = '"' then ['\\', '"']
  else if c = '\\' then ['\\', '\\']
  else if c = '\x08' then ['\\', 'b']
  else if c = '\t' then ['\\', 't']
  else if c = '\n' then ['\\', 'n']
  else if c = '\x0c' then ['\\', 'f']
  else if c = '\r' then ['\\', 'r']
  else if c.toNat < 0x20 then '\\' :: 'u' :: Text.hexDigits 4 c.toNat
  else [c]

def writtenStyle : Decimal.Style :=
  ⟨-5, 1⟩

def writeNumber : Number → List Char
  | .integer n => (toString n).toList
  | .decimal negative digits exponent =>
      if (Decimal.Scaled.mk digits exponent).nearest.isSome then
        ((Number.decimal negative digits exponent).text writtenStyle).toList
      else ['n', 'u', 'l', 'l']
  | .infinity _ => ['n', 'u', 'l', 'l']
  | .nan => ['n', 'u', 'l', 'l']

def writeString (s : String) : List Char :=
  '"' :: s.toList.flatMap escapeChar ++ ['"']

mutual

def write (layout : Layout) (level : Nat) : Json → List Char
  | .null => ['n', 'u', 'l', 'l']
  | .bool true => ['t', 'r', 'u', 'e']
  | .bool false => ['f', 'a', 'l', 's', 'e']
  | .number n => writeNumber n
  | .string s => writeString s
  | .array [] => ['[', ']']
  | .array (item :: items) =>
      '[' :: layout.gap (level + 1) ++ write layout (level + 1) item
        ++ writeItems layout (level + 1) items ++ layout.gap level ++ [']']
  | .object [] => ['{', '}']
  | .object ((name, v) :: members) =>
      '{' :: layout.gap (level + 1) ++ writeString name ++ layout.colon
        ++ write layout (level + 1) v ++ writeMembers layout (level + 1) members
        ++ layout.gap level ++ ['}']

def writeItems (layout : Layout) (level : Nat) : List Json → List Char
  | [] => []
  | item :: items =>
      ',' :: layout.gap level ++ write layout level item ++ writeItems layout level items

def writeMembers (layout : Layout) (level : Nat) : List (String × Json) → List Char
  | [] => []
  | (name, v) :: members =>
      ',' :: layout.gap level ++ writeString name ++ layout.colon ++ write layout level v
        ++ writeMembers layout level members

end

def print (layout : Layout) (v : Json) : String :=
  String.ofList (write layout 0 v)

end PullComment.Json
