import PullComment.Text.Hex
import PullComment.Text.Printable

namespace PullComment.Text

def quoteMark (s : List Char) : Char :=
  if '\'' ∈ s ∧ '"' ∉ s then '"' else '\''

def escapeCode (n : Nat) : List Char :=
  if n < 0x100 then '\\' :: 'x' :: hexDigits 2 n
  else if n < 0x10000 then '\\' :: 'u' :: hexDigits 4 n
  else '\\' :: 'U' :: hexDigits 8 n

def quoteChar (mark c : Char) : List Char :=
  if c = mark ∨ c = '\\' then ['\\', c]
  else if c = '\n' then ['\\', 'n']
  else if c = '\r' then ['\\', 'r']
  else if c = '\t' then ['\\', 't']
  else if isPrintable c then [c]
  else escapeCode c.toNat

def quote (s : String) : String :=
  let mark := quoteMark s.toList
  String.ofList (mark :: s.toList.flatMap (quoteChar mark) ++ [mark])

def quoteOctet (mark : Char) (octet : UInt8) : List Char :=
  let c := Char.ofNat octet.toNat
  if c = mark ∨ c = '\\' then ['\\', c]
  else if c = '\n' then ['\\', 'n']
  else if c = '\r' then ['\\', 'r']
  else if c = '\t' then ['\\', 't']
  else if 0x20 ≤ octet.toNat ∧ octet.toNat < 0x7F then [c]
  else '\\' :: 'x' :: hexDigits 2 octet.toNat

def quoteOctets (octets : List UInt8) : String :=
  let mark := quoteMark (octets.map fun octet => Char.ofNat octet.toNat)
  String.ofList ('b' :: mark :: octets.flatMap (quoteOctet mark) ++ [mark])

end PullComment.Text
