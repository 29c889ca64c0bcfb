namespace PullComment.Text

def hexDigit (n : Nat) : Char :=
  if n < 10 then Char.ofNat (48 + n) else Char.ofNat (87 + n)

def hexValue (c : Char) : Option Nat :=
  let n := c.toNat
  if 48 ≤ n ∧ n ≤ 57 then some (n - 48)
  else if 97 ≤ n ∧ n ≤ 102 then some (n - 87)
  else if 65 ≤ n ∧ n ≤ 70 then some (n - 55)
  else none

theorem hexValue_hexDigit {n : Nat} (h : n < 16) : hexValue (hexDigit n) = some n := by
  have all : ∀ m ∈ List.range 16, hexValue (hexDigit m) = some m := by decide
  exact all n (List.mem_range.mpr h)

def hexDigits : Nat → Nat → List Char
  | 0, _ => []
  | width + 1, n => hexDigits width (n / 16) ++ [hexDigit (n % 16)]

theorem length_hexDigits (width n : Nat) : (hexDigits width n).length = width := by
  induction width generalizing n with
  | zero => rfl
  | succ width ih => simp [hexDigits, ih]

def isHexBlank (c : Char) : Bool :=
  c == ' ' || (9 ≤ c.toNat && c.toNat ≤ 13)

def readHexFrom (place : Nat) : List Char → Except Nat (List UInt8)
  | [] => .ok []
  | c :: rest =>
      if isHexBlank c then readHexFrom (place + 1) rest
      else
        match hexValue c with
        | none => .error place
        | some high =>
            match rest with
            | [] => .error (place + 1)
            | d :: rest' =>
                match hexValue d with
                | none => .error (place + 1)
                | some low => (readHexFrom (place + 2) rest').map ((high * 16 + low).toUInt8 :: ·)

def readHex (s : String) : Except Nat (List UInt8) :=
  match s.toList.findIdx? fun c => 128 ≤ c.toNat with
  | some place => .error place
  | none => readHexFrom 0 s.toList

end PullComment.Text
