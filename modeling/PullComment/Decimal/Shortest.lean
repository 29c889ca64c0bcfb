/-!
Numbers with a fraction: the 64-bit binary number nearest to a decimal, and the decimal with the fewest
digits that reads back as a given binary number.
-/

namespace PullComment.Decimal

structure Binary where
  mantissa : Nat
  exponent : Int
  deriving DecidableEq, Repr

structure Scaled where
  digits : Nat
  exponent : Int
  deriving DecidableEq, Repr

def digitCount (n : Nat) : Nat :=
  (Nat.toDigits 10 n).length

def roundDiv (num den : Nat) : Nat :=
  let q := num / den
  let r := num % den
  if 2 * r < den then q
  else if den < 2 * r then q + 1
  else if q % 2 = 0 then q else q + 1

def ratioLog2 (num den : Nat) : Int :=
  let e := (Nat.log2 num : Int) - Nat.log2 den
  if den * Nat.pow 2 e.toNat ≤ num * Nat.pow 2 (-e).toNat then e else e - 1

def Binary.normalize (b : Binary) : Binary :=
  if b.mantissa = Nat.pow 2 53 then ⟨Nat.pow 2 52, b.exponent + 1⟩ else b

def nearestRatio (num den : Nat) : Option Binary :=
  let e := max (-1074) (ratioLog2 num den - 52)
  let b := (Binary.mk (roundDiv (num * Nat.pow 2 (-e).toNat) (den * Nat.pow 2 e.toNat)) e).normalize
  if 971 < b.exponent then none else some b

def Scaled.nearest (s : Scaled) : Option Binary :=
  let top := s.exponent + digitCount s.digits
  if s.digits = 0 ∨ top < -330 then some ⟨0, 0⟩
  else if 310 < top then none
  else nearestRatio (s.digits * Nat.pow 10 s.exponent.toNat) (Nat.pow 10 (-s.exponent).toNat)

/-- The decimal with `count` digits nearest to `b`, where it still reads back as `b`; `lead` is the
decimal exponent of the first digit. -/
def Binary.withDigits (b : Binary) (lead : Int) (count : Nat) : Option Scaled :=
  let p := lead - count + 1
  let unit := Nat.pow 2 b.exponent.toNat * Nat.pow 10 (-p).toNat
  let den := Nat.pow 10 p.toNat * Nat.pow 2 (-b.exponent).toNat
  let num := b.mantissa * unit
  let low := (4 * b.mantissa - (if b.mantissa = Nat.pow 2 52 ∧ -1074 < b.exponent then 1 else 2)) * unit
  let high := (4 * b.mantissa + 2) * unit
  let readsBack (c : Nat) : Bool :=
    if b.mantissa % 2 = 0 then decide (low ≤ 4 * c * den ∧ 4 * c * den ≤ high)
    else decide (low < 4 * c * den ∧ 4 * c * den < high)
  let below := num / den
  let nearer := roundDiv num den
  let other := if nearer = below then below + 1 else below
  if readsBack nearer then some ⟨nearer, p⟩
  else if readsBack other then some ⟨other, p⟩
  else none

def Binary.leadExponent (b : Binary) : Int :=
  let atLeast (k : Int) : Bool :=
    decide (Nat.pow 10 k.toNat * Nat.pow 2 (-b.exponent).toNat
      ≤ b.mantissa * Nat.pow 2 b.exponent.toNat * Nat.pow 10 (-k).toNat)
  let guess := ((Nat.log2 b.mantissa : Int) + b.exponent) * 30103 / 100000
  if atLeast (guess + 1) then guess + 1
  else if atLeast guess then guess
  else guess - 1

def Binary.shortest (b : Binary) : Scaled :=
  let lead := b.leadExponent
  ((List.range 17).findSome? fun n => b.withDigits lead (n + 1)).getD ⟨0, 0⟩

def dropTrailingZeros (digits : List Char) : List Char :=
  (digits.reverse.dropWhile (· == '0')).reverse

structure Style where
  leastPositional : Int
  exponentWidth : Nat
  deriving DecidableEq, Repr

def exponentText (width : Nat) (e : Int) : List Char :=
  let digits := Nat.toDigits 10 e.natAbs
  (if e < 0 then '-' else '+') :: List.replicate (width - digits.length) '0' ++ digits

def Scaled.text (style : Style) (s : Scaled) : List Char :=
  let written := Nat.toDigits 10 s.digits
  let lead := s.exponent + written.length - 1
  let digits := dropTrailingZeros written
  match digits with
  | [] => ['0', '.', '0']
  | first :: rest =>
      if lead < style.leastPositional ∨ 16 ≤ lead then
        first :: (if rest.isEmpty then [] else '.' :: rest) ++ 'e' :: exponentText style.exponentWidth lead
      else if lead < 0 then
        '0' :: '.' :: List.replicate ((-lead).toNat - 1) '0' ++ digits
      else
        let whole := lead.toNat + 1
        let fraction := digits.drop whole
        digits.take whole ++ List.replicate (whole - digits.length) '0'
          ++ '.' :: (if fraction.isEmpty then ['0'] else fraction)

end PullComment.Decimal
