import PullComment.Json.Magnitude

namespace PullComment

namespace Magnitude

def hashModulus : Nat :=
  Nat.pow 2 61 - 1

/-- Powers of two repeat after 61 steps. -/
def residue (mantissa exponent : Int) : Int :=
  mantissa.sign * ((mantissa.natAbs * Nat.pow 2 (exponent % 61).toNat % hashModulus : Nat) : Int)

def hash? : Magnitude → Option Int
  | .finite m e => some (if residue m e = -1 then -2 else residue m e)
  | .infinite false => some 314159
  | .infinite true => some (-314159)
  | .undefined => none

end Magnitude

namespace Json

def ofHash (n : Int) : Json :=
  .number (.integer n)

/-- Stands for the hash of a value: two values hash alike exactly if these are the same. An empty text
hashes as zero; other texts hash as themselves. -/
def hashed : Json → Json
  | .bool b => ofHash (if b then 1 else 0)
  | .number n =>
      match n.magnitude.hash? with
      | some h => ofHash h
      | none => .number n
  | .string s => if s = "" then ofHash 0 else .string s
  | v => v

theorem hashed_bool (b : Bool) : hashed (.bool b) = hashed (.number (.ofBool b)) := by
  cases b <;> decide

end Json

end PullComment
