import PullComment.Json.Basic

namespace PullComment

inductive Magnitude where
  | finite (mantissa : Int) (exponent : Int)
  | infinite (negative : Bool)
  | undefined
  deriving DecidableEq, Repr

namespace Magnitude

def alike : Magnitude → Magnitude → Bool
  | .finite m e, .finite n f => m * Int.pow 2 (e - f).toNat == n * Int.pow 2 (f - e).toNat
  | .infinite a, .infinite b => a == b
  | .undefined, .undefined => true
  | _, _ => false

def isZero : Magnitude → Bool
  | .finite m _ => m == 0
  | _ => false

end Magnitude

namespace Number

def magnitude : Number → Magnitude
  | .integer n => .finite n 0
  | .decimal negative digits exponent =>
      match (Decimal.Scaled.mk digits exponent).nearest with
      | some b => .finite (if negative then -b.mantissa else b.mantissa) b.exponent
      | none => .infinite negative
  | .infinity negative => .infinite negative
  | .nan => .undefined

def ofBool (b : Bool) : Number :=
  .integer (if b then 1 else 0)

def alike (a b : Number) : Bool :=
  a.magnitude.alike b.magnitude

end Number

namespace Json

mutual

def alike : Json → Json → Bool
  | .null, .null => true
  | .bool a, .bool b => a == b
  | .bool a, .number n => (Number.ofBool a).alike n
  | .number m, .bool b => m.alike (.ofBool b)
  | .number m, .number n => m.alike n
  | .string a, .string b => a == b
  | .array a, .array b => alikeItems a b
  | .object a, .object b => a.length == b.length && alikeMembers a b
  | _, _ => false

def alikeItems : List Json → List Json → Bool
  | [], [] => true
  | a :: as, b :: bs => alike a b && alikeItems as bs
  | _, _ => false

def alikeMembers : List (String × Json) → List (String × Json) → Bool
  | [], _ => true
  | (name, a) :: as, others =>
      (match Members.get? name others with
        | some b => alike a b
        | none => false)
      && alikeMembers as others

end

def isNothing : Json → Bool
  | .null => true
  | .bool b => !b
  | .number n => n.magnitude.isZero
  | .string s => s == ""
  | .array items => items.isEmpty
  | .object members => members.isEmpty

@[simp]
theorem alike_string (a b : String) : alike (.string a) (.string b) = (a == b) := by
  simp [alike]

end Json

end PullComment
