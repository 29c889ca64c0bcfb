import PullComment.Decimal.Shortest

namespace PullComment

/-- A number written with a fraction or an exponent is `digits * 10 ^ exponent`. -/
inductive Number where
  | integer (n : Int)
  | decimal (negative : Bool) (digits : Nat) (exponent : Int)
  | infinity (negative : Bool)
  | nan
  deriving DecidableEq, Repr

def Number.text (style : Decimal.Style) : Number → String
  | .integer n => toString n
  | .decimal negative digits exponent =>
      let sign := if negative then "-" else ""
      match (Decimal.Scaled.mk digits exponent).nearest with
      | none => sign ++ "inf"
      | some b => sign ++ String.ofList
          (if b.mantissa = 0 then ['0', '.', '0'] else b.shortest.text style)
  | .infinity negative => if negative then "-inf" else "inf"
  | .nan => "nan"

inductive Json where
  | null
  | bool (b : Bool)
  | number (n : Number)
  | string (s : String)
  | array (items : List Json)
  | object (members : List (String × Json))
  deriving Repr

namespace Json

mutual

def same : Json → Json → Bool
  | .null, .null => true
  | .bool a, .bool b => a == b
  | .number a, .number b => a == b
  | .string a, .string b => a == b
  | .array a, .array b => sameItems a b
  | .object a, .object b => sameMembers a b
  | _, _ => false

def sameItems : List Json → List Json → Bool
  | [], [] => true
  | a :: as, b :: bs => same a b && sameItems as bs
  | _, _ => false

def sameMembers : List (String × Json) → List (String × Json) → Bool
  | [], [] => true
  | (m, a) :: as, (n, b) :: bs => m == n && same a b && sameMembers as bs
  | _, _ => false

end

mutual

theorem same_iff : ∀ a b : Json, same a b = true ↔ a = b
  | .null, b => by cases b <;> simp [same]
  | .bool _, b => by cases b <;> simp [same]
  | .number _, b => by cases b <;> simp [same]
  | .string _, b => by cases b <;> simp [same]
  | .array as, b => by cases b <;> simp [same, sameItems_iff as]
  | .object as, b => by cases b <;> simp [same, sameMembers_iff as]

theorem sameItems_iff : ∀ as bs : List Json, sameItems as bs = true ↔ as = bs
  | [], bs => by cases bs <;> simp [sameItems]
  | a :: as, bs => by cases bs <;> simp [sameItems, same_iff a, sameItems_iff as]

theorem sameMembers_iff : ∀ as bs : List (String × Json), sameMembers as bs = true ↔ as = bs
  | [], bs => by cases bs <;> simp [sameMembers]
  | (m, a) :: as, bs => by
      cases bs with
      | nil => simp [sameMembers]
      | cons b bs =>
          obtain ⟨n, b⟩ := b
          simp [sameMembers, same_iff a, sameMembers_iff as, and_assoc]

end

instance : DecidableEq Json := fun a b => decidable_of_iff _ (same_iff a b)

mutual

def levels : Json → Nat
  | .array items => levelsItems items + 1
  | .object members => levelsMembers members + 1
  | _ => 1

def levelsItems : List Json → Nat
  | [] => 0
  | item :: items => max (levels item) (levelsItems items)

def levelsMembers : List (String × Json) → Nat
  | [] => 0
  | (_, v) :: members => max (levels v) (levelsMembers members)

end

mutual

def numbers : Json → List Number
  | .number n => [n]
  | .array items => numbersItems items
  | .object members => numbersMembers members
  | _ => []

def numbersItems : List Json → List Number
  | [] => []
  | item :: items => numbers item ++ numbersItems items

def numbersMembers : List (String × Json) → List Number
  | [] => []
  | (_, v) :: members => numbers v ++ numbersMembers members

end

theorem mem_numbersItems {n : Number} {items : List Json} :
    n ∈ numbersItems items ↔ ∃ item ∈ items, n ∈ item.numbers := by
  induction items with
  | nil => simp [numbersItems]
  | cons item items ih => simp [numbersItems, ih]

theorem mem_numbersMembers {n : Number} {members : List (String × Json)} :
    n ∈ numbersMembers members ↔ ∃ m ∈ members, n ∈ m.2.numbers := by
  induction members with
  | nil => simp [numbersMembers]
  | cons m members ih =>
      obtain ⟨name, v⟩ := m
      simp [numbersMembers, ih]

end Json

namespace Members

variable {α : Type}

def get? (name : String) : List (String × α) → Option α
  | [] => none
  | (n, v) :: rest =>
      match get? name rest with
      | some later => some later
      | none => if n = name then some v else none

def distinct : List String → List String
  | [] => []
  | n :: rest => n :: (distinct rest).filter (· ≠ n)

def names (members : List (String × α)) : List String :=
  distinct (members.map Prod.fst)

def normalize (members : List (String × α)) : List (String × α) :=
  (names members).filterMap fun n => (get? n members).map fun v => (n, v)

theorem mem_distinct {n : String} : ∀ {l : List String}, n ∈ distinct l ↔ n ∈ l
  | [] => by simp [distinct]
  | m :: rest => by
      have ih : n ∈ distinct rest ↔ n ∈ rest := mem_distinct
      by_cases h : n = m <;> simp [distinct, ih, h]

theorem nodup_distinct : ∀ l : List String, (distinct l).Nodup
  | [] => by simp [distinct]
  | m :: rest => by
      have ih := nodup_distinct rest
      simp only [distinct, List.nodup_cons]
      exact ⟨by simp, ih.filter _⟩

theorem get?_isSome {name : String} : ∀ {members : List (String × α)},
    (get? name members).isSome ↔ name ∈ members.map Prod.fst
  | [] => by simp [get?]
  | (n, v) :: rest => by
      have ih : (get? name rest).isSome ↔ name ∈ rest.map Prod.fst := get?_isSome
      simp only [get?, List.map_cons, List.mem_cons]
      cases hr : get? name rest with
      | some later => simp [hr] at ih ⊢; exact Or.inr ih
      | none =>
          simp only [hr, Option.isSome_none, Bool.false_eq_true, false_iff] at ih
          by_cases h : n = name
          · simp [h]
          · simp only [h, ↓reduceIte, Option.isSome_none, Bool.false_eq_true, false_iff, not_or]
            exact ⟨fun e => h e.symm, ih⟩

end Members

end PullComment
