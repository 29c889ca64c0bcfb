import Mathlib.Data.List.Forall2
import PullComment.Proofs.Members

namespace PullComment.Json

inductive SameValue : Json → Json → Prop
  | null : SameValue .null .null
  | bool (b : Bool) : SameValue (.bool b) (.bool b)
  | number (n : Number) : SameValue (.number n) (.number n)
  | string (s : String) : SameValue (.string s) (.string s)
  | array {xs ys : List Json} (length : xs.length = ys.length)
      (items : ∀ (i : Nat) x y, xs[i]? = some x → ys[i]? = some y → SameValue x y) :
      SameValue (.array xs) (.array ys)
  | object {ms ns : List (String × Json)}
      (names : ∀ name, name ∈ ms.map Prod.fst ↔ name ∈ ns.map Prod.fst)
      (values : ∀ name v w, Members.get? name ms = some v → Members.get? name ns = some w → SameValue v w) :
      SameValue (.object ms) (.object ns)

theorem SameValue.of_forall₂ {xs ys : List Json} (h : List.Forall₂ SameValue xs ys) :
    SameValue (.array xs) (.array ys) := by
  obtain ⟨hlength, hitems⟩ := List.forall₂_iff_get.mp h
  refine .array hlength fun i x y hx hy => ?_
  obtain ⟨hi, rfl⟩ := List.getElem?_eq_some_iff.mp hx
  obtain ⟨hj, rfl⟩ := List.getElem?_eq_some_iff.mp hy
  exact hitems i hi hj

inductive NoRepeats : Json → Prop
  | null : NoRepeats .null
  | bool (b : Bool) : NoRepeats (.bool b)
  | number (n : Number) : NoRepeats (.number n)
  | string (s : String) : NoRepeats (.string s)
  | array {items : List Json} (h : ∀ item ∈ items, NoRepeats item) : NoRepeats (.array items)
  | object {members : List (String × Json)} (names : (members.map Prod.fst).Nodup)
      (values : ∀ m ∈ members, NoRepeats m.2) : NoRepeats (.object members)

end PullComment.Json
