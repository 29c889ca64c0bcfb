import Mathlib.Algebra.BigOperators.Group.List.Basic
import Mathlib.Algebra.Ring.Nat
import Mathlib.Data.List.Infix
import PullComment.Proofs.Text.StandsIn

namespace PullComment.Text

section Places

variable {p : List Char}

def places (p : List Char) : List Char → Nat
  | [] => 0
  | c :: s => (if p <+: c :: s then 1 else 0) + places p s

theorem prefix_append_cons_iff {c : Char} (hc : c ∉ p) (u w : List Char) : p <+: u ++ c :: w ↔ p <+: u := by
  constructor
  · intro h
    rcases List.prefix_or_prefix_of_prefix h (List.prefix_append u (c :: w)) with hp | ⟨t, rfl⟩
    · exact hp
    · cases t with
      | nil => rw [List.append_nil]
      | cons d t =>
          -- the character after `u` would be one of `p`
          obtain ⟨rfl, -⟩ := List.cons_prefix_cons.mp ((List.prefix_append_right_inj u).mp h)
          exact absurd (List.mem_append_right u List.mem_cons_self) hc
  · intro h
    exact h.trans (List.prefix_append u (c :: w))

theorem places_append_cons {c : Char} (hc : c ∉ p) (u w : List Char) :
    places p (u ++ c :: w) = places p u + places p (c :: w) := by
  induction u with
  | nil => rw [List.nil_append, places, Nat.zero_add]
  | cons a u ih =>
      have hprefix : p <+: a :: (u ++ c :: w) ↔ p <+: a :: u := prefix_append_cons_iff hc (a :: u) w
      calc places p (a :: (u ++ c :: w))
          = (if p <+: a :: u then 1 else 0) + (places p u + places p (c :: w)) := by
            rw [places, if_congr hprefix rfl rfl, ih]
        _ = places p (a :: u) + places p (c :: w) := (Nat.add_assoc _ _ _).symm

theorem places_concat_append {c : Char} (hc : c ∉ p) (u w : List Char) :
    places p ((u ++ [c]) ++ w) = places p (u ++ [c]) + places p w := by
  have hprefix : p <+: c :: w ↔ p <+: [c] :=
    (prefix_append_cons_iff hc [] w).trans (prefix_append_cons_iff hc [] []).symm
  rw [List.append_assoc, List.singleton_append, places_append_cons hc, places_append_cons hc, places, places,
    if_congr hprefix rfl rfl, places, Nat.add_zero, Nat.add_assoc]

theorem places_eq_zero_iff (hp : p ≠ []) (s : List Char) : places p s = 0 ↔ ¬ p <:+: s := by
  induction s with
  | nil => simp [places, hp]
  | cons c s ih =>
      have hhead : (if p <+: c :: s then 1 else 0) = 0 ↔ ¬ p <+: c :: s := by simp
      rw [places, Nat.add_eq_zero_iff, hhead, ih, List.infix_cons_iff, not_or]

theorem eq_of_places_le_one (hp : p ≠ []) {s u w u' w' : List Char} (h : places p s ≤ 1) (hs : s = u ++ p ++ w)
    (hs' : s = u' ++ p ++ w') : w = w' := by
  induction s generalizing u u' with
  | nil => simp [hp] at hs
  | cons a s ih =>
      rw [places] at h
      have htwice {v x y : List Char} (hhead : a :: s = p ++ x) (hlater : s = v ++ p ++ y) : w = w' := by
        rw [if_pos ⟨x, hhead.symm⟩] at h
        have hnone : places p s = 0 := by omega
        exact absurd ⟨v, y, hlater.symm⟩ ((places_eq_zero_iff hp s).mp hnone)
      cases u with
      | nil =>
          cases u' with
          | nil => exact List.append_cancel_left (hs.symm.trans hs')
          | cons b v' => exact htwice hs (List.cons.inj hs').2
      | cons b v =>
          cases u' with
          | nil => exact htwice hs' (List.cons.inj hs).2
          | cons b' v' => exact ih (by omega) (List.cons.inj hs).2 (List.cons.inj hs').2

end Places

def occurrences (p s : String) : Nat :=
  places p.toList s.toList

def Opens (p s : String) : Prop :=
  ∃ c ∈ s.toList.head?, c ∉ p.toList

def Closes (p s : String) : Prop :=
  ∃ c ∈ s.toList.getLast?, c ∉ p.toList

instance (p s : String) : Decidable (Opens p s) :=
  Option.decidableExistsMem s.toList.head?

instance (p s : String) : Decidable (Closes p s) :=
  Option.decidableExistsMem s.toList.getLast?

variable {p s t : String}

theorem Opens.append_right (h : Opens p s) (t : String) : Opens p (s ++ t) := by
  obtain ⟨c, hc, hp⟩ := h
  refine ⟨c, ?_, hp⟩
  rw [String.toList_append]
  exact List.mem_head?_append_of_mem_head? hc

theorem Opens.ne_append (h : Opens p s) (hp : p ≠ "") (rest : String) : s ≠ p ++ rest := by
  rintro rfl
  obtain ⟨c, hc, hnot⟩ := h
  cases hchars : p.toList with
  | nil => exact hp (String.toList_eq_nil_iff.mp hchars)
  | cons a cs =>
      rw [String.toList_append, hchars] at hc
      obtain rfl : a = c := Option.some.inj hc
      exact hnot (hchars ▸ List.mem_cons_self)

theorem Closes.append_left (h : Closes p t) (s : String) : Closes p (s ++ t) := by
  obtain ⟨c, hc, hp⟩ := h
  refine ⟨c, ?_, hp⟩
  rw [String.toList_append]
  exact List.mem_getLast?_append_of_mem_getLast? hc

theorem occurrences_append_of_opens (h : Opens p t) (s : String) :
    occurrences p (s ++ t) = occurrences p s + occurrences p t := by
  obtain ⟨c, hc, hp⟩ := h
  obtain ⟨w, hw⟩ := List.head?_eq_some_iff.mp hc
  rw [occurrences, String.toList_append, hw, places_append_cons hp, ← hw, occurrences, occurrences]

theorem occurrences_append_of_closes (h : Closes p s) (t : String) :
    occurrences p (s ++ t) = occurrences p s + occurrences p t := by
  obtain ⟨c, hc, hp⟩ := h
  obtain ⟨u, hu⟩ := List.getLast?_eq_some_iff.mp hc
  rw [occurrences, String.toList_append, hu, places_concat_append hp, ← hu, occurrences, occurrences]

/-- A text in which `p` does not occur, and does not begin or end either. -/
structure Seals (p l : String) : Prop where
  opens : Opens p l
  closes : Closes p l
  free : occurrences p l = 0

instance (p l : String) : Decidable (Seals p l) :=
  decidable_of_iff (Opens p l ∧ Closes p l ∧ occurrences p l = 0)
    ⟨fun ⟨hopens, hcloses, hfree⟩ => ⟨hopens, hcloses, hfree⟩, fun h => ⟨h.opens, h.closes, h.free⟩⟩

namespace Seals

variable {l : String}

theorem occurrences_append_left (h : Seals p l) (s : String) : occurrences p (l ++ s) = occurrences p s := by
  rw [occurrences_append_of_closes h.closes, h.free, Nat.zero_add]

theorem occurrences_append_right (h : Seals p l) (s : String) : occurrences p (s ++ l) = occurrences p s := by
  rw [occurrences_append_of_opens h.opens, h.free, Nat.add_zero]

theorem occurrences_append_append (h : Seals p l) (s t : String) :
    occurrences p (s ++ l ++ t) = occurrences p s + occurrences p t := by
  rw [occurrences_append_of_closes (h.closes.append_left s), h.occurrences_append_right]

end Seals

theorem occurrences_join {l : List String} (h : ∀ s ∈ l, Closes p s) :
    occurrences p (String.join l) = (l.map (occurrences p)).sum := by
  induction l with
  | nil => rfl
  | cons s l ih =>
      obtain ⟨hs, hl⟩ := List.forall_mem_cons.mp h
      rw [String.join_cons, occurrences_append_of_closes hs, ih hl, List.map_cons, List.sum_cons]

theorem standsIn_iff_toList : StandsIn p s ↔ p.toList <:+: s.toList := by
  constructor
  · rintro ⟨before, after, rfl⟩
    exact ⟨before.toList, after.toList, by simp only [String.toList_append]⟩
  · rintro ⟨before, after, h⟩
    refine ⟨String.ofList before, String.ofList after, String.toList_inj.mp ?_⟩
    simp only [String.toList_append, String.toList_ofList, h]

theorem occurrences_eq_zero_iff (hp : p ≠ "") : occurrences p s = 0 ↔ ¬ StandsIn p s := by
  rw [standsIn_iff_toList, occurrences]
  exact places_eq_zero_iff (String.toList_eq_nil_iff.not.mpr hp) s.toList

theorem occurrences_eq_zero_of_notMem {c : Char} (hp : c ∈ p.toList) (hs : c ∉ s.toList) : occurrences p s = 0 := by
  rw [occurrences, places_eq_zero_iff (List.ne_nil_of_mem hp)]
  intro h
  exact hs (h.subset hp)

theorem eq_of_occurrences_eq_one (hp : p ≠ "") {before after before' after' : String} (h : occurrences p s = 1)
    (hs : s = before ++ p ++ after) (hs' : s = before' ++ p ++ after') : after = after' := by
  rw [← String.toList_inj, String.toList_append, String.toList_append] at hs hs'
  exact String.toList_inj.mp (eq_of_places_le_one (String.toList_eq_nil_iff.not.mpr hp) (Nat.le_of_eq h) hs hs')

end PullComment.Text
