import Mathlib.Data.List.Basic
import PullComment.Text.Styling

namespace PullComment.Text

def Barrier (c : Char) : Prop :=
  c ≠ '\x1b' ∧ c ≠ '[' ∧ isParameter c = false ∧ c.isAlpha = false

instance (c : Char) : Decidable (Barrier c) :=
  inferInstanceAs (Decidable (_ ∧ _))

theorem dropStyling_of_some {c : Char} {s rest : List Char} (h : afterStyling c s = some rest) :
    dropStyling (c :: s) = dropStyling rest := by
  rw [dropStyling]
  split
  · rename_i heq
    rw [h] at heq
    cases heq
    rfl
  · rename_i heq
    rw [h] at heq
    cases heq

theorem dropStyling_of_none {c : Char} {s : List Char} (h : afterStyling c s = none) :
    dropStyling (c :: s) = c :: dropStyling s := by
  rw [dropStyling]
  split
  · rename_i heq
    rw [h] at heq
    cases heq
  · rfl

theorem afterStyling_of_ne {c : Char} (hc : c ≠ '\x1b') (s : List Char) : afterStyling c s = none :=
  if_neg hc

section

variable {b : Char} (hb : Barrier b)

include hb

theorem afterParameters_append (s rest : List Char) :
    afterParameters (s ++ b :: rest) = (afterParameters s).map (· ++ b :: rest) := by
  obtain ⟨-, -, hparameter, halpha⟩ := hb
  induction s with
  | nil => simp [afterParameters, hparameter, halpha]
  | cons c s ih =>
      simp only [List.cons_append, afterParameters]
      split_ifs
      · exact ih
      · rfl
      · rfl

theorem afterStyling_append (c : Char) (s rest : List Char) :
    afterStyling c (s ++ b :: rest) = (afterStyling c s).map (· ++ b :: rest) := by
  by_cases hc : c = '\x1b'
  · subst hc
    cases s with
    | nil =>
        have hbracket : b ≠ '[' := hb.2.1
        simp [afterStyling, hbracket]
    | cons d s =>
        by_cases hd : d = '['
        · subst hd
          exact afterParameters_append hb s rest
        · simp [afterStyling, hd]
  · rw [afterStyling_of_ne hc, afterStyling_of_ne hc, Option.map_none]

theorem dropStyling_append (s rest : List Char) :
    dropStyling (s ++ b :: rest) = dropStyling s ++ b :: dropStyling rest := by
  fun_induction dropStyling s with
  | case1 => rw [List.nil_append, List.nil_append, dropStyling_of_none (afterStyling_of_ne hb.1 rest)]
  | case2 c s tail h ih =>
      have happend := afterStyling_append hb c s rest
      rw [h, Option.map_some] at happend
      rw [List.cons_append, dropStyling_of_some happend, ih]
  | case3 c s h ih =>
      have happend := afterStyling_append hb c s rest
      rw [h, Option.map_none] at happend
      rw [List.cons_append, dropStyling_of_none happend, ih, List.cons_append]

end

theorem dropStyling_between_iff {b b' : Char} (hb : Barrier b) (hb' : Barrier b') (before after s t : List Char) :
    dropStyling (before ++ b :: (s ++ b' :: after)) = dropStyling (before ++ b :: (t ++ b' :: after)) ↔
      dropStyling s = dropStyling t := by
  rw [dropStyling_append hb, dropStyling_append hb, dropStyling_append hb', dropStyling_append hb',
    List.append_cancel_left_eq, List.cons.injEq, List.append_left_inj]
  simp only [true_and]

end PullComment.Text
