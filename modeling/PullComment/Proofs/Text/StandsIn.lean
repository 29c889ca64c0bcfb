import Mathlib.Data.List.Basic

namespace PullComment.Text

theorem notMem_toString {c : Char} (hc : c.isDigit = false) (n : Nat) : c ∉ (toString n).toList := by
  rw [Nat.toString_eq_repr, Nat.toList_repr]
  intro h
  have hdigit := Nat.isDigit_of_mem_toDigits (by decide) (by decide) h
  rw [hc] at hdigit
  cases hdigit

theorem toString_injective {m n : Nat} (h : toString m = toString n) : m = n := by
  have hdigits : Nat.toDigits 10 m = Nat.toDigits 10 n := by
    rw [← Nat.toList_repr, ← Nat.toString_eq_repr, h, Nat.toString_eq_repr, Nat.toList_repr]
  rw [← Nat.ofDigitChars_ten_toDigits (n := m), hdigits, Nat.ofDigitChars_ten_toDigits]

def StandsIn (s t : String) : Prop :=
  ∃ before after, t = before ++ s ++ after

namespace StandsIn

variable {s t u : String}

theorem refl (s : String) : StandsIn s s :=
  ⟨"", "", by simp⟩

theorem trans (hst : StandsIn s t) (htu : StandsIn t u) : StandsIn s u := by
  obtain ⟨a, b, rfl⟩ := hst
  obtain ⟨c, d, rfl⟩ := htu
  exact ⟨c ++ a, b ++ d, by simp only [String.append_assoc]⟩

theorem append_left (h : StandsIn s t) (u : String) : StandsIn s (u ++ t) :=
  h.trans ⟨u, "", by simp⟩

theorem append_right (h : StandsIn s t) (u : String) : StandsIn s (t ++ u) :=
  h.trans ⟨"", u, by simp⟩

theorem join_of_mem {l : List String} (h : s ∈ l) : StandsIn s (String.join l) := by
  induction l with
  | nil => cases h
  | cons a l ih =>
      rw [String.join_cons]
      rcases List.mem_cons.mp h with rfl | h
      · exact (refl s).append_right _
      · exact (ih h).append_left a

end StandsIn

end PullComment.Text
