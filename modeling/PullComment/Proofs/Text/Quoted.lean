import Mathlib.Data.List.Basic
import PullComment.Text.Quoted

namespace PullComment.Text

def escapeMarks : List Char :=
  ['\'', '"', '\\', 'n', 'r', 't', 'x', 'u', 'U']

theorem isPrintable_of_mem_escapeMarks {c : Char} (h : c ∈ escapeMarks) : isPrintable c = true := by
  have all : escapeMarks.all isPrintable = true := by decide +kernel
  exact List.all_eq_true.mp all c h

theorem isPrintable_hexDigit {n : Nat} (h : n < 16) : isPrintable (hexDigit n) = true := by
  have all : ∀ m ∈ List.range 16, isPrintable (hexDigit m) = true := by decide +kernel
  exact all n (List.mem_range.mpr h)

theorem isPrintable_of_mem_hexDigits {width n : Nat} : ∀ c ∈ hexDigits width n, isPrintable c = true := by
  induction width generalizing n with
  | zero => exact List.forall_mem_nil _
  | succ width ih =>
      rw [hexDigits]
      exact List.forall_mem_append.mpr
        ⟨ih, List.forall_mem_singleton.mpr (isPrintable_hexDigit (Nat.mod_lt n (by decide)))⟩

theorem isPrintable_of_mem_escapeCode {n : Nat} : ∀ c ∈ escapeCode n, isPrintable c = true := by
  have escaped {letter : Char} (hletter : letter ∈ escapeMarks) (width : Nat) :
      ∀ c ∈ '\\' :: letter :: hexDigits width n, isPrintable c = true := by
    rw [List.forall_mem_cons, List.forall_mem_cons]
    exact ⟨isPrintable_of_mem_escapeMarks (by decide), isPrintable_of_mem_escapeMarks hletter,
      isPrintable_of_mem_hexDigits⟩
  unfold escapeCode
  split_ifs
  · exact escaped (by decide) 2
  · exact escaped (by decide) 4
  · exact escaped (by decide) 8

theorem isPrintable_of_mem_quoteChar {mark : Char} (hmark : mark ∈ escapeMarks) (c : Char) :
    ∀ d ∈ quoteChar mark c, isPrintable d = true := by
  have both {a b : Char} (ha : a ∈ escapeMarks) (hb : b ∈ escapeMarks) :
      ∀ d ∈ [a, b], isPrintable d = true := by
    rw [List.forall_mem_cons, List.forall_mem_singleton]
    exact ⟨isPrintable_of_mem_escapeMarks ha, isPrintable_of_mem_escapeMarks hb⟩
  unfold quoteChar
  split_ifs with hescaped hfeed hreturn htab hprintable
  · rcases hescaped with rfl | rfl
    · exact both (by decide) hmark
    · exact both (by decide) (by decide)
  · exact both (by decide) (by decide)
  · exact both (by decide) (by decide)
  · exact both (by decide) (by decide)
  · exact List.forall_mem_singleton.mpr hprintable
  · exact isPrintable_of_mem_escapeCode

theorem quoteMark_mem_escapeMarks (s : List Char) : quoteMark s ∈ escapeMarks := by
  unfold quoteMark
  split_ifs <;> decide

theorem isPrintable_of_mem_quote {s : String} : ∀ c ∈ (quote s).toList, isPrintable c = true := by
  have hmark := quoteMark_mem_escapeMarks s.toList
  rw [quote, String.toList_ofList, List.cons_append, List.forall_mem_cons, List.forall_mem_append,
    List.forall_mem_singleton]
  refine ⟨isPrintable_of_mem_escapeMarks hmark, ?_, isPrintable_of_mem_escapeMarks hmark⟩
  intro c hc
  obtain ⟨d, -, hd⟩ := List.mem_flatMap.mp hc
  exact isPrintable_of_mem_quoteChar hmark d c hd

theorem newline_not_mem_quote (s : String) : '\n' ∉ (quote s).toList := by
  intro h
  have hhidden : isPrintable '\n' = false := by decide +kernel
  exact absurd (isPrintable_of_mem_quote _ h) (by rw [hhidden]; decide)

end PullComment.Text
