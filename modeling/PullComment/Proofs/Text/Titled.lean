import Mathlib.Data.List.Chain
import Mathlib.Data.Nat.ModEq
import PullComment.Text.UpperCase

namespace PullComment.Text

namespace CaseRun

theorem holds_iff {run : CaseRun} {n : Nat} :
    run.holds n = true ↔ run.first ≤ n ∧ n ≤ run.last ∧ (n - run.first) % run.step = 0 := by
  simp only [holds, Bool.and_eq_true, decide_eq_true_eq, and_assoc]

def single (n : Nat) : CaseRun :=
  ⟨n, n, 1, 0⟩

theorem holds_single (n : Nat) : (single n).holds n = true :=
  holds_iff.mpr ⟨Nat.le_refl n, Nat.le_refl n, Nat.mod_one _⟩

def capitals (run : CaseRun) : CaseRun :=
  ⟨(Int.ofNat run.first + run.offset).toNat, (Int.ofNat run.last + run.offset).toNat, run.step, 0⟩

theorem holds_capitals {run : CaseRun} {n : Nat} (hrun : 0 ≤ Int.ofNat run.first + run.offset)
    (h : run.holds n = true) : run.capitals.holds (Int.ofNat n + run.offset).toNat = true := by
  obtain ⟨hfirst, hlast, hstep⟩ := holds_iff.mp h
  have hdistance : (Int.ofNat n + run.offset).toNat - (Int.ofNat run.first + run.offset).toNat =
      n - run.first := by
    simp only [Int.ofNat_eq_natCast] at hrun ⊢
    omega
  refine holds_iff.mpr ⟨?_, ?_, ?_⟩
  · simp only [capitals, Int.ofNat_eq_natCast]
    omega
  · simp only [capitals, Int.ofNat_eq_natCast]
    omega
  · simp only [capitals, hdistance, hstep]

/-- The runs have no letter in common: one ends before the other begins, or the letters of one stand between
those of the other. -/
def misses (a b : CaseRun) : Bool :=
  b.last.blt a.first || a.last.blt b.first ||
    ((a.first == a.last || a.step % b.step == 0) && a.first % b.step != b.first % b.step)

theorem modEq_of_holds {run : CaseRun} {n : Nat} (h : run.holds n = true) : run.first ≡ n [MOD run.step] := by
  obtain ⟨hfirst, -, hstep⟩ := holds_iff.mp h
  exact (Nat.modEq_iff_dvd' hfirst).mpr (Nat.dvd_of_mod_eq_zero hstep)

theorem not_holds_of_misses {a b : CaseRun} {n : Nat} (h : a.misses b = true) (hn : a.holds n = true) :
    b.holds n = false := by
  rw [Bool.eq_false_iff]
  intro hb
  obtain ⟨hfirst, hlast, -⟩ := holds_iff.mp hn
  obtain ⟨hfirst', hlast', -⟩ := holds_iff.mp hb
  simp only [misses, Bool.or_eq_true, Bool.and_eq_true, Nat.blt_eq, beq_iff_eq, bne_iff_ne] at h
  rcases h with (hbefore | hafter) | ⟨hstep, hne⟩
  · omega
  · omega
  · -- all letters of the first run leave the same remainder by the step of the second
    have ha : a.first ≡ n [MOD b.step] := by
      rcases hstep with hone | hdvd
      · exact congrArg (· % b.step) (by omega)
      · exact (modEq_of_holds hn).of_dvd (Nat.dvd_of_mod_eq_zero hdvd)
    exact hne (ha.trans (modEq_of_holds hb).symm)

def clears (a : CaseRun) : List CaseRun → Bool
  | [] => true
  | b :: rest => a.last.blt b.first || (a.misses b && clears a rest)

theorem not_holds_of_clears {a : CaseRun} {n : Nat} {runs : List CaseRun}
    (hsorted : runs.Pairwise fun b c => b.first ≤ c.first) (h : a.clears runs = true)
    (hn : a.holds n = true) : ∀ b ∈ runs, b.holds n = false := by
  induction runs with
  | nil => simp
  | cons b runs ih =>
      obtain ⟨hb, hruns⟩ := List.pairwise_cons.mp hsorted
      simp only [clears, Bool.or_eq_true, Bool.and_eq_true, Nat.blt_eq] at h
      rcases h with hlt | ⟨hmisses, hclears⟩
      · -- no later run begins before this one
        have hlast := (holds_iff.mp hn).2.1
        refine List.forall_mem_cons.mpr ⟨?_, fun c hc => ?_⟩
        · exact Bool.eq_false_iff.mpr fun hholds => by have := (holds_iff.mp hholds).1; omega
        · have := hb c hc
          exact Bool.eq_false_iff.mpr fun hholds => by have := (holds_iff.mp hholds).1; omega
      · exact List.forall_mem_cons.mpr ⟨not_holds_of_misses hmisses hn, ih hruns hclears⟩

end CaseRun

section Tables

def expandingRuns : List CaseRun :=
  expandingLetters.map fun entry => .single entry.1

def CaseRun.isUpper (run : CaseRun) : Bool :=
  run.clears caseRuns && run.clears expandingRuns

theorem tables_check :
    (caseRuns.IsChain (fun b c => b.first ≤ c.first) ∧ expandingRuns.IsChain fun b c => b.first ≤ c.first) ∧
    ((∀ run ∈ caseRuns, run.capitals.isUpper = true) ∧
      ∀ entry ∈ expandingLetters, entry.2.head?.any fun p => (CaseRun.single p).isUpper) ∧
    (∀ run ∈ caseRuns, 0 ≤ Int.ofNat run.first + run.offset ∧
      (run.capitals.last < 0xD800 ∨ 0xDFFF < run.capitals.first ∧ run.capitals.last < 0x110000)) ∧
    ∀ entry ∈ expandingLetters, ∀ p ∈ entry.2, p.isValidChar := by
  decide +kernel

theorem pairwise_of_isChain {runs : List CaseRun} (h : runs.IsChain fun b c => b.first ≤ c.first) :
    runs.Pairwise fun b c => b.first ≤ c.first := by
  have : IsTrans CaseRun fun b c => b.first ≤ c.first := ⟨fun _ _ _ => Nat.le_trans⟩
  exact List.isChain_iff_pairwise.mp h

theorem sorted_caseRuns : caseRuns.Pairwise fun b c => b.first ≤ c.first :=
  pairwise_of_isChain tables_check.1.1

theorem sorted_expandingRuns : expandingRuns.Pairwise fun b c => b.first ≤ c.first :=
  pairwise_of_isChain tables_check.1.2

theorem upperPoints_of_isUpper {run : CaseRun} {n : Nat} (h : run.isUpper = true) (hn : run.holds n = true) :
    upperPoints n = [n] := by
  simp only [CaseRun.isUpper, Bool.and_eq_true] at h
  have hruns : caseRuns.find? (fun run => run.holds n) = none :=
    List.find?_eq_none.mpr fun b hb => by
      simp [CaseRun.not_holds_of_clears sorted_caseRuns h.1 hn b hb]
  have hentries : expandingLetters.find? (fun entry => entry.1 == n) = none := by
    refine List.find?_eq_none.mpr fun entry hentry heq => ?_
    have hmem : CaseRun.single entry.1 ∈ expandingRuns := List.mem_map_of_mem hentry
    have hholds := CaseRun.not_holds_of_clears sorted_expandingRuns h.2 hn _ hmem
    rw [beq_iff_eq.mp heq, CaseRun.holds_single] at hholds
    cases hholds
  rw [upperPoints, hentries, hruns]

theorem isUpper_capitals : ∀ run ∈ caseRuns, run.capitals.isUpper = true :=
  tables_check.2.1.1

theorem capitals_are_scalar : ∀ run ∈ caseRuns, 0 ≤ Int.ofNat run.first + run.offset ∧
    (run.capitals.last < 0xD800 ∨ 0xDFFF < run.capitals.first ∧ run.capitals.last < 0x110000) :=
  tables_check.2.2.1

theorem isUpper_head : ∀ entry ∈ expandingLetters, entry.2.head?.any fun p => (CaseRun.single p).isUpper :=
  tables_check.2.1.2

theorem forms_are_scalar : ∀ entry ∈ expandingLetters, ∀ p ∈ entry.2, p.isValidChar :=
  tables_check.2.2.2

end Tables

theorem upperPoints_cases (n : Nat) :
    (∃ entry ∈ expandingLetters, upperPoints n = entry.2) ∨
      (∃ run ∈ caseRuns, run.holds n = true ∧ upperPoints n = [(Int.ofNat n + run.offset).toNat]) ∨
      upperPoints n = [n] := by
  unfold upperPoints
  split
  · rename_i entry hentry
    exact .inl ⟨entry, List.mem_of_find?_eq_some hentry, rfl⟩
  · split
    · rename_i run hrun
      have hholds := List.find?_some (p := fun run : CaseRun => run.holds n) hrun
      exact .inr (.inl ⟨run, List.mem_of_find?_eq_some hrun, hholds, rfl⟩)
    · exact .inr (.inr rfl)

theorem exists_upperPoints_eq_cons (n : Nat) :
    ∃ p ps, upperPoints n = p :: ps ∧ upperPoints p = [p] := by
  rcases upperPoints_cases n with ⟨entry, hentry, h⟩ | ⟨run, hrun, hholds, h⟩ | h
  · obtain ⟨p, hp, hupper⟩ := (Option.any_eq_true _ _).mp (isUpper_head entry hentry)
    obtain ⟨ps, hform⟩ := List.head?_eq_some_iff.mp hp
    exact ⟨p, ps, h.trans hform, upperPoints_of_isUpper hupper (CaseRun.holds_single p)⟩
  · have hcapital := CaseRun.holds_capitals (capitals_are_scalar run hrun).1 hholds
    exact ⟨_, [], h, upperPoints_of_isUpper (isUpper_capitals run hrun) hcapital⟩
  · exact ⟨n, [], h, h⟩

theorem isValidChar_of_mem_upperPoints {n p : Nat} (hn : n.isValidChar) (hp : p ∈ upperPoints n) :
    p.isValidChar := by
  rcases upperPoints_cases n with ⟨entry, hentry, h⟩ | ⟨run, hrun, hholds, h⟩ | h
  · exact forms_are_scalar entry hentry p (h ▸ hp)
  · obtain ⟨hnonneg, hscalar⟩ := capitals_are_scalar run hrun
    obtain ⟨hfirst, hlast, -⟩ := CaseRun.holds_iff.mp (CaseRun.holds_capitals hnonneg hholds)
    rw [h, List.mem_singleton] at hp
    subst hp
    rcases hscalar with hlow | ⟨hhigh, hlimit⟩
    · exact .inl (Nat.lt_of_le_of_lt hlast hlow)
    · exact .inr ⟨Nat.lt_of_lt_of_le hhigh hfirst, Nat.lt_of_le_of_lt hlast hlimit⟩
  · rw [h, List.mem_singleton] at hp
    exact hp ▸ hn

theorem toNat_ofNat_of_isValidChar {n : Nat} (h : n.isValidChar) : (Char.ofNat n).toNat = n := by
  rw [Char.ofNat, dif_pos h]
  rfl

theorem map_toNat_upper (c : Char) : (upper c).map Char.toNat = upperPoints c.toNat := by
  rw [upper, List.map_map]
  refine (List.map_congr_left fun p hp => ?_).trans (List.map_id _)
  exact toNat_ofNat_of_isValidChar (isValidChar_of_mem_upperPoints c.valid hp)

theorem exists_upper_eq_cons (c : Char) : ∃ d ds, upper c = d :: ds ∧ upper d = [d] := by
  obtain ⟨p, ps, hpoints, hfixed⟩ := exists_upperPoints_eq_cons c.toNat
  have hvalid : p.isValidChar := isValidChar_of_mem_upperPoints c.valid (hpoints ▸ List.mem_cons_self)
  refine ⟨Char.ofNat p, ps.map Char.ofNat, ?_, ?_⟩
  · rw [upper, hpoints, List.map_cons]
  · rw [upper, toNat_ofNat_of_isValidChar hvalid, hfixed, List.map_singleton]

theorem titled_ofList_cons (c : Char) (rest : List Char) :
    titled (String.ofList (c :: rest)) = String.ofList (upper c ++ rest) := by
  rw [titled, String.toList_ofList]

theorem titled_titled (s : String) : titled (titled s) = titled s := by
  obtain ⟨cs, rfl⟩ : ∃ cs, s = String.ofList cs := ⟨s.toList, String.ofList_toList.symm⟩
  cases cs with
  | nil => rfl
  | cons c rest =>
      obtain ⟨d, ds, hupper, hfixed⟩ := exists_upper_eq_cons c
      rw [titled_ofList_cons, hupper, List.cons_append, titled_ofList_cons, hfixed, List.singleton_append]

theorem titled_append {s : String} (h : s ≠ "") (t : String) : titled (s ++ t) = titled s ++ t := by
  obtain ⟨cs, rfl⟩ : ∃ cs, s = String.ofList cs := ⟨s.toList, String.ofList_toList.symm⟩
  obtain ⟨ds, rfl⟩ : ∃ ds, t = String.ofList ds := ⟨t.toList, String.ofList_toList.symm⟩
  cases cs with
  | nil => exact absurd rfl h
  | cons c rest =>
      rw [← String.ofList_append, List.cons_append, titled_ofList_cons, titled_ofList_cons,
        ← String.ofList_append, List.append_assoc]

/-- Making a title changes the first character, into all of its upper case, and what follows stays. Making it
again changes nothing. -/
theorem title_changes_the_first_character_for_good :
    (∀ s, titled (titled s) = titled s) ∧
    (∀ s t, s ≠ "" → titled (s ++ t) = titled s ++ t) ∧
    ∀ c t, titled (String.singleton c ++ t) = String.ofList (upper c) ++ t ∧
      (upper c).map Char.toNat = upperPoints c.toNat := by
  refine ⟨titled_titled, fun s t h => titled_append h t, fun c t => ⟨?_, map_toNat_upper c⟩⟩
  have hne : String.singleton c ≠ "" := by simp
  have hone : titled (String.singleton c) = String.ofList (upper c) := by
    rw [String.singleton_eq_ofList, titled_ofList_cons, List.append_nil]
  rw [titled_append hne, hone]

theorem title_changes_the_first_character_for_good_of_expanding_letters :
    "ŉ" ≠ "" ∧ titled ("ŉ" ++ "ß") = titled "ŉ" ++ "ß" ∧ titled "ŉ" = "ʼN" ∧
      titled (titled "ßa") = titled "ßa" ∧ titled "ßa" = "SSa" ∧
      titled (String.singleton 'ΐ' ++ "ß") = String.ofList ['Ι', '\u0308', '\u0301'] ++ "ß" ∧
      titled "plan" = "Plan" := by
  obtain ⟨hagain, happend, hfirst⟩ := title_changes_the_first_character_for_good
  have hne : "ŉ" ≠ "" := by decide
  have hupper : upper 'ΐ' = ['Ι', '\u0308', '\u0301'] := rfl
  have hplan : upper 'p' = ['P'] := by decide
  refine ⟨hne, happend "ŉ" "ß" hne, rfl, hagain "ßa", rfl, hupper ▸ (hfirst 'ΐ' "ß").1, ?_⟩
  exact (hplan ▸ (hfirst 'p' "lan").1 : titled (String.singleton 'p' ++ "lan") = String.ofList ['P'] ++ "lan")

end PullComment.Text
