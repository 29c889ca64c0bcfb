import Mathlib.Algebra.Group.Int.Defs
import Mathlib.Algebra.Group.Nat.Defs
import PullComment.Proofs.Json.Written

namespace PullComment.Json

namespace Reading

variable {limit : Nat}

theorem run_of_step {reading : Reading} {token : Token} (next : Reading) (rest : List Token)
    (h : step limit reading token = some next) :
    run limit reading (token :: rest) = run limit next rest := by
  rw [run, h]

theorem tokensOf_eq_cons (v : Json) : ∃ token ts, tokensOf v = token :: ts ∧ token ≠ .closeBracket := by
  cases v with
  | null => exact ⟨_, _, rfl, by simp⟩
  | bool b => exact ⟨_, _, rfl, by simp⟩
  | number n => exact ⟨_, _, rfl, by simp⟩
  | string s => exact ⟨_, _, rfl, by simp⟩
  | array items => cases items <;> (rw [tokensOf]; exact ⟨_, _, rfl, by simp⟩)
  | object members => cases members <;> (rw [tokensOf]; exact ⟨_, _, rfl, by simp⟩)

theorem run_item (v : Json) (stack : List Frame) (rest : List Token) :
    run limit (.item stack) (tokensOf v ++ rest) =
      run limit (.value (.array [] :: stack)) (tokensOf v ++ rest) := by
  obtain ⟨token, ts, hv, hne⟩ := tokensOf_eq_cons v
  rw [hv, List.cons_append, run, run]
  cases token <;> first | rfl | exact absurd rfl hne

mutual

theorem run_tokensOf : ∀ (v : Json) (stack : List Frame) (rest : List Token),
    stack.length + v.levels ≤ limit →
      run limit (.value stack) (tokensOf v ++ rest) = run limit (.complete stack v) rest
  | .null, stack, rest, h => by
      have hs : stack.length < limit := h
      exact run_of_step _ rest (by simp [step, begin, hs])
  | .bool b, stack, rest, h => by
      have hs : stack.length < limit := h
      exact run_of_step _ rest (by simp [step, begin, hs])
  | .number n, stack, rest, h => by
      have hs : stack.length < limit := h
      exact run_of_step _ rest (by simp [step, begin, hs])
  | .string s, stack, rest, h => by
      have hs : stack.length < limit := h
      exact run_of_step _ rest (by simp [step, begin, hs])
  | .array [], stack, rest, h => by
      have hs : stack.length < limit := by rw [levels, levelsItems] at h; omega
      rw [tokensOf, List.cons_append, run_of_step (.item stack) _ (by simp [step, begin, hs])]
      exact run_of_step _ rest rfl
  | .array (x :: items), stack, rest, h => by
      simp only [levels, levelsItems] at h
      have hs : stack.length < limit := by omega
      have hitem := run_tokensOf x (.array [] :: stack)
        (itemTokens items ++ .closeBracket :: rest) (by rw [List.length_cons]; omega)
      have hitems := run_itemTokens items stack [] x rest (by omega)
      rw [tokensOf]
      simp only [List.cons_append, List.append_assoc, List.nil_append]
      rw [run_of_step (.item stack) _ (by simp [step, begin, hs]), run_item, hitem, hitems]
      rfl
  | .object [], stack, rest, h => by
      have hs : stack.length < limit := by rw [levels, levelsMembers] at h; omega
      rw [tokensOf, List.cons_append,
        run_of_step (.name stack [] true) _ (by simp [step, begin, hs])]
      exact run_of_step _ rest rfl
  | .object ((n, v) :: members), stack, rest, h => by
      simp only [levels, levelsMembers] at h
      have hs : stack.length < limit := by omega
      have hvalue := run_tokensOf v (.object [] n :: stack)
        (memberTokens members ++ .closeBrace :: rest) (by rw [List.length_cons]; omega)
      have hmembers := run_memberTokens members stack [] n v rest (by omega)
      rw [tokensOf]
      simp only [List.cons_append, List.append_assoc, List.nil_append]
      rw [run_of_step (.name stack [] true) _ (by simp [step, begin, hs]),
        run_of_step (.colon stack [] n) _ rfl,
        run_of_step (.value (.object [] n :: stack)) _ rfl, hvalue, hmembers]
      rfl

theorem run_itemTokens : ∀ (items : List Json) (stack : List Frame) (done : List Json) (v : Json)
    (rest : List Token), stack.length + 1 + levelsItems items ≤ limit →
      run limit (.complete (.array done :: stack) v) (itemTokens items ++ .closeBracket :: rest) =
        run limit (.complete stack (.array (done.reverse ++ v :: items))) rest
  | [], stack, done, v, rest, _ => by
      rw [itemTokens, List.nil_append, run_of_step (.complete stack (.array (v :: done).reverse)) _ rfl,
        List.reverse_cons]
  | x :: items, stack, done, v, rest, h => by
      simp only [levelsItems] at h
      have hitem := run_tokensOf x (.array (v :: done) :: stack)
        (itemTokens items ++ .closeBracket :: rest) (by rw [List.length_cons]; omega)
      have hitems := run_itemTokens items stack (v :: done) x rest (by omega)
      rw [itemTokens, List.cons_append, List.cons_append, List.append_assoc,
        run_of_step (.value (.array (v :: done) :: stack)) _ rfl, hitem, hitems,
        List.reverse_cons, List.append_assoc, List.singleton_append]

theorem run_memberTokens : ∀ (members : List (String × Json)) (stack : List Frame)
    (done : List (String × Json)) (key : String) (v : Json) (rest : List Token),
    stack.length + 1 + levelsMembers members ≤ limit →
      run limit (.complete (.object done key :: stack) v) (memberTokens members ++ .closeBrace :: rest) =
        run limit (.complete stack (.object (done.reverse ++ (key, v) :: members))) rest
  | [], stack, done, key, v, rest, _ => by
      rw [memberTokens, List.nil_append,
        run_of_step (.complete stack (.object ((key, v) :: done).reverse)) _ rfl, List.reverse_cons]
  | (n, w) :: members, stack, done, key, v, rest, h => by
      simp only [levelsMembers] at h
      have hvalue := run_tokensOf w (.object ((key, v) :: done) n :: stack)
        (memberTokens members ++ .closeBrace :: rest) (by rw [List.length_cons]; omega)
      have hmembers := run_memberTokens members stack ((key, v) :: done) n w rest (by omega)
      rw [memberTokens]
      simp only [List.cons_append, List.append_assoc]
      rw [run_of_step (.name stack ((key, v) :: done) false) _ rfl,
        run_of_step (.colon stack ((key, v) :: done) n) _ rfl,
        run_of_step (.value (.object ((key, v) :: done) n :: stack)) _ rfl, hvalue, hmembers,
        List.reverse_cons, List.append_assoc, List.singleton_append]

end

end Reading

theorem ofTokens?_tokensOf {limit : Nat} {v : Json} (h : v.levels ≤ limit) :
    ofTokens? limit (tokensOf v) = some v := by
  have hv := @Reading.run_tokensOf limit v [] [] (by simpa using h)
  rw [List.append_nil] at hv
  rw [ofTokens?, hv]
  rfl

theorem levelsItems_le_iff {n : Nat} {items : List Json} :
    levelsItems items ≤ n ↔ ∀ item ∈ items, item.levels ≤ n := by
  induction items with
  | nil => simp [levelsItems]
  | cons item items ih => rw [levelsItems, Nat.max_le, ih, List.forall_mem_cons]

theorem levelsMembers_le_iff {n : Nat} {members : List (String × Json)} :
    levelsMembers members ≤ n ↔ ∀ m ∈ members, m.2.levels ≤ n := by
  induction members with
  | nil => simp [levelsMembers]
  | cons m members ih =>
      obtain ⟨name, v⟩ := m
      rw [levelsMembers, Nat.max_le, ih, List.forall_mem_cons]

theorem NumberFree.numbers_eq {v : Json} (h : v.NumberFree) : v.numbers = [] := by
  induction h with
  | null => rfl
  | bool b => rfl
  | string s => rfl
  | array _ ih =>
      refine List.eq_nil_iff_forall_not_mem.mpr fun n hn => ?_
      obtain ⟨item, hitem, hn⟩ := mem_numbersItems.mp hn
      exact List.eq_nil_iff_forall_not_mem.mp (ih item hitem) n hn
  | object _ ih =>
      refine List.eq_nil_iff_forall_not_mem.mpr fun n hn => ?_
      obtain ⟨m, hm, hn⟩ := mem_numbersMembers.mp hn
      exact List.eq_nil_iff_forall_not_mem.mp (ih m hm) n hn

structure Plain (n : Nat) (v : Json) : Prop where
  numberFree : v.NumberFree
  levels_le : v.levels ≤ n

namespace Plain

theorem mono {m n : Nat} {v : Json} (h : v.Plain m) (hmn : m ≤ n) : v.Plain n :=
  ⟨h.numberFree, Nat.le_trans h.levels_le hmn⟩

theorem null : Plain 1 .null :=
  ⟨.null, Nat.le_refl 1⟩

theorem string (s : String) : Plain 1 (.string s) :=
  ⟨.string s, Nat.le_refl 1⟩

theorem array {n : Nat} {items : List Json} (h : ∀ item ∈ items, item.Plain n) : Plain (n + 1) (.array items) :=
  ⟨.array fun item hitem => (h item hitem).numberFree,
    Nat.succ_le_succ (levelsItems_le_iff.mpr fun item hitem => (h item hitem).levels_le)⟩

theorem object {n : Nat} {members : List (String × Json)} (h : ∀ m ∈ members, m.2.Plain n) :
    Plain (n + 1) (.object members) :=
  ⟨.object fun m hm => (h m hm).numberFree,
    Nat.succ_le_succ (levelsMembers_le_iff.mpr fun m hm => (h m hm).levels_le)⟩

theorem withinLimits {v : Json} (h : v.Plain Reading.levelLimit) : v.WithinLimits := by
  refine ⟨h.levels_le, ?_⟩
  rw [h.numberFree.numbers_eq]
  exact List.forall_mem_nil _

end Plain

theorem parse_print {v : Json} (h : v.Plain Reading.levelLimit) (layout : Layout) :
    parse (print layout v) = some v := by
  rw [parse, parseWithin, tokens_print h.numberFree, Option.bind_some, ofTokens?_tokensOf h.levels_le]

end PullComment.Json
