import Mathlib.Data.List.Induction
import PullComment.Proofs.Session.Roles

/-!
Which responses share a list of results: those whose results go back to one step, a load, a reload, a deep
copy or a copy that replaced them, by way of shallow copies that left them alone.
-/

namespace PullComment.Session

open PullComment Schema

/-- A session, with the steps so far counted and, for what is under each name, the number of the step that its
results go back to. -/
structure Traced where
  state : State
  count : Nat
  origin : String → Option Nat

def Traced.initial : Traced :=
  ⟨.initial, 0, fun _ => none⟩

def Step.bound? (n : Nat) (origin : String → Option Nat) (st : Step) : Option (String × Option Nat) :=
  match st.action with
  | .load _ _ => some (st.name, some n)
  | .reload into => some (into, some n)
  | .copy into deep update =>
      if deep || (update.map Prod.fst).contains resultsName then some (into, some n)
      else some (into, origin st.name)
  | .take into _ => some (into, none)
  | _ => none

theorem bound?_of_observes {st : Step} (hst : st.action.observes = true) (n : Nat)
    (origin : String → Option Nat) : st.bound? n origin = none := by
  obtain ⟨name, action⟩ := st
  cases action <;> simp_all [Action.observes, Step.bound?]

def Traced.after (t : Traced) (st : Step) : Traced where
  state := Session.after t.state st
  count := t.count + 1
  origin :=
    match answer t.state st, st.bound? t.count t.origin with
    | .ok _, some (into, o) => fun x => if x = into then o else t.origin x
    | _, _ => t.origin

def traced (steps : List Step) : Traced :=
  steps.foldl Traced.after .initial

theorem traced_concat (steps : List Step) (st : Step) :
    traced (steps ++ [st]) = (traced steps).after st := by
  rw [traced, List.foldl_concat, traced]

theorem state_traced (steps : List Step) : (traced steps).state = stateAfter .initial steps := by
  induction steps using List.reverseRecOn with
  | nil => rfl
  | append_singleton steps st ih => rw [traced_concat, stateAfter_concat, ← ih, Traced.after]

namespace State

theorem subset_closure (s : State) (rounds : Nat) (cells : List Nat) : cells ⊆ s.closure rounds cells := by
  induction rounds generalizing cells with
  | zero => exact fun _ h => h
  | succ rounds ih =>
      intro cell hcell
      simp only [closure]
      split
      · exact hcell
      · exact ih _ (List.mem_eraseDups.mpr (List.mem_append_left _ hcell))

theorem mem_reachable {s : State} {h : Held Nat} {cell : Nat} (hcell : h.cell? = some cell) :
    cell ∈ s.reachable h := by
  refine s.subset_closure _ _ ?_
  rw [Option.mem_toList]
  exact hcell

end State

section Copies

variable {s : State} {h : Held Nat} {update : Replaced} {cell : Nat}

theorem results?_copyShallow (hupdate : resultsName ∉ update.map Prod.fst) :
    (copyShallow update s h).1.results? = h.results? := by
  rw [copyShallow, Held.results?_replace, (Update.of_not_mem hupdate _).1, Held.results?_renumber]
  cases h.results? with
  | none => rfl
  | some results => cases results <;> rfl

theorem cell_copyShallow (hupdate : resultsName ∈ update.map Prod.fst)
    (hcell : (copyShallow update s h).1.cell? = some cell) :
    s.lists.length ≤ cell ∧ cell < (copyShallow update s h).2.lists.length := by
  obtain ⟨results, hresults⟩ := Update.of_mem hupdate s.lists.length
  rw [Held.cell?_eq_some_iff, copyShallow, Held.results?_replace, hresults] at hcell
  obtain ⟨rfl, hone⟩ := Update.of_list (hresults.trans hcell)
  rw [copyShallow, List.length_append]
  omega

theorem cell_copyDeep (hcell : (copyDeep update s h).1.cell? = some cell) :
    s.lists.length ≤ cell ∧ cell < (copyDeep update s h).2.lists.length := by
  have hlength : (copyDeep update s h).2.lists.length = s.lists.length + (s.reachable h).length +
      (Update.ofMembers update (s.lists.length + (s.reachable h).length)).lists.length := by
    simp only [copyDeep, List.length_append, List.length_map]
  rw [Held.cell?_eq_some_iff, copyDeep, Held.results?_replace] at hcell
  rcases Option.or_eq_some_iff.mp hcell with hput | ⟨-, hown⟩
  · obtain ⟨rfl, hone⟩ := Update.of_list hput
    omega
  · rw [← Held.cell?_eq_some_iff, Held.cell?_renumber] at hown
    obtain ⟨old, hold, rfl⟩ := Option.map_eq_some_iff.mp hown
    -- The list of what is copied is among the lists that are copied along.
    unfold State.renumber
    cases hi : (s.reachable h).idxOf? old with
    | none => exact absurd (State.mem_reachable hold) (List.idxOf?_eq_none_iff.mp hi)
    | some i =>
        obtain ⟨hlt, -⟩ := List.idxOf?_eq_some_iff.mp hi
        show s.lists.length ≤ s.lists.length + i ∧ s.lists.length + i < _
        omega

theorem isResponse_copyHeld (deep : Bool) : (copyHeld deep update s h).1.isResponse = h.isResponse := by
  cases deep <;> exact (Held.isResponse_replace _ _ _ _).trans (Held.isResponse_renumber _ _ _)

theorem lists_le_copyHeld (deep : Bool) : s.lists.length ≤ (copyHeld deep update s h).2.lists.length := by
  cases deep with
  | false =>
      show s.lists.length ≤ (s.lists ++ _).length
      rw [List.length_append]
      omega
  | true =>
      show s.lists.length ≤ (s.lists ++ _ ++ _).length
      rw [List.length_append, List.length_append]
      omega

end Copies

theorem exists_response {h : Held Nat} (hresponse : h.isResponse = true) : ∃ r, h = .response r := by
  cases h with
  | variant v => cases hresponse
  | result r => cases hresponse
  | response r => exact ⟨r, rfl⟩

/-- The results that each step made, by which the lists of two steps are told apart. -/
structure Traced.Made (t : Traced) (made : Nat → Results Nat) : Prop where
  held : ∀ x r, t.state.held x = some (.response r) →
    ∃ i < t.count, t.origin x = some i ∧ made i = r.currentResults
  there : ∀ i < t.count, ∀ cell, made i = .list cell → cell < t.state.lists.length
  single : ∀ i < t.count, ∀ j < t.count, ∀ cell, made i = .list cell → made j = .list cell → i = j

namespace Traced

variable {t t' : Traced} {made : Nat → Results Nat}

theorem Made.extend (hmade : t.Made made) (new : Results Nat) (hcount : t'.count = t.count + 1)
    (hlists : t.state.lists.length ≤ t'.state.lists.length)
    (hnew : ∀ cell, new = .list cell → t.state.lists.length ≤ cell ∧ cell < t'.state.lists.length)
    (hheld : ∀ x r, t'.state.held x = some (.response r) →
      (∃ y q, t.state.held y = some (.response q) ∧ q.currentResults = r.currentResults ∧
        t'.origin x = t.origin y) ∨
      (t'.origin x = some t.count ∧ r.currentResults = new)) :
    t'.Made fun i => if i = t.count then new else made i := by
  refine ⟨?_, ?_, ?_⟩
  · intro x r hx
    rcases hheld x r hx with ⟨y, q, hy, hsame, horigin⟩ | ⟨horigin, rfl⟩
    · obtain ⟨i, hi, ho, hr⟩ := hmade.held y q hy
      refine ⟨i, by omega, horigin.trans ho, ?_⟩
      rw [if_neg (by omega), hr, hsame]
    · exact ⟨t.count, by omega, horigin, if_pos rfl⟩
  · intro i hi cell hcell
    by_cases hlast : i = t.count
    · rw [if_pos hlast] at hcell
      exact (hnew cell hcell).2
    · rw [if_neg hlast] at hcell
      exact Nat.lt_of_lt_of_le (hmade.there i (by omega) cell hcell) hlists
  · intro i hi j hj cell hicell hjcell
    by_cases hilast : i = t.count <;> by_cases hjlast : j = t.count
    · omega
    · rw [if_pos hilast] at hicell
      rw [if_neg hjlast] at hjcell
      have hold := hmade.there j (by omega) cell hjcell
      have hfresh := hnew cell hicell
      omega
    · rw [if_neg hilast] at hicell
      rw [if_pos hjlast] at hjcell
      have hold := hmade.there i (by omega) cell hicell
      have hfresh := hnew cell hjcell
      omega
    · rw [if_neg hilast] at hicell
      rw [if_neg hjlast] at hjcell
      exact hmade.single i (by omega) j (by omega) cell hicell hjcell

theorem Made.of_held (hmade : t.Made made) (hcount : t'.count = t.count + 1)
    (hlists : t.state.lists.length ≤ t'.state.lists.length) (hheld : t'.state.held = t.state.held)
    (horigin : t'.origin = t.origin) : ∃ made', t'.Made made' := by
  refine ⟨_, hmade.extend (.plain .null) hcount hlists (by simp) ?_⟩
  intro x r hx
  rw [hheld] at hx
  exact .inl ⟨x, r, hx, rfl, congrFun horigin x⟩

theorem Made.of_bound {into : String} {h : Held Nat} {o : Option Nat} (hmade : t.Made made)
    (hcount : t'.count = t.count + 1) (hlists : t.state.lists.length ≤ t'.state.lists.length)
    (hheld : t'.state.held = fun x => if x = into then some h else t.state.held x)
    (horigin : t'.origin = fun x => if x = into then o else t.origin x)
    (hbound : ∀ r, h = .response r →
      (∃ y q, t.state.held y = some (.response q) ∧ q.currentResults = r.currentResults ∧ o = t.origin y) ∨
      (o = some t.count ∧ ∀ cell, r.currentResults = .list cell →
        t.state.lists.length ≤ cell ∧ cell < t'.state.lists.length)) :
    ∃ made', t'.Made made' := by
  -- What the step made is what is bound, unless that only passes on what was held already.
  obtain ⟨new, hfresh, hnew⟩ : ∃ new : Results Nat,
      (∀ cell, new = .list cell → t.state.lists.length ≤ cell ∧ cell < t'.state.lists.length) ∧
      ∀ r, h = .response r →
        (∃ y q, t.state.held y = some (.response q) ∧ q.currentResults = r.currentResults ∧
          o = t.origin y) ∨
        (o = some t.count ∧ r.currentResults = new) := by
    cases h with
    | variant v => exact ⟨.plain .null, by simp, by simp⟩
    | result q => exact ⟨.plain .null, by simp, by simp⟩
    | response q =>
        rcases hbound q rfl with hold | ⟨ho, hcell⟩
        · refine ⟨.plain .null, by simp, ?_⟩
          intro r hr
          cases hr
          exact .inl hold
        · refine ⟨q.currentResults, hcell, ?_⟩
          intro r hr
          cases hr
          exact .inr ⟨ho, rfl⟩
  refine ⟨_, hmade.extend new hcount hlists hfresh ?_⟩
  intro x r hx
  rw [congrFun hheld x] at hx
  rw [congrFun horigin x]
  by_cases hinto : x = into
  · simp only [if_pos hinto] at hx ⊢
    exact hnew r (Option.some.inj hx)
  · simp only [if_neg hinto] at hx ⊢
    exact .inl ⟨x, r, hx, rfl, rfl⟩

theorem Made.of_record {into : String} {r : Record} (hmade : t.Made made) (hcount : t'.count = t.count + 1)
    (hstate : t'.state = t.state.bindRecord into r)
    (horigin : t'.origin = fun x => if x = into then some t.count else t.origin x) :
    ∃ made', t'.Made made' := by
  rcases t.state.bindRecord_cases into r with ⟨h, hresponse, -, -, he⟩ | ⟨q, he⟩
  · have hbound : t'.state = (t.state.advance 1).bind into h := hstate.trans he
    refine hmade.of_bound (h := h) hcount ?_ ?_ horigin ?_
    · rw [hbound]
      exact Nat.le_refl _
    · rw [hbound]
      rfl
    · rintro p rfl
      cases hresponse
  · have hbound := hstate.trans he
    have hlength : t'.state.lists.length = t.state.lists.length + 1 := by
      rw [hbound]
      exact List.length_append
    refine hmade.of_bound
      (h := .response (.fresh t.state.next (q.mapResults fun _ => t.state.lists.length)))
      hcount (by omega) ?_ horigin ?_
    · rw [hbound]
      rfl
    · intro p hp
      cases hp
      refine .inr ⟨rfl, ?_⟩
      intro cell hcell
      obtain rfl : t.state.lists.length = cell := Results.list.inj hcell
      omega

theorem after_of_error {st : Step} {refusal : Refusal} (h : answer t.state st = .error refusal) :
    t.after st = ⟨t.state, t.count + 1, t.origin⟩ := by
  simp only [Traced.after, Session.after_of_error h, h]

theorem after_of_bound {st : Step} {a : Answer} {into : String} {o : Option Nat}
    (h : answer t.state st = .ok a) (hbound : st.bound? t.count t.origin = some (into, o)) :
    t.after st = ⟨Session.after t.state st, t.count + 1, fun x => if x = into then o else t.origin x⟩ := by
  simp only [Traced.after, h, hbound]

theorem after_of_unbound {st : Step} {a : Answer} (h : answer t.state st = .ok a)
    (hbound : st.bound? t.count t.origin = none) :
    t.after st = ⟨Session.after t.state st, t.count + 1, t.origin⟩ := by
  simp only [Traced.after, h, hbound]

theorem Made.copied {name into : String} {deep : Bool} {update : Replaced} {h : Held Nat} {o : Option Nat}
    (hmade : t.Made made) (hname : t.state.held name = some h)
    (hbound : (Step.mk name (.copy into deep update)).bound? t.count t.origin = some (into, o))
    (hcount : t'.count = t.count + 1)
    (hstate : t'.state = (copyHeld deep update t.state h).2.bind into (copyHeld deep update t.state h).1)
    (horigin : t'.origin = fun x => if x = into then o else t.origin x) : ∃ made', t'.Made made' := by
  have hlists : t'.state.lists = (copyHeld deep update t.state h).2.lists := by
    rw [hstate]
    rfl
  have hheld : t'.state.held =
      fun x => if x = into then some (copyHeld deep update t.state h).1 else t.state.held x := by
    rw [hstate]
    cases deep <;> rfl
  refine hmade.of_bound hcount (hlists ▸ lists_le_copyHeld deep) hheld horigin ?_
  intro r hr
  have hcell : ∀ cell, r.currentResults = .list cell →
      (copyHeld deep update t.state h).1.cell? = some cell := by
    intro cell hcell
    rw [Held.cell?_eq_some_iff, hr]
    exact congrArg some hcell
  rw [hlists]
  cases deep with
  | true =>
      cases hbound
      exact .inr ⟨rfl, fun cell h => cell_copyDeep (hcell cell h)⟩
  | false =>
      by_cases hupdate : resultsName ∈ update.map Prod.fst
      · simp only [Step.bound?, Bool.false_or, List.contains_iff_mem, if_pos hupdate] at hbound
        cases hbound
        exact .inr ⟨rfl, fun cell h => cell_copyShallow hupdate (hcell cell h)⟩
      · simp only [Step.bound?, Bool.false_or, List.contains_iff_mem, if_neg hupdate] at hbound
        cases hbound
        have hresponse : h.isResponse = true := by
          have hkept : (copyHeld false update t.state h).1.isResponse = h.isResponse := isResponse_copyHeld false
          rw [← hkept, hr]
          rfl
        obtain ⟨q, rfl⟩ := exists_response hresponse
        have hsame : (copyShallow update t.state (.response q)).1.results? = (Held.response q).results? :=
          results?_copyShallow hupdate
        rw [show (copyShallow update t.state (.response q)).1 = .response r from hr] at hsame
        exact .inl ⟨name, q, hname, (Option.some.inj hsame).symm, rfl⟩

theorem Made.after (hmade : t.Made made) (st : Step) : ∃ made', (t.after st).Made made' := by
  cases hanswer : answer t.state st with
  | error refusal =>
      rw [after_of_error hanswer]
      exact hmade.of_held rfl (Nat.le_refl _) rfl rfl
  | ok a =>
      have hchange := change_of_step (step_of_answer hanswer)
      generalize hlast : Session.after t.state st = s' at hchange
      cases hchange with
      | observed hst _ =>
          rw [after_of_unbound hanswer (bound?_of_observes hst _ _), hlast]
          exact hmade.of_held rfl (Nat.le_refl _) rfl rfl
      | loaded _ =>
          rw [after_of_bound hanswer rfl, hlast]
          exact hmade.of_record rfl rfl rfl
      | reloaded _ _ =>
          rw [after_of_bound hanswer rfl, hlast]
          exact hmade.of_record rfl rfl rfl
      | @copied name into deep update h hname _ =>
          obtain ⟨o, ho⟩ : ∃ o,
              (Step.mk name (.copy into deep update)).bound? t.count t.origin = some (into, o) := by
            simp only [Step.bound?]
            split <;> exact ⟨_, rfl⟩
          rw [after_of_bound hanswer ho, hlast]
          exact hmade.copied hname ho rfl rfl rfl
      | taken _ _ _ =>
          rw [after_of_bound hanswer rfl, hlast]
          exact hmade.of_bound rfl (Nat.le_refl _) rfl rfl (by simp)
      | appended _ _ _ =>
          rw [after_of_unbound hanswer rfl, hlast]
          exact hmade.of_held rfl (Nat.le_of_eq List.length_set.symm) rfl rfl
      | popped _ _ _ _ =>
          rw [after_of_unbound hanswer rfl, hlast]
          exact hmade.of_held rfl (Nat.le_of_eq List.length_set.symm) rfl rfl
      | reversed _ _ _ =>
          rw [after_of_unbound hanswer rfl, hlast]
          exact hmade.of_held rfl (Nat.le_of_eq List.length_set.symm) rfl rfl

theorem exists_made (steps : List Step) : ∃ made, (traced steps).Made made := by
  induction steps using List.reverseRecOn with
  | nil =>
      refine ⟨fun _ => .plain .null, ?_, by simp, by simp⟩
      intro x r hx
      cases hx
  | append_singleton steps st ih =>
      obtain ⟨made, hmade⟩ := ih
      rw [traced_concat]
      exact hmade.after st

theorem Made.currentResults_eq {x y : String} {a b : Patched Nat (Response Nat)} {i : Nat} (hmade : t.Made made)
    (hx : t.state.held x = some (.response a)) (hy : t.state.held y = some (.response b))
    (hxi : t.origin x = some i) (hyi : t.origin y = some i) : a.currentResults = b.currentResults := by
  obtain ⟨j, -, hj, ha⟩ := hmade.held x a hx
  obtain ⟨k, -, hk, hb⟩ := hmade.held y b hy
  cases hxi.symm.trans hj
  cases hyi.symm.trans hk
  rw [← ha, hb]

theorem Made.origin_eq {x y : String} {a b : Patched Nat (Response Nat)} {cell : Nat} (hmade : t.Made made)
    (hx : t.state.held x = some (.response a)) (hy : t.state.held y = some (.response b))
    (ha : a.currentResults = .list cell) (hb : b.currentResults = .list cell) :
    ∃ i, t.origin x = some i ∧ t.origin y = some i := by
  obtain ⟨i, hi, hxi, hai⟩ := hmade.held x a hx
  obtain ⟨j, hj, hyj, hbj⟩ := hmade.held y b hy
  have hsame : i = j := hmade.single i hi j hj cell (hai.trans ha) (hbj.trans hb)
  exact ⟨i, hxi, hsame ▸ hyj⟩

end Traced

end PullComment.Session
