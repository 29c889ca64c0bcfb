import PullComment.Proofs.Session.Origin

namespace PullComment.Session

open PullComment Schema

namespace Held

/-- Nothing that can be asked of something held tells these two apart. -/
structure LooksLike (a b : Held (List Entry)) : Prop where
  results : a.results? = b.results?
  value : ∀ name, a.value name = b.value name
  fieldsSet : a.fieldsSet = b.fieldsSet
  dump : ∀ o, a.dump o = b.dump o
  write : ∀ layout, a.write layout = b.write layout
  content : a.content = b.content
  same : ∀ c, a.same c = b.same c ∧ c.same a = c.same b
  hashable : a.hashable = b.hashable
  hashed : a.hashed = b.hashed

theorem LooksLike.of_eq {a b : Held (List Entry)} (h : a = b) : a.LooksLike b := by
  subst h
  exact ⟨rfl, fun _ => rfl, rfl, fun _ => rfl, fun _ => rfl, rfl, fun _ => ⟨rfl, rfl⟩, rfl, rfl⟩

theorem looksLike_map {f g : Nat → List Entry} {h : Held Nat}
    (hresults : (h.map f).results? = (h.map g).results?) : (h.map f).LooksLike (h.map g) := by
  cases h with
  | variant v =>
      have hsame : v.results?.map (Results.map f) = v.results?.map (Results.map g) := hresults
      refine .of_eq ?_
      simp only [map, Patched.map, hsame]
  | result r =>
      have hsame : r.results?.map (Results.map f) = r.results?.map (Results.map g) := hresults
      refine .of_eq ?_
      simp only [map, Patched.map, hsame]
  | response r =>
      obtain ⟨base, replaced, results?, named, number⟩ := r
      cases results? with
      | none =>
          have hsame : f base.results = g base.results := Results.list.inj (Option.some.inj hresults)
          refine .of_eq ?_
          simp only [map, Patched.map, Response.mapResults, hsame, Option.map_none]
      | some results =>
          have hsame : results.map f = results.map g := Option.some.inj hresults
          simp only [map, Patched.map, Option.map_some, hsame]
          refine ⟨rfl, fun _ => rfl, rfl, fun _ => rfl, fun _ => rfl, rfl, ?_, rfl, rfl⟩
          intro c
          cases c <;> exact ⟨rfl, rfl⟩

theorem value_map {ρ σ : Type} (f g : ρ → σ) (h : Held ρ) (name : String) :
    (h.map f).value name = (h.map g).value name := by
  cases h <;> rfl

theorem map_name_filter_given (fields : List Field) :
    (fields.filter Field.given).map Field.name =
      ((fields.map fun f => (f.name, f.given)).filter Prod.snd).map Prod.fst := by
  rw [List.filter_map, List.map_map]
  rfl

theorem fieldsSet_map (f g : Nat → List Entry) (h : Held Nat) : (h.map f).fieldsSet = (h.map g).fieldsSet := by
  unfold fieldsSet
  rw [map_name_filter_given, map_name_filter_given]
  cases h <;> rfl

end Held

def Share (a b : Patched Nat (Response Nat)) : Prop :=
  ∃ cell, a.currentResults = .list cell ∧ b.currentResults = .list cell

def Action.edits : Action → Bool
  | .append _ => true
  | .pop _ => true
  | .reverse => true
  | _ => false

theorem Action.not_observes_of_edits {action : Action} (h : action.edits = true) : action.observes = false := by
  cases action <;> simp_all [edits, observes]

inductive Edited (s : State) (items : List Entry) : Action → List Entry → Prop
  | append {other : String} {r : Patched Nat Result} (h : s.held other = some (.result r)) :
      Edited s items (.append other) (items ++ [.result r])
  | pop {index : Int} {i : Nat} (h : Index.resolve items.length index = some i) :
      Edited s items (.pop index) (items.eraseIdx i)
  | reverse : Edited s items .reverse items.reverse

theorem edited_of_step {s s' : State} {st : Step} {a : Answer} {h : Held Nat} (hst : st.action.edits = true)
    (hname : s.held st.name = some h) (hstep : step s st = (.ok a, s')) :
    ∃ cell items, h.results? = some (.list cell) ∧ Edited s (s.listAt cell) st.action items ∧
      s' = s.setList cell items := by
  have hchange := change_of_step hstep
  cases hchange with
  | observed hobserves _ => cases (Action.not_observes_of_edits hst).symm.trans hobserves
  | loaded _ => cases hst
  | reloaded _ _ => cases hst
  | copied _ _ => cases hst
  | taken _ _ _ => cases hst
  | appended hknown hcell hother =>
      cases hname.symm.trans hknown
      exact ⟨_, _, hcell, .append hother, rfl⟩
  | popped hknown hcell hout _ =>
      cases hname.symm.trans hknown
      obtain ⟨i, hi, -, rfl⟩ := Entry.takeOut_eq_ok hout
      exact ⟨_, _, hcell, .pop hi, rfl⟩
  | reversed hknown hcell _ =>
      cases hname.symm.trans hknown
      exact ⟨_, _, hcell, .reverse, rfl⟩

namespace State

theorem listAt_setList (s : State) {cell : Nat} (hcell : cell < s.lists.length) (items : List Entry) :
    (s.setList cell items).listAt cell = items := by
  simp only [listAt, setList, List.getElem?_set_self hcell, Option.getD_some]

theorem listAt_setList_of_ne (s : State) {cell other : Nat} (hother : other ≠ cell) (items : List Entry) :
    (s.setList cell items).listAt other = s.listAt other := by
  simp only [listAt, setList, List.getElem?_set_ne (Ne.symm hother)]

end State

theorem results?_view_setList {s : State} {cell : Nat} {h : Held Nat} (hcell : cell < s.lists.length)
    (hh : h.results? = some (.list cell)) (items : List Entry) :
    ((s.setList cell items).view h).results? = some (.list items) := by
  rw [State.view, Held.results?_map, hh]
  exact congrArg (fun l => some (Results.list l)) (s.listAt_setList hcell items)

theorem looksLike_view_setList {s : State} {cell : Nat} {h : Held Nat} (hh : h.results? ≠ some (.list cell))
    (items : List Entry) : ((s.setList cell items).view h).LooksLike (s.view h) := by
  refine Held.looksLike_map ?_
  rw [Held.results?_map, Held.results?_map]
  cases hresults : h.results? with
  | none => rfl
  | some results =>
      cases results with
      | plain v => rfl
      | list other =>
          have hother : other ≠ cell := by
            rintro rfl
            exact hh hresults
          exact congrArg (fun l => some (Results.list l)) (s.listAt_setList_of_ne hother items)

theorem Roles.Sorts.exists_response {K : Roles} {s : State} {x y : String} {r : Patched Nat (Response Nat)}
    {h : Held Nat} {cell : Nat} (hs : K.Sorts s) (hx : s.held x = some (.response r)) (hy : s.held y = some h)
    (hr : r.currentResults = .list cell) (hh : h.results? = some (.list cell)) : ∃ b, h = .response b := by
  have hlist : (Held.response r).results? = some (.list cell) := congrArg some hr
  have hmine := ((hs.held x _ hx).cell cell (Held.cell?_eq_some_iff.mpr hlist)).2
  have hother := ((hs.held y _ hy).cell cell (Held.cell?_eq_some_iff.mpr hh)).2
  exact Session.exists_response (hother.symm.trans hmine)

/-- In every session, two responses share their list just when their results go back to one step. What a step
makes of the list of one shows in all that share it, whose other fields keep their values; all else that is
held looks as it did. -/
theorem lists_are_shared_by_origin_and_change_alone (steps : List Step) :
    let t := traced steps
    let s := stateAfter .initial steps
    (∀ x y a b, s.held x = some (.response a) → s.held y = some (.response b) →
      (Share a b ↔
        (∃ cell, a.currentResults = .list cell) ∧ ∃ i, t.origin x = some i ∧ t.origin y = some i)) ∧
    ∀ (st : Step) (answer : Answer) (s' : State) (r : Patched Nat (Response Nat)), st.action.edits = true →
      s.held st.name = some (.response r) → step s st = (.ok answer, s') →
      ∃ cell items, r.currentResults = .list cell ∧ Edited s (s.listAt cell) st.action items ∧
        s'.held = s.held ∧
        (∀ y b, s.held y = some (.response b) → Share r b →
          (s'.view (.response b)).results? = some (.list items) ∧
          (∀ name, (s'.view (.response b)).value name = (s.view (.response b)).value name) ∧
          (s'.view (.response b)).fieldsSet = (s.view (.response b)).fieldsSet) ∧
        ∀ y h, s.held y = some h → (∀ b, h = .response b → ¬ Share r b) →
          (s'.view h).LooksLike (s.view h) := by
  intro t s
  have hstate : t.state = s := state_traced steps
  constructor
  · intro x y a b hx hy
    obtain ⟨made, hmade⟩ := Traced.exists_made steps
    rw [← hstate] at hx hy
    constructor
    · rintro ⟨cell, ha, hb⟩
      exact ⟨⟨cell, ha⟩, hmade.origin_eq hx hy ha hb⟩
    · rintro ⟨⟨cell, ha⟩, i, hxi, hyi⟩
      exact ⟨cell, ha, (hmade.currentResults_eq hx hy hxi hyi).symm.trans ha⟩
  · intro st answer s' r hst hname hstep
    obtain ⟨K, hs⟩ := Roles.exists_sorts steps
    obtain ⟨cell, items, hresults, hedited, rfl⟩ := edited_of_step hst hname hstep
    have hr : r.currentResults = .list cell := Option.some.inj hresults
    have hcell : cell < s.lists.length :=
      ((hs.held _ _ hname).cell cell (Held.cell?_eq_some_iff.mpr hresults)).1
    refine ⟨cell, items, hr, hedited, rfl, ?_, ?_⟩
    · rintro y b - ⟨place, hplace, hb⟩
      cases hr.symm.trans hplace
      have hshared : (Held.response b).results? = some (.list cell) := congrArg some hb
      refine ⟨results?_view_setList hcell hshared items, ?_, ?_⟩
      · intro name
        exact Held.value_map _ _ _ name
      · exact Held.fieldsSet_map _ _ _
    · intro y h hy hshare
      refine looksLike_view_setList ?_ items
      intro hh
      obtain ⟨b, rfl⟩ := hs.exists_response hname hy hr hh
      exact hshare b rfl ⟨cell, hr, Option.some.inj hh⟩

theorem lists_are_shared_by_origin_and_change_alone_of_two_copies :
    let result : Json := .object [("path", .string "a"),
      ("outcome", .object [("kind", .string "error"), ("message", .string "x")])]
    let steps : List Step :=
      [⟨"r", .load "CommandResponse" (.json (.object [("project_results", .array [result])]))⟩,
        ⟨"r", .copy "s" false []⟩,
        ⟨"r", .copy "d" true []⟩,
        ⟨"d", .take "p" 0⟩]
    let loaded : Patched Nat (Response Nat) := .fresh 0 ⟨none, "", 0, ⟨false, false, true⟩⟩
    let shallow : Patched Nat (Response Nat) := .fresh 2 ⟨none, "", 0, ⟨false, false, true⟩⟩
    let deep : Patched Nat (Response Nat) := .fresh 3 ⟨none, "", 1, ⟨false, false, true⟩⟩
    Share loaded shallow ∧ ¬ Share loaded deep ∧
      ∃ s', step (stateAfter .initial steps) ⟨"s", .append "p"⟩ = (.ok (.length 2), s') ∧
        (∃ items, (s'.view (.response loaded)).results? = some (.list items) ∧
          (s'.view (.response shallow)).results? = some (.list items)) ∧
        (s'.view (.response deep)).LooksLike ((stateAfter .initial steps).view (.response deep)) := by
  intro result steps loaded shallow deep
  obtain ⟨horigin, hedits⟩ := lists_are_shared_by_origin_and_change_alone steps
  have hr : (stateAfter .initial steps).held "r" = some (.response loaded) := by decide +kernel
  have hs : (stateAfter .initial steps).held "s" = some (.response shallow) := by decide +kernel
  have hd : (stateAfter .initial steps).held "d" = some (.response deep) := by decide +kernel
  have hro : (traced steps).origin "r" = some 0 := by decide +kernel
  have hso : (traced steps).origin "s" = some 0 := by decide +kernel
  have hanswer : answer (stateAfter .initial steps) ⟨"s", .append "p"⟩ = .ok (.length 2) := by decide +kernel
  generalize stateAfter .initial steps = s at horigin hedits hr hs hd hanswer ⊢
  have hshare : Share loaded shallow := (horigin "r" "s" loaded shallow hr hs).mpr ⟨⟨0, rfl⟩, 0, hro, hso⟩
  have hapart : ∀ a, a.currentResults = .list 0 → ¬ Share a deep := by
    rintro a ha ⟨cell, hcell, hdeep⟩
    cases ha.symm.trans hcell
    cases hdeep
  obtain ⟨s', hstep⟩ : ∃ s', step s ⟨"s", .append "p"⟩ = (.ok (.length 2), s') := ⟨_, step_of_answer hanswer⟩
  obtain ⟨cell, items, -, -, -, hshared, hothers⟩ := hedits ⟨"s", .append "p"⟩ _ s' shallow rfl hs hstep
  refine ⟨hshare, hapart loaded rfl, s', hstep, ⟨items, ?_, ?_⟩, ?_⟩
  · exact (hshared "r" loaded hr ⟨0, rfl, rfl⟩).1
  · exact (hshared "s" shallow hs ⟨0, rfl, rfl⟩).1
  · refine hothers "d" _ hd ?_
    rintro b ⟨⟩
    exact hapart shallow rfl

end PullComment.Session
