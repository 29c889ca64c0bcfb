import PullComment.Proofs.Schema.Valid
import PullComment.Session.Step

namespace PullComment.Session

open PullComment Schema

theorem lookup_eq_ok_iff {s : State} {name : String} {h : Held Nat} :
    lookup s name = .ok h ↔ s.held name = some h := by
  unfold lookup
  cases s.held name <;> simp

theorem lookupResult_eq_ok {s : State} {name : String} {r : Patched Nat Result}
    (h : lookupResult s name = .ok r) : s.held name = some (.result r) := by
  obtain ⟨g, hg, h⟩ := bind_eq_ok_iff.mp h
  cases g with
  | variant v => cases h
  | result r' =>
      cases h
      exact lookup_eq_ok_iff.mp hg
  | response r' => cases h

theorem lookupResults_eq_ok {s : State} {name : String} {results : Results Nat}
    (h : lookupResults s name = .ok results) : ∃ g, s.held name = some g ∧ g.results? = some results := by
  obtain ⟨g, hg, h⟩ := bind_eq_ok_iff.mp h
  refine ⟨g, lookup_eq_ok_iff.mp hg, ?_⟩
  unfold Held.results at h
  cases hr : g.results? with
  | none => simp [hr] at h
  | some found =>
      rw [hr] at h
      cases h
      rfl

theorem listPlace_eq_ok {operation : String} {results : Results Nat} {cell : Nat}
    (h : listPlace operation results = .ok cell) : results = .list cell := by
  cases results with
  | list l =>
      cases h
      rfl
  | plain v => cases h

theorem Patched.currentResults_map {ρ σ : Type} (f : ρ → σ) (r : Patched ρ (Response ρ)) :
    (r.map (Response.mapResults f) f).currentResults = r.currentResults.map f := by
  obtain ⟨base, replaced, results?, named, number⟩ := r
  cases results? <;> rfl

theorem Held.results?_map {ρ σ : Type} (f : ρ → σ) (h : Held ρ) :
    (h.map f).results? = h.results?.map (Results.map f) := by
  cases h with
  | variant v => rfl
  | result r => rfl
  | response r => exact congrArg some (Patched.currentResults_map f r)

def Action.observes : Action → Bool
  | .assign _ => true
  | .delete _ => true
  | .dump _ => true
  | .dumpText _ => true
  | .fieldsSet => true
  | .render _ => true
  | .equal _ => true
  | .sameHash _ => true
  | _ => false

inductive Change (s : State) : Step → Answer → State → Prop
  | observed {st : Step} {a : Answer} {h : Held Nat} (hst : st.action.observes = true)
      (hname : s.held st.name = some h) : Change s st a s
  | loaded {name model : String} {input : Input} {r : Record} (h : readInput model input = .ok r) :
      Change s ⟨name, .load model input⟩ (.loaded r.model) (s.bindRecord name r)
  | reloaded {name into : String} {h : Held Nat} {r : Record} (hname : s.held name = some h)
      (hread : reloadRecord s h = .ok r) :
      Change s ⟨name, .reload into⟩ (.equality ((Held.ofRecord r).same (s.view h))) (s.bindRecord into r)
  | copied {name into : String} {deep : Bool} {update : Replaced} {h : Held Nat}
      (hname : s.held name = some h) (hdeep : deep = true → checkCopied s h = .ok ()) :
      Change s ⟨name, .copy into deep update⟩
        (.equality (((copyHeld deep update s h).2.view (copyHeld deep update s h).1).same (s.view h)))
        ((copyHeld deep update s h).2.bind into (copyHeld deep update s h).1)
  | taken {name into : String} {index : Int} {h : Held Nat} {results : Results Nat} {r : Patched Nat Result}
      (hname : s.held name = some h) (hresults : h.results? = some results)
      (hentry : (results.map s.listAt).entryAt index = .ok (.result r)) :
      Change s ⟨name, .take into index⟩ (.path r.path) (s.bind into (.result r))
  | appended {name other : String} {h : Held Nat} {cell : Nat} {r : Patched Nat Result}
      (hname : s.held name = some h) (hcell : h.results? = some (.list cell))
      (hother : s.held other = some (.result r)) :
      Change s ⟨name, .append other⟩ (.length (s.listAt cell ++ [Entry.result r]).length)
        (s.setList cell (s.listAt cell ++ [.result r]))
  | popped {name : String} {index : Int} {h : Held Nat} {cell : Nat} {entry : Entry} {rest : List Entry}
      {path : Json} (hname : s.held name = some h) (hcell : h.results? = some (.list cell))
      (hout : Entry.takeOut (s.listAt cell) index = .ok (entry, rest)) (hpath : entry.path = .ok path) :
      Change s ⟨name, .pop index⟩ (.path path) (s.setList cell rest)
  | reversed {name : String} {h : Held Nat} {cell : Nat} {paths : List Json}
      (hname : s.held name = some h) (hcell : h.results? = some (.list cell))
      (hpaths : (s.listAt cell).reverse.mapM Entry.path = .ok paths) :
      Change s ⟨name, .reverse⟩ (.paths paths) (s.setList cell (s.listAt cell).reverse)

section Performing

variable {α β : Type} {s s' : State} {m : SessionM α}

theorem ran_get (f : State → SessionM β) (s : State) : (get >>= f : SessionM β) s = f s s :=
  rfl

theorem ran_of_ok {e : Except Refusal α} {a : α} (h : e = .ok a) (f : α → SessionM β) (s : State) :
    (liftM e >>= f : SessionM β) s = f a s := by
  subst h
  rfl

theorem ran_bind {e : Except Refusal α} {f : α → SessionM β} {b : β}
    (h : (liftM e >>= f : SessionM β) s = (.ok b, s')) : ∃ a, e = .ok a ∧ f a s = (.ok b, s') := by
  cases e with
  | error refusal => cases h
  | ok a => exact ⟨a, rfl, h⟩

/-- Whatever fails in it fails before anything is changed. -/
def Atomic (m : SessionM α) : Prop :=
  ∀ s refusal s', m s = (.error refusal, s') → s' = s

theorem Atomic.get {f : State → SessionM β} (h : ∀ s, Atomic (f s)) : Atomic (get >>= f) :=
  fun s => h s s

theorem Atomic.check {e : Except Refusal α} {f : α → SessionM β} (h : ∀ a, Atomic (f a)) :
    Atomic (liftM e >>= f : SessionM β) := by
  intro s refusal s' hrun
  cases e with
  | error _ =>
      cases hrun
      rfl
  | ok a => exact h a s refusal s' hrun

theorem atomic_throw (refusal : Refusal) : Atomic (throw refusal : SessionM α) := by
  rintro s _ s' ⟨⟩
  rfl

theorem atomic_return (a : α) : Atomic (return a : SessionM α) := by
  rintro s _ s' ⟨⟩

theorem atomic_set_return (new : State) (a : α) : Atomic (do set new; return a : SessionM α) := by
  rintro s _ s' ⟨⟩

end Performing

theorem change_of_step {s s' : State} {st : Step} {a : Answer} (h : step s st = (.ok a, s')) :
    Change s st a s' := by
  obtain ⟨name, action⟩ := st
  rw [step, Step.perform, ran_get] at h
  cases action with
  | load model input =>
      obtain ⟨r, hr, h⟩ := ran_bind h
      cases h
      exact .loaded hr
  | assign field =>
      obtain ⟨g, -, h⟩ := ran_bind h
      cases h
  | delete field =>
      obtain ⟨g, -, h⟩ := ran_bind h
      cases h
  | dump options =>
      obtain ⟨g, hg, h⟩ := ran_bind h
      obtain ⟨v, -, h⟩ := ran_bind h
      cases h
      exact .observed rfl (lookup_eq_ok_iff.mp hg)
  | dumpText indent =>
      obtain ⟨g, hg, h⟩ := ran_bind h
      obtain ⟨layout, -, h⟩ := ran_bind h
      obtain ⟨text, -, h⟩ := ran_bind h
      cases h
      exact .observed rfl (lookup_eq_ok_iff.mp hg)
  | fieldsSet =>
      obtain ⟨g, hg, h⟩ := ran_bind h
      cases h
      exact .observed rfl (lookup_eq_ok_iff.mp hg)
  | render options =>
      obtain ⟨g, hg, h⟩ := ran_bind h
      obtain ⟨c, -, h⟩ := ran_bind h
      cases h
      exact .observed rfl (lookup_eq_ok_iff.mp hg)
  | reload into =>
      obtain ⟨g, hg, h⟩ := ran_bind h
      obtain ⟨r, hr, h⟩ := ran_bind h
      cases h
      exact .reloaded (lookup_eq_ok_iff.mp hg) hr
  | copy into deep update =>
      obtain ⟨g, hg, h⟩ := ran_bind h
      cases deep with
      | false =>
          cases h
          exact .copied (lookup_eq_ok_iff.mp hg) (by simp)
      | true =>
          obtain ⟨u, hu, h⟩ := ran_bind h
          cases h
          exact .copied (lookup_eq_ok_iff.mp hg) fun _ => hu
  | equal other =>
      obtain ⟨g, hg, h⟩ := ran_bind h
      obtain ⟨g', -, h⟩ := ran_bind h
      cases h
      exact .observed rfl (lookup_eq_ok_iff.mp hg)
  | sameHash other =>
      obtain ⟨g, hg, h⟩ := ran_bind h
      obtain ⟨u, -, h⟩ := ran_bind h
      obtain ⟨g', -, h⟩ := ran_bind h
      obtain ⟨u', -, h⟩ := ran_bind h
      cases h
      exact .observed rfl (lookup_eq_ok_iff.mp hg)
  | take into index =>
      obtain ⟨results, hresults, h⟩ := ran_bind h
      obtain ⟨entry, hentry, h⟩ := ran_bind h
      obtain ⟨g, hg, hgr⟩ := lookupResults_eq_ok hresults
      cases entry with
      | plain v => cases h
      | result r =>
          cases h
          exact .taken hg hgr hentry
  | append other =>
      obtain ⟨results, hresults, h₁⟩ := ran_bind h
      obtain ⟨g, hg, hgr⟩ := lookupResults_eq_ok hresults
      obtain ⟨cell, hcell, h₂⟩ := ran_bind h₁
      obtain ⟨r, hr, h₃⟩ := ran_bind h₂
      cases h₃
      exact .appended hg (listPlace_eq_ok hcell ▸ hgr) (lookupResult_eq_ok hr)
  | pop index =>
      obtain ⟨results, hresults, h₁⟩ := ran_bind h
      obtain ⟨g, hg, hgr⟩ := lookupResults_eq_ok hresults
      cases results with
      | plain v => cases v <;> cases h₁
      | list cell =>
          obtain ⟨place, hplace, h₂⟩ := ran_bind h₁
          obtain ⟨out, hout, h₃⟩ := ran_bind h₂
          obtain ⟨path, hpath, h₄⟩ := ran_bind h₃
          cases hplace
          cases h₄
          exact .popped hg hgr hout hpath
  | reverse =>
      obtain ⟨results, hresults, h₁⟩ := ran_bind h
      obtain ⟨g, hg, hgr⟩ := lookupResults_eq_ok hresults
      obtain ⟨cell, hcell, h₂⟩ := ran_bind h₁
      obtain ⟨paths, hpaths, h₃⟩ := ran_bind h₂
      cases h₃
      exact .reversed hg (listPlace_eq_ok hcell ▸ hgr) hpaths

theorem atomic_perform (st : Step) : Atomic st.perform := by
  obtain ⟨name, action⟩ := st
  refine .get fun s => ?_
  -- every action checks all that can fail before the one place where it sets the state
  cases action with
  | load model input => exact .check fun r => atomic_set_return _ _
  | assign field => exact .check fun h => atomic_throw _
  | delete field => exact .check fun h => atomic_throw _
  | dump options => exact .check fun h => .check fun v => atomic_return _
  | dumpText indent => exact .check fun h => .check fun layout => .check fun text => atomic_return _
  | fieldsSet => exact .check fun h => atomic_return _
  | render options => exact .check fun h => .check fun c => atomic_return _
  | reload into => exact .check fun h => .check fun r => atomic_set_return _ _
  | copy into deep update =>
      refine .check fun h => ?_
      cases deep with
      | false => exact atomic_set_return _ _
      | true => exact .check fun u => atomic_set_return _ _
  | equal other => exact .check fun h => .check fun h' => atomic_return _
  | sameHash other => exact .check fun h => .check fun u => .check fun h' => .check fun u' => atomic_return _
  | take into index =>
      refine .check fun results => .check fun entry => ?_
      cases entry with
      | plain v => exact atomic_throw _
      | result r => exact atomic_set_return _ _
  | append other => exact .check fun results => .check fun cell => .check fun r => atomic_set_return _ _
  | pop index =>
      refine .check fun results => ?_
      cases results with
      | list cell => exact .check fun cell => .check fun out => .check fun path => atomic_set_return _ _
      | plain v =>
          cases v with
          | object members => exact atomic_throw _
          | _ => exact .check fun cell => .check fun out => .check fun path => atomic_set_return _ _
  | reverse => exact .check fun results => .check fun cell => .check fun paths => atomic_set_return _ _

theorem step_of_answer {s : State} {st : Step} {a : Answer} (h : answer s st = .ok a) :
    step s st = (.ok a, after s st) :=
  Prod.ext h rfl

theorem after_of_error {s : State} {st : Step} {refusal : Refusal} (h : answer s st = .error refusal) :
    after s st = s :=
  atomic_perform st s refusal _ (Prod.ext h rfl)

section Answers

variable {s : State} {name : String} {h : Held Nat}

theorem answer_dump {o : DumpOptions} {v : Json} (hname : s.held name = some h)
    (hv : (s.view h).dump o = .ok v) : answer s ⟨name, .dump o⟩ = .ok (.dumped v) := by
  simp only [answer, step, Step.perform, ran_get, ran_of_ok (lookup_eq_ok_iff.mpr hname), ran_of_ok hv]
  rfl

theorem answer_fieldsSet (hname : s.held name = some h) :
    answer s ⟨name, .fieldsSet⟩ = .ok (.names (s.view h).fieldsSet) := by
  simp only [answer, step, Step.perform, ran_get, ran_of_ok (lookup_eq_ok_iff.mpr hname)]
  rfl

theorem answer_render {o : RenderOptions} {c : Comment} (hname : s.held name = some h)
    (hc : renderHeld o (s.view h) = .ok c) : answer s ⟨name, .render o⟩ = .ok (.comment c) := by
  simp only [answer, step, Step.perform, ran_get, ran_of_ok (lookup_eq_ok_iff.mpr hname), ran_of_ok hc]
  rfl

theorem answer_reload {r : Record} (hname : s.held name = some h) (hread : reloadRecord s h = .ok r)
    (into : String) :
    answer s ⟨name, .reload into⟩ = .ok (.equality ((Held.ofRecord r).same (s.view h))) := by
  simp only [answer, step, Step.perform, ran_get, ran_of_ok (lookup_eq_ok_iff.mpr hname), ran_of_ok hread]
  rfl

end Answers

def stateAfter (s : State) (steps : List Step) : State :=
  steps.foldl after s

theorem stateAfter_concat (s : State) (steps : List Step) (st : Step) :
    stateAfter s (steps ++ [st]) = after (stateAfter s steps) st := by
  rw [stateAfter, List.foldl_concat, stateAfter]

theorem stateAfter_keeps {P : State → Prop} {s : State} {steps : List Step} (hs : P s)
    (hkeeps : ∀ st ∈ steps, ∀ s a s', P s → Change s st a s' → P s') : P (stateAfter s steps) := by
  induction steps generalizing s with
  | nil => exact hs
  | cons st rest ih =>
      obtain ⟨hst, hrest⟩ := List.forall_mem_cons.mp hkeeps
      have hafter : P (after s st) := by
        cases hanswer : answer s st with
        | error refusal =>
            rw [after_of_error hanswer]
            exact hs
        | ok a => exact hst s a _ hs (change_of_step (step_of_answer hanswer))
      exact ih hafter hrest

end PullComment.Session
