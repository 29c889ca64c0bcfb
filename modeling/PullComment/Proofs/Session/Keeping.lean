import PullComment.Proofs.Session.Roles

namespace PullComment.Session

open PullComment Schema

def Action.putsIn : Action → Bool
  | .copy _ _ update => !update.isEmpty
  | _ => false

variable {P : Held Nat → Prop} {s s' : State}

def Entry.Meets (P : Held Nat → Prop) (e : Entry) : Prop :=
  ∃ r, e = .result r ∧ P (.result r)

structure State.Meets (P : Held Nat → Prop) (s : State) : Prop where
  held : ∀ name h, s.held name = some h → P h
  listed : ∀ items ∈ s.lists, ∀ e ∈ items, e.Meets P

def Stable (P : Held Nat → Prop) : Prop :=
  ∀ h lists numbers, P h → P (h.renumber lists numbers)

def Brings (P : Held Nat → Prop) : Record → Prop
  | .variant w => ∀ number, P (.variant (.fresh number w))
  | .result r => ∀ number, P (.result (.fresh number r))
  | .response r => (∀ number cell, P (.response (.fresh number (r.mapResults fun _ => cell)))) ∧
      ∀ x ∈ r.results, ∀ number, P (.result (.fresh number x))

inductive Validates (s : State) : Action → Record → Prop
  | load {model : String} {input : Input} {r : Record} (h : readInput model input = .ok r) :
      Validates s (.load model input) r
  | reload {into : String} {g : Held Nat} {r : Record} (h : reloadRecord s g = .ok r) :
      Validates s (.reload into) r

theorem Held.replace_nothing {ρ : Type} (h : Held ρ) : h.replace [] none [] = h := by
  cases h <;> simp [replace, Patched.put, Patched.give]

theorem Entry.putShared_nothing (number : Nat) (e : Entry) : e.putShared number [] none = e := by
  cases e <;> simp [putShared, Patched.put]

namespace Entry

theorem Meets.renumber {e : Entry} (hP : Stable P) (he : e.Meets P) (lists numbers : Nat → Nat) :
    (e.renumber lists numbers).Meets P := by
  obtain ⟨r, rfl, hr⟩ := he
  exact ⟨_, rfl, hP (.result r) lists numbers hr⟩

theorem meets_of_mem_entries {number : Nat} {results : List Result}
    (h : ∀ x ∈ results, ∀ n, P (.result (.fresh n x))) : ∀ e ∈ Held.entries number results, e.Meets P := by
  induction results generalizing number with
  | nil => simp [Held.entries]
  | cons x results ih =>
      obtain ⟨hx, hresults⟩ := List.forall_mem_cons.mp h
      exact List.forall_mem_cons.mpr ⟨⟨_, rfl, hx number⟩, ih hresults⟩

end Entry

namespace State.Meets

theorem initial : State.initial.Meets P where
  held _ _ hh := by cases hh
  listed _ hitems := by cases hitems

theorem of_mem_listAt {cell : Nat} {e : Entry} (hs : s.Meets P) (he : e ∈ s.listAt cell) : e.Meets P := by
  obtain ⟨items, hitems, hmem⟩ := State.mem_lists_of_mem_listAt he
  exact hs.listed items hitems e hmem

theorem bind {h : Held Nat} (hs : s.Meets P) (hh : P h) (name : String) : (s.bind name h).Meets P where
  held n g hg := by
    by_cases hn : n = name
    · obtain rfl : h = g := by simpa [State.bind, hn] using hg
      exact hh
    · exact hs.held n g (by simpa [State.bind, hn] using hg)
  listed := hs.listed

theorem setList {items : List Entry} (hs : s.Meets P) (hitems : ∀ e ∈ items, e.Meets P) (cell : Nat) :
    (s.setList cell items).Meets P where
  held := hs.held
  listed l hl := by
    rcases List.mem_or_eq_of_mem_set hl with hl | rfl
    · exact hs.listed l hl
    · exact hitems

theorem extend {new : List (List Entry)} (hs : s.Meets P) (hlists : s'.lists = s.lists ++ new)
    (hheld : s'.held = s.held) (hnew : ∀ items ∈ new, ∀ e ∈ items, e.Meets P) : s'.Meets P where
  held := hheld ▸ hs.held
  listed items hitems := by
    rw [hlists] at hitems
    rcases List.mem_append.mp hitems with hitems | hitems
    · exact hs.listed items hitems
    · exact hnew items hitems

theorem advance (hs : s.Meets P) (count : Nat) : (s.advance count).Meets P :=
  hs.extend (List.append_nil _).symm rfl (by simp)

theorem bindRecord {r : Record} (hs : s.Meets P) (hr : Brings P r) (name : String) :
    (s.bindRecord name r).Meets P := by
  cases r with
  | variant w => exact (hs.bind (hr s.next) name).advance 1
  | result r => exact (hs.bind (hr s.next) name).advance 1
  | response r =>
      obtain ⟨hresponse, hresults⟩ := hr
      have hentries : ∀ items ∈ [Held.entries (s.next + 1) r.results], ∀ e ∈ items, e.Meets P :=
        List.forall_mem_singleton.mpr (Entry.meets_of_mem_entries hresults)
      have hadded : (s.addList (Held.entries (s.next + 1) r.results)).Meets P := hs.extend rfl rfl hentries
      exact (hadded.bind (hresponse s.next _) name).advance (r.results.length + 1)

theorem copyHeld {h : Held Nat} (hP : Stable P) (hs : s.Meets P) (hh : P h) (deep : Bool) :
    P (copyHeld deep [] s h).1 ∧ (copyHeld deep [] s h).2.Meets P := by
  cases deep with
  | false =>
      have hcopy : (copyShallow [] s h).1 = h.renumber id fun _ => s.next := Held.replace_nothing _
      exact ⟨hcopy ▸ hP h _ _ hh, hs.extend rfl rfl (by simp [Update.ofMembers, Members.get?])⟩
  | true =>
      have hcopy : (copyDeep [] s h).1 = h.renumber (s.renumber (s.reachable h)) (· + s.next) :=
        Held.replace_nothing _
      -- new are the copies of the lists that it leads to; without an update there is no list beside them
      refine ⟨hcopy ▸ hP h _ _ hh, hs.extend (List.append_assoc _ _ _) rfl fun items hitems => ?_⟩
      rcases List.mem_append.mp hitems with hitems | hitems
      · obtain ⟨cell, -, rfl⟩ := List.mem_map.mp hitems
        intro e he
        obtain ⟨e, hmem, rfl⟩ := List.mem_map.mp he
        rw [show Update.ofMembers [] _ = ⟨[], none, []⟩ from rfl, Entry.putShared_nothing]
        exact (hs.of_mem_listAt hmem).renumber hP _ _
      · cases hitems

theorem change {st : Step} {a : Answer} (hP : Stable P) (hs : s.Meets P) (hst : st.action.putsIn = false)
    (hvalidates : ∀ r, Validates s st.action r → Brings P r) (h : Change s st a s') : s'.Meets P := by
  cases h with
  | observed _ _ => exact hs
  | loaded hread => exact hs.bindRecord (hvalidates _ (.load hread)) _
  | reloaded _ hread => exact hs.bindRecord (hvalidates _ (.reload hread)) _
  | @copied _ into deep update h hname _ =>
      obtain rfl : update = [] := by simpa [Action.putsIn] using hst
      obtain ⟨hcopy, hstate⟩ := hs.copyHeld hP (hs.held _ _ hname) deep
      exact hstate.bind hcopy into
  | @taken _ into _ _ results r _ _ hentry =>
      obtain ⟨items, hitems, hmem⟩ := Results.mem_of_entryAt hentry
      cases results with
      | plain v => cases hitems
      | list cell =>
          cases hitems
          obtain ⟨x, hx, hmeets⟩ := hs.of_mem_listAt hmem
          cases hx
          exact hs.bind hmeets into
  | @appended _ _ _ cell r _ _ hother =>
      refine hs.setList (List.forall_mem_append.mpr ⟨fun e he => hs.of_mem_listAt he, ?_⟩) cell
      exact List.forall_mem_singleton.mpr ⟨r, rfl, hs.held _ _ hother⟩
  | popped _ _ hout _ =>
      obtain ⟨i, -, -, rfl⟩ := Entry.takeOut_eq_ok hout
      exact hs.setList (fun e he => hs.of_mem_listAt (List.mem_of_mem_eraseIdx he)) _
  | reversed _ _ _ => exact hs.setList (fun e he => hs.of_mem_listAt (List.mem_reverse.mp he)) _

end State.Meets

theorem meets_stateAfter {steps : List Step} (hP : Stable P) (hsteps : ∀ st ∈ steps, st.action.putsIn = false)
    (hvalidates : ∀ st ∈ steps, ∀ s r, Validates s st.action r → Brings P r) :
    (stateAfter .initial steps).Meets P :=
  stateAfter_keeps .initial fun st hst s _ _ hs hchange =>
    hs.change hP (hsteps st hst) (hvalidates st hst s) hchange

end PullComment.Session
