import PullComment.Proofs.Session.Change

namespace PullComment.Session

open PullComment Schema

def Held.isResponse {ρ : Type} : Held ρ → Bool
  | .response _ => true
  | _ => false

def Held.cell? (h : Held Nat) : Option Nat :=
  h.results?.bind Results.list?

namespace Held

variable {ρ : Type}

theorem results?_renumber (lists numbers : Nat → Nat) (h : Held Nat) :
    (h.renumber lists numbers).results? = h.results?.map (Results.map lists) := by
  cases h with
  | variant v => rfl
  | result r => rfl
  | response r => exact congrArg some (Patched.currentResults_map lists r)

theorem number_renumber (lists numbers : Nat → Nat) (h : Held Nat) :
    (h.renumber lists numbers).number = numbers h.number := by
  cases h <;> rfl

theorem isResponse_renumber (lists numbers : Nat → Nat) (h : Held Nat) :
    (h.renumber lists numbers).isResponse = h.isResponse := by
  cases h <;> rfl

theorem results?_replace (update : Replaced) (put? : Option (Results ρ)) (names : List String) (h : Held ρ) :
    (h.replace update put? names).results? = put?.or h.results? := by
  cases h with
  | variant v => rfl
  | result r => rfl
  | response r => cases put? <;> rfl

theorem number_replace (update : Replaced) (put? : Option (Results ρ)) (names : List String) (h : Held ρ) :
    (h.replace update put? names).number = h.number := by
  cases h <;> rfl

theorem isResponse_replace (update : Replaced) (put? : Option (Results ρ)) (names : List String)
    (h : Held ρ) : (h.replace update put? names).isResponse = h.isResponse := by
  cases h <;> rfl

theorem cell?_eq_some_iff {h : Held Nat} {cell : Nat} :
    h.cell? = some cell ↔ h.results? = some (.list cell) := by
  unfold cell?
  cases h.results? with
  | none => simp
  | some results => cases results <;> simp [Results.list?]

theorem cell?_renumber (lists numbers : Nat → Nat) (h : Held Nat) :
    (h.renumber lists numbers).cell? = h.cell?.map lists := by
  unfold cell?
  rw [results?_renumber]
  cases h.results? with
  | none => rfl
  | some results => cases results <;> rfl

theorem exists_of_mem_entries {number : Nat} {results : List Result} {r : Patched Nat Result}
    (h : Entry.result r ∈ entries number results) :
    r.results? = none ∧ number ≤ r.number ∧ r.number < number + results.length := by
  induction results generalizing number with
  | nil => cases h
  | cons q results ih =>
      rcases List.mem_cons.mp h with he | hmem
      · cases he
        exact ⟨rfl, Nat.le_refl _, by simp [Patched.fresh]⟩
      · obtain ⟨hnone, hle, hlt⟩ := ih hmem
        refine ⟨hnone, by omega, ?_⟩
        rw [List.length_cons]
        omega

end Held

namespace Update

theorem of_not_mem {members : Replaced} (h : resultsName ∉ members.map Prod.fst) (cell : Nat) :
    (ofMembers members cell).results? = none ∧ (ofMembers members cell).lists = [] := by
  have hnone : Members.get? resultsName members = none := by
    rw [← Option.not_isSome_iff_eq_none, Members.get?_isSome]
    exact h
  simp only [ofMembers, hnone, and_self]

theorem of_mem {members : Replaced} (h : resultsName ∈ members.map Prod.fst) (cell : Nat) :
    ∃ results, (ofMembers members cell).results? = some results := by
  obtain ⟨v, hv⟩ := Option.isSome_iff_exists.mp (Members.get?_isSome.mpr h)
  simp only [ofMembers, hv]
  cases v <;> exact ⟨_, rfl⟩

theorem of_list {members : Replaced} {cell place : Nat}
    (h : (ofMembers members cell).results? = some (.list place)) :
    place = cell ∧ (ofMembers members cell).lists.length = 1 := by
  simp only [ofMembers] at h ⊢
  split at h
  · cases h
    exact ⟨rfl, rfl⟩
  · cases h
  · cases h

theorem not_mem_lists {members : Replaced} {cell : Nat} {items : List Entry}
    (h : items ∈ (ofMembers members cell).lists) (r : Patched Nat Result) : Entry.result r ∉ items := by
  simp only [ofMembers] at h
  split at h
  · obtain rfl := List.mem_singleton.mp h
    simp
  · cases h
  · cases h

end Update

theorem Entry.takeOut_eq_ok {items rest : List Entry} {index : Int} {entry : Entry}
    (h : takeOut items index = .ok (entry, rest)) :
    ∃ i, Index.resolve items.length index = some i ∧ items[i]? = some entry ∧ rest = items.eraseIdx i := by
  unfold takeOut at h
  split at h
  · split at h
    · cases h
    · split at h
      · cases h
      · rename_i i hi
        split at h
        · rename_i found hfound
          cases h
          exact ⟨i, hi, hfound, rfl⟩
        · cases h
  · cases h

theorem Results.mem_of_entryAt {results : Results (List Entry)} {index : Int} {r : Patched Nat Result}
    (h : results.entryAt index = .ok (.result r)) :
    ∃ items, results = .list items ∧ Entry.result r ∈ items := by
  unfold entryAt at h
  split at h
  · rename_i items
    split at h
    · split at h
      · rename_i entry hentry
        cases h
        obtain ⟨i, -, hi⟩ := Option.bind_eq_some_iff.mp hentry
        exact ⟨items, rfl, List.mem_of_getElem? hi⟩
      · cases h
    · cases h
  · split at h
    · split at h <;> cases h
    · cases h
  · cases h
  · cases h

theorem State.bindRecord_cases (s : State) (name : String) (r : Record) :
    (∃ h : Held Nat, h.isResponse = false ∧ h.cell? = none ∧ h.number = s.next ∧
      s.bindRecord name r = (s.advance 1).bind name h) ∨
    ∃ q : Response (List Result), s.bindRecord name r =
      ((s.addList (Held.entries (s.next + 1) q.results)).advance (q.results.length + 1)).bind name
        (.response (.fresh s.next (q.mapResults fun _ => s.lists.length))) := by
  cases r with
  | variant v => exact .inl ⟨.variant (.fresh s.next v), rfl, rfl, rfl, rfl⟩
  | result r => exact .inl ⟨.result (.fresh s.next r), rfl, rfl, rfl, rfl⟩
  | response q => exact .inr ⟨q, rfl⟩

theorem State.mem_lists_of_mem_listAt {s : State} {cell : Nat} {e : Entry} (h : e ∈ s.listAt cell) :
    ∃ items ∈ s.lists, e ∈ items := by
  unfold State.listAt at h
  cases hcell : s.lists[cell]? with
  | none => simp [hcell] at h
  | some items =>
      rw [hcell] at h
      exact ⟨items, List.mem_of_getElem? hcell, h⟩

/-- Which lists and which numbers belong to responses. -/
structure Roles where
  ofList : Nat → Bool
  ofNumber : Nat → Bool

namespace Roles

structure Fits (K : Roles) (s : State) (h : Held Nat) : Prop where
  cell : ∀ cell, h.cell? = some cell → cell < s.lists.length ∧ K.ofList cell = h.isResponse
  number : h.number < s.next ∧ K.ofNumber h.number = h.isResponse

structure Sorts (K : Roles) (s : State) : Prop where
  held : ∀ name h, s.held name = some h → K.Fits s h
  listed : ∀ items ∈ s.lists, ∀ r, Entry.result r ∈ items → K.Fits s (.result r)

def extend (K : Roles) (s : State) (lists numbers : Nat → Bool) : Roles where
  ofList cell := if cell < s.lists.length then K.ofList cell else lists (cell - s.lists.length)
  ofNumber n := if n < s.next then K.ofNumber n else numbers (n - s.next)

variable {K : Roles} {s s' : State} {lists numbers : Nat → Bool}

theorem ofList_extend_of_lt {cell : Nat} (h : cell < s.lists.length) :
    (K.extend s lists numbers).ofList cell = K.ofList cell :=
  if_pos h

theorem ofNumber_extend_of_lt {n : Nat} (h : n < s.next) :
    (K.extend s lists numbers).ofNumber n = K.ofNumber n :=
  if_pos h

theorem ofList_extend_add (i : Nat) : (K.extend s lists numbers).ofList (s.lists.length + i) = lists i := by
  have hge : ¬ s.lists.length + i < s.lists.length := by omega
  simp only [extend, if_neg hge, Nat.add_sub_cancel_left]

theorem ofNumber_extend_add (i : Nat) : (K.extend s lists numbers).ofNumber (s.next + i) = numbers i := by
  have hge : ¬ s.next + i < s.next := by omega
  simp only [extend, if_neg hge, Nat.add_sub_cancel_left]

theorem Fits.extend {h : Held Nat} (hfits : K.Fits s h) (hlists : s.lists.length ≤ s'.lists.length)
    (hnext : s.next ≤ s'.next) : (K.extend s lists numbers).Fits s' h := by
  obtain ⟨hlt, hrole⟩ := hfits.number
  refine ⟨?_, by omega, ?_⟩
  · intro cell hcell
    obtain ⟨hcelllt, hcellrole⟩ := hfits.cell cell hcell
    refine ⟨by omega, ?_⟩
    rw [ofList_extend_of_lt hcelllt, hcellrole]
  · rw [ofNumber_extend_of_lt hlt, hrole]

theorem Fits.replace {h : Held Nat} (hfits : K.Fits s h) (update : Replaced) {put? : Option (Results Nat)}
    (names : List String)
    (hput : ∀ cell, put? = some (.list cell) → cell < s.lists.length ∧ K.ofList cell = h.isResponse) :
    K.Fits s (h.replace update put? names) := by
  refine ⟨?_, ?_⟩
  · intro cell hcell
    rw [Held.cell?_eq_some_iff, Held.results?_replace] at hcell
    rw [Held.isResponse_replace]
    cases put? with
    | none => exact hfits.cell cell (Held.cell?_eq_some_iff.mpr hcell)
    | some results => exact hput cell hcell
  · rw [Held.number_replace, Held.isResponse_replace]
    exact hfits.number

theorem Fits.put {r : Patched Nat Result} (hfits : K.Fits s (.result r)) (update : Replaced)
    {put? : Option (Results Nat)}
    (hput : ∀ cell, put? = some (.list cell) → cell < s.lists.length ∧ K.ofList cell = false) :
    K.Fits s (.result (r.put update put?)) := by
  have hreplaced := hfits.replace update [] hput
  exact ⟨hreplaced.cell, hreplaced.number⟩

theorem Fits.renumber {L : Roles} {h : Held Nat} {f g : Nat → Nat} (hfits : K.Fits s h)
    (hlist : ∀ cell < s.lists.length, f cell < s'.lists.length ∧ L.ofList (f cell) = K.ofList cell)
    (hnumber : g h.number < s'.next ∧ L.ofNumber (g h.number) = K.ofNumber h.number) :
    L.Fits s' (h.renumber f g) := by
  refine ⟨?_, ?_⟩
  · intro cell hcell
    rw [Held.cell?_renumber] at hcell
    obtain ⟨old, hold, rfl⟩ := Option.map_eq_some_iff.mp hcell
    obtain ⟨hlt, hrole⟩ := hfits.cell old hold
    rw [Held.isResponse_renumber, ← hrole]
    exact hlist old hlt
  · rw [Held.number_renumber, Held.isResponse_renumber, ← hfits.number.2]
    exact hnumber

theorem Sorts.bind {h : Held Nat} (hs : K.Sorts s) (hfits : K.Fits s h) (name : String) :
    K.Sorts (s.bind name h) := by
  have hsame : ∀ g, K.Fits s g → K.Fits (s.bind name h) g := fun g hg => ⟨hg.cell, hg.number⟩
  refine ⟨?_, fun items hitems r hr => hsame _ (hs.listed items hitems r hr)⟩
  intro n g hg
  simp only [State.bind] at hg
  split at hg
  · cases hg
    exact hsame _ hfits
  · exact hsame _ (hs.held n g hg)

theorem Sorts.setList {items : List Entry} (hs : K.Sorts s)
    (hitems : ∀ r, Entry.result r ∈ items → K.Fits s (.result r)) (cell : Nat) :
    K.Sorts (s.setList cell items) := by
  have hsame : ∀ h, K.Fits s h → K.Fits (s.setList cell items) h := by
    intro h hfits
    refine ⟨?_, hfits.number⟩
    intro c hc
    rw [State.setList, List.length_set]
    exact hfits.cell c hc
  refine ⟨fun name h hh => hsame h (hs.held name h hh), ?_⟩
  intro l hl r hr
  rcases List.mem_or_eq_of_mem_set hl with hl | rfl
  · exact hsame _ (hs.listed l hl r hr)
  · exact hsame _ (hitems r hr)

theorem Sorts.extend {new : List (List Entry)} (hs : K.Sorts s) (hlists : s'.lists = s.lists ++ new)
    (hheld : s'.held = s.held) (hnext : s.next ≤ s'.next)
    (hnew : ∀ items ∈ new, ∀ r, Entry.result r ∈ items → (K.extend s lists numbers).Fits s' (.result r)) :
    (K.extend s lists numbers).Sorts s' := by
  have hlength : s.lists.length ≤ s'.lists.length := by
    rw [hlists, List.length_append]
    omega
  refine ⟨?_, ?_⟩
  · intro name h hh
    rw [hheld] at hh
    exact (hs.held name h hh).extend hlength hnext
  · intro items hitems r hr
    rw [hlists] at hitems
    rcases List.mem_append.mp hitems with hitems | hitems
    · exact (hs.listed items hitems r hr).extend hlength hnext
    · exact hnew items hitems r hr

theorem sorts_bindRecord (hs : K.Sorts s) (name : String) (r : Record) :
    ∃ L : Roles, L.Sorts (s.bindRecord name r) := by
  rcases s.bindRecord_cases name r with ⟨h, hresponse, hcell, hnumber, he⟩ | ⟨q, he⟩
  · rw [he]
    have hgrown : (K.extend s (fun _ => false) fun _ => false).Sorts (s.advance 1) :=
      hs.extend (List.append_nil _).symm rfl (Nat.le_succ _) (by simp)
    refine ⟨_, hgrown.bind ⟨by simp [hcell], ?_, ?_⟩ name⟩
    · rw [hnumber]
      exact Nat.lt_succ_self _
    · rw [hnumber, hresponse]
      exact ofNumber_extend_add 0
  · rw [he]
    let grown := (s.addList (Held.entries (s.next + 1) q.results)).advance (q.results.length + 1)
    have hlength : grown.lists.length = s.lists.length + 1 := by
      simp [grown, State.addList, State.advance]
    -- The response takes the first of the new numbers, and its results the others.
    have hgrown : (K.extend s (fun _ => true) (· == 0)).Sorts grown := by
      refine hs.extend rfl rfl (Nat.le_add_right _ _) ?_
      intro items hitems p hp
      obtain rfl := List.mem_singleton.mp hitems
      obtain ⟨hnone, hle, hlt⟩ := Held.exists_of_mem_entries hp
      have hcell : (Held.result p).cell? = none := by
        rw [Held.cell?, Held.results?, hnone]
        rfl
      obtain ⟨i, hi⟩ := Nat.exists_eq_add_of_le (Nat.le_of_succ_le hle)
      refine ⟨by simp [hcell], ?_, ?_⟩
      · show p.number < s.next + (q.results.length + 1)
        omega
      · show (K.extend s (fun _ => true) (· == 0)).ofNumber p.number = false
        rw [hi, ofNumber_extend_add, beq_eq_false_iff_ne]
        omega
    refine ⟨_, hgrown.bind ⟨?_, ?_, ?_⟩ name⟩
    · intro cell hcell
      obtain rfl : s.lists.length = cell := Option.some.inj hcell
      exact ⟨by omega, ofList_extend_add 0⟩
    · show s.next < s.next + (q.results.length + 1)
      omega
    · exact ofNumber_extend_add 0

theorem sorts_copyShallow {h : Held Nat} (hs : K.Sorts s) (hfits : K.Fits s h) (update : Replaced) :
    ∃ L : Roles, L.Sorts (copyShallow update s h).2 ∧
      L.Fits (copyShallow update s h).2 (copyShallow update s h).1 := by
  let u := Update.ofMembers update s.lists.length
  refine ⟨K.extend s (fun _ => h.isResponse) fun _ => h.isResponse, ?_, ?_⟩
  · refine hs.extend rfl rfl (Nat.le_succ _) ?_
    intro items hitems r hr
    exact absurd hr (Update.not_mem_lists hitems r)
  · have hlength : (copyShallow update s h).2.lists.length = s.lists.length + u.lists.length :=
      List.length_append
    refine Fits.replace (hfits.renumber ?_ ⟨Nat.lt_succ_self _, ?_⟩) _ _ ?_
    · intro cell hcell
      exact ⟨by simp only [id_eq]; omega, ofList_extend_of_lt hcell⟩
    · rw [hfits.number.2]
      exact ofNumber_extend_add 0
    · intro cell hcell
      obtain ⟨rfl, hone⟩ : cell = s.lists.length ∧ u.lists.length = 1 := Update.of_list hcell
      rw [Held.isResponse_renumber]
      exact ⟨by omega, ofList_extend_add 0⟩

theorem renumber_eq (s : State) (cells : List Nat) (cell : Nat) :
    (∃ i, cells[i]? = some cell ∧ s.renumber cells cell = s.lists.length + i) ∨
      s.renumber cells cell = cell := by
  unfold State.renumber
  cases hi : cells.idxOf? cell with
  | none => exact .inr rfl
  | some i =>
      obtain ⟨hlt, he, -⟩ := List.idxOf?_eq_some_iff.mp hi
      exact .inl ⟨i, by rw [List.getElem?_eq_getElem hlt, he], rfl⟩

theorem sorts_copyDeep {h : Held Nat} (hs : K.Sorts s) (hfits : K.Fits s h) (update : Replaced) :
    ∃ L : Roles, L.Sorts (copyDeep update s h).2 ∧
      L.Fits (copyDeep update s h).2 (copyDeep update s h).1 := by
  let cells := s.reachable h
  let u := Update.ofMembers update (s.lists.length + cells.length)
  let s' := (copyDeep update s h).2
  let L := K.extend s (fun i => (cells[i]?.map K.ofList).getD h.isResponse) K.ofNumber
  have hlength : s'.lists.length = s.lists.length + cells.length + u.lists.length := by
    simp only [s', copyDeep, List.length_append, List.length_map]
    rfl
  have hnumber : ∀ n < s.next, n + s.next < s'.next ∧ L.ofNumber (n + s.next) = K.ofNumber n := by
    intro n hn
    refine ⟨Nat.add_lt_add_right hn _, ?_⟩
    rw [Nat.add_comm]
    exact ofNumber_extend_add n
  have hlist : ∀ cell < s.lists.length, s.renumber cells cell < s'.lists.length ∧
      L.ofList (s.renumber cells cell) = K.ofList cell := by
    intro cell hcell
    rcases renumber_eq s cells cell with ⟨i, hi, he⟩ | he
    · obtain ⟨hlt, -⟩ := List.getElem?_eq_some_iff.mp hi
      rw [he]
      refine ⟨by omega, ?_⟩
      rw [ofList_extend_add, hi]
      rfl
    · rw [he]
      exact ⟨by omega, ofList_extend_of_lt hcell⟩
  have hput : ∀ cell, u.results? = some (.list cell) →
      cell < s'.lists.length ∧ L.ofList cell = h.isResponse := by
    intro cell hcell
    obtain ⟨rfl, hone⟩ : cell = s.lists.length + cells.length ∧ u.lists.length = 1 := Update.of_list hcell
    refine ⟨by omega, ?_⟩
    rw [ofList_extend_add, List.getElem?_eq_none (Nat.le_refl _)]
    rfl
  refine ⟨L, ?_, ?_⟩
  · refine hs.extend (List.append_assoc _ _ _) rfl (Nat.le_add_right _ _) ?_
    intro items hitems r hr
    rcases List.mem_append.mp hitems with hitems | hitems
    · obtain ⟨cell, -, rfl⟩ := List.mem_map.mp hitems
      obtain ⟨e, he, her⟩ := List.mem_map.mp hr
      cases e with
      | plain v => cases her
      | result q =>
          obtain ⟨items, hitems, hq⟩ := State.mem_lists_of_mem_listAt he
          have hold := hs.listed items hitems q hq
          have hcopied : L.Fits s' ((Held.result q).renumber (s.renumber cells) (· + s.next)) :=
            hold.renumber hlist (hnumber _ hold.number.1)
          obtain rfl := Entry.result.inj her
          split
          · rename_i hshared
            -- A number that the entry has in common with what is copied says that neither is a response.
            have hsame : q.number = h.number := by
              rw [Held.number_renumber] at hshared
              exact Nat.add_right_cancel hshared
            have hrole : h.isResponse = false := by
              rw [← hfits.number.2, ← hsame]
              exact hold.number.2
            exact hcopied.put _ fun cell hcell => hrole ▸ hput cell hcell
          · exact hcopied
    · exact absurd hr (Update.not_mem_lists hitems r)
  · refine Fits.replace (hfits.renumber hlist (hnumber _ hfits.number.1)) _ _ ?_
    intro cell hcell
    rw [Held.isResponse_renumber]
    exact hput cell hcell

theorem Sorts.of_mem_listAt {cell : Nat} {r : Patched Nat Result} (hs : K.Sorts s)
    (h : Entry.result r ∈ s.listAt cell) : K.Fits s (.result r) := by
  obtain ⟨items, hitems, hr⟩ := State.mem_lists_of_mem_listAt h
  exact hs.listed items hitems r hr

theorem sorts_of_change {st : Step} {a : Answer} (hs : K.Sorts s) (h : Change s st a s') :
    ∃ L : Roles, L.Sorts s' := by
  cases h with
  | observed _ _ => exact ⟨K, hs⟩
  | loaded _ => exact sorts_bindRecord hs _ _
  | reloaded _ _ => exact sorts_bindRecord hs _ _
  | @copied _ into deep update h hname _ =>
      cases deep with
      | false =>
          obtain ⟨L, hsorts, hfits⟩ := sorts_copyShallow hs (hs.held _ _ hname) update
          exact ⟨L, hsorts.bind hfits into⟩
      | true =>
          obtain ⟨L, hsorts, hfits⟩ := sorts_copyDeep hs (hs.held _ _ hname) update
          exact ⟨L, hsorts.bind hfits into⟩
  | taken _ _ hentry =>
      obtain ⟨items, hitems, hr⟩ := Results.mem_of_entryAt hentry
      rename_i results _ _ _
      cases results with
      | plain v => cases hitems
      | list cell =>
          cases hitems
          exact ⟨K, hs.bind (hs.of_mem_listAt hr) _⟩
  | appended _ _ hother =>
      refine ⟨K, hs.setList (fun q hq => ?_) _⟩
      rcases List.mem_append.mp hq with hq | hq
      · exact hs.of_mem_listAt hq
      · cases List.mem_singleton.mp hq
        exact hs.held _ _ hother
  | popped _ _ hout _ =>
      obtain ⟨i, -, -, rfl⟩ := Entry.takeOut_eq_ok hout
      exact ⟨K, hs.setList (fun q hq => hs.of_mem_listAt (List.mem_of_mem_eraseIdx hq)) _⟩
  | reversed _ _ _ =>
      exact ⟨K, hs.setList (fun q hq => hs.of_mem_listAt (List.mem_reverse.mp hq)) _⟩

theorem exists_sorts (steps : List Step) : ∃ K : Roles, K.Sorts (stateAfter .initial steps) := by
  refine stateAfter_keeps (P := fun s => ∃ K : Roles, K.Sorts s) ⟨⟨fun _ => false, fun _ => false⟩, ?_, ?_⟩ ?_
  · intro name h hh
    cases hh
  · intro items hitems
    cases hitems
  · rintro st - s a s' ⟨K, hs⟩ hchange
    exact sorts_of_change hs hchange

end Roles

end PullComment.Session
