import PullComment.Proofs.Schema.Given
import PullComment.Proofs.Session.Validity

namespace PullComment.Session

open PullComment Schema

def Action.StaysInJson : Action → Prop
  | .load _ input => input.InJson
  | action => action.putsIn = false

theorem Action.StaysInJson.putsIn_eq {action : Action} (h : action.StaysInJson) : action.putsIn = false := by
  cases action with
  | load model input => rfl
  | _ => exact h

def Held.Told {ρ : Type} : Held ρ → Prop
  | .variant _ => True
  | .result r => r.base.variant.kindGiven = true
  | .response r => r.base.Settled

theorem Held.stable_told : Stable Held.Told := by
  intro h lists numbers hh
  cases h <;> exact hh

theorem brings_of_told {r : Record} (h : r.Told) : Brings Held.Told r := by
  have hgiven {x : Result} (hx : DumpOptions.givenOnly.keeps x.variant.kindField = true) :
      x.variant.kindGiven = true := (DumpOptions.keeps_givenOnly _).symm.trans hx
  cases r with
  | variant w => exact fun _ => trivial
  | result x => exact fun _ => hgiven h.1
  | response q => exact ⟨fun _ _ => h.2, fun x hx _ => hgiven (h.1 x hx)⟩

theorem Validates.told {s : State} {action : Action} {r : Record} (h : Validates s action r)
    (haction : action.StaysInJson) : r.Told := by
  cases h with
  | load hread =>
      obtain ⟨model, -, hcheck⟩ := bind_eq_ok_iff.mp hread
      exact haction.told (refuseFault_eq_ok_iff.mp hcheck)
  | reload hread =>
      obtain ⟨text, -, hcheck⟩ := bind_eq_ok_iff.mp hread
      exact (Input.InJson.text text).told (refuseFault_eq_ok_iff.mp hcheck)

theorem told_stateAfter {steps : List Step} (h : ∀ st ∈ steps, st.action.StaysInJson) :
    (stateAfter .initial steps).Meets Held.Told :=
  meets_stateAfter Held.stable_told (fun st hst => (h st hst).putsIn_eq) fun st hst _ _ hvalidates =>
    brings_of_told (hvalidates.told (h st hst))

theorem Entry.kindGiven_of_holds {items : List Entry} {results : List Result}
    (hholds : List.Forall₂ Holds items results) (h : ∀ e ∈ items, e.Meets Held.Told) :
    ∀ x ∈ results, x.variant.kindGiven = true := by
  induction hholds with
  | nil => simp
  | @cons e x items results he _ ih =>
      obtain ⟨⟨p, hp, htold⟩, hitems⟩ := List.forall_mem_cons.mp h
      obtain ⟨number, rfl⟩ := he
      cases hp
      exact List.forall_mem_cons.mpr ⟨htold, ih hitems⟩

theorem Held.Holds.told {h : Held (List Entry)} {r : Record} (hr : h.Holds r) (hh : h.Told)
    (hitems : ∀ items, h.results? = some (.list items) → ∀ e ∈ items, e.Meets Held.Told) : r.Told := by
  cases hr with
  | variant number w => exact ⟨trivial, trivial⟩
  | result number x => exact ⟨(DumpOptions.keeps_givenOnly _).trans hh, trivial⟩
  | @response number items q hholds =>
      have hkinds := Entry.kindGiven_of_holds hholds (hitems items rfl)
      exact ⟨fun x hx => (DumpOptions.keeps_givenOnly _).trans (hkinds x hx), hh⟩

theorem State.Meets.told {s : State} {h : Held Nat} {r : Record} (hs : s.Meets Held.Told) (hh : h.Told)
    (hr : (s.view h).Holds r) : r.Told := by
  refine hr.told (by cases h <;> exact hh) fun items hresults e he => ?_
  rw [State.view, Held.results?_map] at hresults
  obtain ⟨results, -, hlist⟩ := Option.map_eq_some_iff.mp hresults
  cases results with
  | plain v => cases hlist
  | list cell =>
      cases hlist
      exact hs.of_mem_listAt he

theorem Held.Holds.named_eq {h : Held (List Entry)} {r : Record} (hr : h.Holds r) : h.named = [] := by
  cases hr <;> rfl

theorem Held.Holds.mem_fieldsSet {h : Held (List Entry)} {r : Record} (hr : h.Holds r) {name : String} :
    name ∈ h.fieldsSet ↔ ∃ f ∈ r.fields .full, f.given = true ∧ f.name = name := by
  simp [fieldsSet, hr.named_eq, hr.fields_eq, Members.mem_distinct, List.mem_mergeSort, and_assoc]

theorem results_mem_fieldsSet_iff {h : Held (List Entry)} {q : Response (List Result)}
    (hr : h.Holds (.response q)) : "project_results" ∈ h.fieldsSet ↔ q.given.results = true := by
  rw [hr.mem_fieldsSet]
  show (∃ f ∈ q.fields .full, _) ↔ _
  simp [Response.fields_eq, Response.errorField, Response.failureField, Response.resultsField]

/-- In a session that loads JSON alone and puts nothing into a copy, all that is bound is read back from the
fields it was given. A response that was not given its list comes back without the results in it. -/
theorem given_fields_read_back {steps : List Step} (hsteps : ∀ st ∈ steps, st.action.StaysInJson)
    {name : String} {h : Held Nat} (hname : (stateAfter .initial steps).held name = some h) :
    let s := stateAfter .initial steps
    ∃ (r : Record) (names : List String), (s.view h).Holds r ∧
      answer s ⟨name, .dump .givenOnly⟩ = .ok (.dumped (r.dump .givenOnly)) ∧
      answer s ⟨name, .fieldsSet⟩ = .ok (.names names) ∧
      (h.model ≠ .commandResponse → (Held.ofRecord r).same (s.view h) = true ∧
        ∀ m again, Carries (r.dump .givenOnly) m again → again.validate h.model = .ok r) ∧
      (h.model = .commandResponse → ∃ q loaded, r = .response q ∧
        (∀ m again, Carries (r.dump .givenOnly) m again →
          again.validate .commandResponse = .ok (.response loaded)) ∧
        ((Held.ofRecord (.response loaded)).same (s.view h) = true ↔
          "project_results" ∈ names ∨ q.results = []) ∧
        ("project_results" ∈ names → loaded = q) ∧
        ("project_results" ∉ names → loaded = { q with results := [] })) := by
  intro s
  -- what is bound is a valid record as JSON tells it: two invariants of one run, which meet only here
  have hs : s.Valid := valid_stateAfter fun st hst => (hsteps st hst).putsIn_eq
  have htold : s.Meets Held.Told := told_stateAfter hsteps
  obtain ⟨r, hholds, hr⟩ := hs.exists_record (hs.held name h hname)
  have hmodel : h.model = r.model := by
    rw [← hholds.model_eq]
    cases h <;> rfl
  have hread : readAs r.model (r.dump .givenOnly) = .ok (r.keptBy .givenOnly) :=
    readAs_givenOnly hr (htold.told (htold.held name h hname) hholds)
  have hsame : (Held.ofRecord (r.keptBy .givenOnly)).same (s.view h) = true ↔ r.KeepsResults .givenOnly := by
    rw [(Held.holds_ofRecord _).same_eq hholds, Record.same_keptBy_iff]
  refine ⟨r, (s.view h).fieldsSet, hholds, ?_, ?_, fun hother => ⟨?_, fun m again hagain => ?_⟩,
    fun hresponse => ?_⟩
  · exact answer_dump hname (hholds.dump_eq .givenOnly)
  · exact answer_fieldsSet hname
  · rw [r.keptBy_givenOnly (hmodel ▸ hother)] at hsame
    refine hsame.mpr ?_
    cases r with
    | response q => exact absurd hmodel hother
    | _ => trivial
  · rw [hmodel, hagain.validate_dump hread, r.keptBy_givenOnly (hmodel ▸ hother)]
  · obtain ⟨q, rfl⟩ : ∃ q, r = .response q := by
      cases r with
      | response q => exact ⟨q, rfl⟩
      | _ => cases hresponse.symm.trans hmodel
    have hgiven : "project_results" ∈ (s.view h).fieldsSet ↔ q.given.results = true :=
      results_mem_fieldsSet_iff hholds
    refine ⟨q, q.keptBy .givenOnly, rfl, fun m again hagain => hagain.validate_dump hread, ?_, ?_, ?_⟩
    · rw [hgiven]
      refine hsame.trans ?_
      rw [Record.KeepsResults, DumpOptions.keeps_givenOnly]
      rfl
    · intro hnamed
      rw [q.keptBy_givenOnly, if_pos (hgiven.mp hnamed)]
    · intro hnamed
      rw [q.keptBy_givenOnly, if_neg (mt hgiven.mpr hnamed)]

theorem given_fields_read_back_without_a_result_put_in :
    let result : Json := .object [("path", .string "a"),
      ("outcome", .object [("kind", .string "apply_success"), ("output", .string "done")])]
    let steps : List Step :=
      [⟨"r", .load "CommandResponse" (.text "\x7b\x7d")⟩,
        ⟨"p", .load "ProjectResult" (.json result)⟩,
        ⟨"r", .copy "c" false []⟩,
        ⟨"r", .append "p"⟩,
        ⟨"c", .reverse⟩]
    let s := stateAfter .initial steps
    (∀ st ∈ steps, st.action.StaysInJson) ∧
    answer s ⟨"c", .dump .full⟩ = .ok (.dumped (.object
      [("error", .null), ("failure", .string ""), ("project_results", .array [result])])) ∧
    answer s ⟨"c", .dump .givenOnly⟩ = .ok (.dumped (.object [])) ∧
    ∃ loaded : Response (List Result), loaded.results = [] ∧
      (Input.json (.object [])).validate .commandResponse = .ok (.response loaded) := by
  intro result steps s
  have hsteps : ∀ st ∈ steps, st.action.StaysInJson := by
    simp only [steps, List.forall_mem_cons]
    exact ⟨.text _, .value _, rfl, rfl, rfl, by simp⟩
  have hname : (stateAfter .initial steps).held "c" =
      some (.response (.fresh 2 ⟨none, "", 0, ⟨false, false, false⟩⟩)) := by decide +kernel
  have hdump : answer s ⟨"c", .dump .givenOnly⟩ = .ok (.dumped (.object [])) := by decide +kernel
  have hnames : answer s ⟨"c", .fieldsSet⟩ = .ok (.names []) := by decide +kernel
  obtain ⟨r, names, -, hgiven, hset, -, hresponse⟩ := given_fields_read_back hsteps hname
  obtain ⟨q, loaded, -, hread, -, -, hlost⟩ := hresponse rfl
  have hempty : r.dump .givenOnly = .object [] := Answer.dumped.inj (Except.ok.inj (hgiven.symm.trans hdump))
  obtain rfl : names = [] := Answer.names.inj (Except.ok.inj (hset.symm.trans hnames))
  rw [hempty] at hread
  have hresults : loaded.results = [] := congrArg Response.results (hlost List.not_mem_nil)
  exact ⟨hsteps, by decide +kernel, hdump, loaded, hresults, hread .json _ .value⟩

end PullComment.Session
