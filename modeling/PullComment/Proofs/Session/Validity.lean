import PullComment.Proofs.Comment.Log
import PullComment.Proofs.Comment.Paths
import PullComment.Proofs.Schema.Grammar
import PullComment.Proofs.Schema.RoundTrip
import PullComment.Proofs.Session.Keeping

namespace PullComment.Session

open PullComment Schema

def Entry.Valid (e : Entry) : Prop :=
  ∃ r : Result, e.Holds r ∧ r.Valid

inductive Held.Valid : Held Nat → Prop
  | variant (number : Nat) {w : Variant} (hw : w.outcome.Filled) : Valid (.variant (.fresh number w))
  | result (number : Nat) {r : Result} (hr : r.Valid) : Valid (.result (.fresh number r))
  | response (number : Nat) (r : Response Nat) : Valid (.response (.fresh number r))

structure State.Valid (s : State) : Prop where
  held : ∀ name h, s.held name = some h → h.Valid
  listed : ∀ items ∈ s.lists, ∀ e ∈ items, e.Valid

namespace Entry

theorem Meets.valid {e : Entry} (h : e.Meets Held.Valid) : e.Valid := by
  obtain ⟨r, rfl, hr⟩ := h
  cases hr with
  | @result number r hr => exact ⟨r, ⟨number, rfl⟩, hr⟩

theorem exists_holds_of_valid {items : List Entry} (h : ∀ e ∈ items, e.Valid) :
    ∃ results, List.Forall₂ Holds items results ∧ ∀ r ∈ results, r.Valid := by
  induction items with
  | nil => exact ⟨[], .nil, by simp⟩
  | cons e items ih =>
      obtain ⟨⟨r, he, hr⟩, hitems⟩ := List.forall_mem_cons.mp h
      obtain ⟨results, hholds, hvalid⟩ := ih hitems
      exact ⟨r :: results, .cons he hholds, List.forall_mem_cons.mpr ⟨hr, hvalid⟩⟩

end Entry

theorem Held.stable_valid : Stable Held.Valid := by
  intro h lists numbers hh
  cases hh with
  | variant number hw => exact .variant (numbers number) hw
  | result number hr => exact .result (numbers number) hr
  | response number r => exact .response (numbers number) (r.mapResults lists)

theorem brings_of_valid {r : Record} (h : r.Valid) : Brings Held.Valid r := by
  cases r with
  | variant w => exact fun number => .variant number h
  | result r => exact fun number => .result number h
  | response r => exact ⟨fun number _ => .response number _, fun x hx number => .result number (h x hx)⟩

theorem refuseFault_eq_ok_iff {α : Type} {e : Except InputFault α} {a : α} :
    refuseFault e = .ok a ↔ e = .ok a := by
  cases e with
  | ok b => simp [refuseFault]
  | error fault => cases fault <;> simp [refuseFault]

theorem checkInput_valid {model : Model} {input : Input} {r : Record} (h : checkInput model input = .ok r) :
    r.Valid :=
  (Input.validate_valid (refuseFault_eq_ok_iff.mp h)).2

theorem Validates.valid {s : State} {action : Action} {r : Record} (h : Validates s action r) : r.Valid := by
  cases h with
  | load hread =>
      obtain ⟨model, -, hcheck⟩ := bind_eq_ok_iff.mp hread
      exact checkInput_valid hcheck
  | reload hread =>
      obtain ⟨text, -, hcheck⟩ := bind_eq_ok_iff.mp hread
      exact checkInput_valid hcheck

theorem valid_stateAfter {steps : List Step} (h : ∀ st ∈ steps, st.action.putsIn = false) :
    (stateAfter .initial steps).Valid := by
  have hmeets : (stateAfter .initial steps).Meets Held.Valid :=
    meets_stateAfter Held.stable_valid h fun _ _ _ _ hvalidates => brings_of_valid hvalidates.valid
  exact ⟨hmeets.held, fun items hitems e he => (hmeets.listed items hitems e he).valid⟩

theorem State.Valid.exists_record {s : State} {h : Held Nat} (hs : s.Valid) (hh : h.Valid) :
    ∃ r : Record, (s.view h).Holds r ∧ r.Valid := by
  cases hh with
  | @variant number w hw => exact ⟨.variant w, .variant number w, hw⟩
  | @result number r hr => exact ⟨.result r, .result number r, hr⟩
  | response number r =>
      have hentries : ∀ e ∈ s.listAt r.results, e.Valid := fun e he => by
        obtain ⟨items, hitems, hmem⟩ := State.mem_lists_of_mem_listAt he
        exact hs.listed items hitems e hmem
      obtain ⟨results, hholds, hvalid⟩ := Entry.exists_holds_of_valid hentries
      let q := r.mapResults fun _ => results
      exact ⟨.response q, .response (r := q) number hholds, hvalid⟩

theorem reloadRecord_of_holds {s : State} {h : Held Nat} {r : Record} (hholds : (s.view h).Holds r)
    (hr : r.Valid) (hmodel : h.model = r.model) : reloadRecord s h = .ok r.complete := by
  refine bind_eq_ok_iff.mpr ⟨_, hholds.write_eq .compact, refuseFault_eq_ok_iff.mpr ?_⟩
  rw [hmodel]
  exact validate_print hr .compact

theorem mapM_content_of_holds {items : List Entry} {results : List Result}
    (h : List.Forall₂ Entry.Holds items results) :
    items.mapM Entry.content = .ok (results.map fun r => r.content.mapPath Json.string) := by
  induction h with
  | nil => rfl
  | @cons e r items results he _ ih =>
      obtain ⟨number, rfl⟩ := he
      have hentry : (Entry.result (.fresh number r)).content = .ok (r.content.mapPath Json.string) := rfl
      rw [List.mapM_cons, hentry, ih]
      rfl

theorem shownText_string (text : String) : shownText (.string text) = .ok text :=
  rfl

theorem exists_chosenContent (response : CommandResponse String) :
    ∃ found, chosenContent ((response.error.map Json.string).getD .null) (.ok (.string response.failure))
        (.ok (response.mapPaths Json.string).results) = .ok found ∧
      ∀ q : Request, Comment.render q found = Comment.render q response := by
  obtain ⟨error, failure, results⟩ := response
  cases error with
  | some message =>
      refine ⟨⟨some message, "", []⟩, rfl, fun q => ?_⟩
      by_cases hq : q.command = .help
      · exact Comment.render_help_eq hq hq rfl _ _
      · exact Comment.render_error_eq hq rfl rfl
  | none =>
      by_cases hfailure : failure = ""
      · subst hfailure
        exact ⟨_, rfl, fun q => Comment.render_mapPaths Label.keeps_string q ⟨none, "", results⟩⟩
      · refine ⟨⟨none, failure, []⟩, ?_, fun q => ?_⟩
        · simp [chosenContent, bind, Except.bind, Json.isNothing, hfailure, shownText_string]
        by_cases hq : q.command = .help
        · exact Comment.render_help_eq hq hq rfl _ _
        · exact Comment.render_failure_eq hq rfl rfl hfailure rfl

theorem Held.Holds.renderHeld_eq {h : Held (List Entry)} {r : Response (List Result)}
    (hr : h.Holds (.response r)) {o : RenderOptions} {c : Command} (hc : Command.ofWord? o.command = some c) :
    renderHeld o h = .ok (Comment.render (o.request c) r.content) := by
  obtain ⟨found, hfound, hrender⟩ := exists_chosenContent r.content
  have hcontent : h.content = .ok found := by
    cases hr with
    | @response number items r hitems =>
        have hresults : items.mapM Entry.content = .ok (r.content.mapPaths Json.string).results := by
          rw [mapM_content_of_holds hitems, CommandResponse.mapPaths, Response.content, List.map_map]
          rfl
        rw [← hfound, ← hresults]
        rfl
  have hcommand : checkCommand o.command = .ok c := by rw [checkCommand, hc]
  rw [renderHeld, renderContent, hcommand, hcontent, ← hrender]
  cases c <;> rfl

/-- In a session that puts nothing into a copy, all that is bound is a record that satisfies its schema. It
can be reloaded, to an equal record, and a response is rendered without a report, each of its results by the
template of its outcome. -/
theorem what_is_bound_stays_valid {steps : List Step} (hsteps : ∀ st ∈ steps, st.action.putsIn = false)
    {name : String} {h : Held Nat} (hname : (stateAfter .initial steps).held name = some h) :
    let s := stateAfter .initial steps
    ∃ r : Record, (s.view h).Holds r ∧ r.Valid ∧
      (∃ v, answer s ⟨name, .dump .full⟩ = .ok (.dumped v) ∧ InGrammar h.model v) ∧
      (∀ into, answer s ⟨name, .reload into⟩ = .ok (.equality true)) ∧
      (h.model = .commandResponse → ∃ response, r = .response response ∧
        ∀ o c, Command.ofWord? o.command = some c → o.faults = Faults.none →
          let comment := Comment.render (o.request c) response.content
          answer s ⟨name, .render o⟩ = .ok (.comment comment) ∧ comment.events = [] ∧
          ∀ p ∈ response.content.results, ∃ outcome, p.outcome = some outcome ∧
            Comment.ofResult (o.request c) p = ⟨Template.outcomeText c.title outcome, []⟩) := by
  intro s
  have hs : s.Valid := valid_stateAfter hsteps
  obtain ⟨r, hholds, hr⟩ := hs.exists_record (hs.held name h hname)
  have hmodel : h.model = r.model := by
    rw [← hholds.model_eq]
    cases h <;> rfl
  refine ⟨r, hholds, hr, ⟨r.dump .full, ?_, ?_⟩, fun into => ?_, fun hresponse => ?_⟩
  · exact answer_dump hname (hholds.dump_eq .full)
  · rw [hmodel]
    exact accepted_readAs.mp ⟨r.complete, readAs_dump hr⟩
  · have hsame : (Held.ofRecord r.complete).same (s.view h) = true :=
      ((Held.holds_ofRecord r.complete).same_eq hholds).trans r.same_complete
    rw [answer_reload hname (reloadRecord_of_holds hholds hr hmodel), hsame]
  · obtain ⟨response, rfl⟩ : ∃ response, r = .response response := by
      cases r with
      | variant w => cases hresponse.symm.trans hmodel
      | result x => cases hresponse.symm.trans hmodel
      | response response => exact ⟨response, rfl⟩
    refine ⟨response, rfl, fun o c hc hfaults => ⟨?_, ?_, ?_⟩⟩
    · exact answer_render hname (hholds.renderHeld_eq hc)
    · exact Comment.events_render_of_outcomes hfaults response.isSome_outcome_content
    · intro p hp
      obtain ⟨x, -, rfl⟩ := List.mem_map.mp hp
      exact ⟨x.variant.outcome, rfl, Comment.fill_of_none (congrFun hfaults _) _ _⟩

theorem what_is_bound_stays_valid_of_shared_list :
    let result : Json := .object [("path", .string "a"),
      ("outcome", .object [("kind", .string "apply_success"), ("output", .string "done")])]
    let steps : List Step :=
      [⟨"r", .load "CommandResponse" (.json (.object [("project_results", .array [result])]))⟩,
        ⟨"r", .copy "s" false []⟩,
        ⟨"s", .take "p" 0⟩,
        ⟨"s", .append "p"⟩,
        ⟨"s", .assign ⟨"failure", by decide⟩⟩,
        ⟨"r", .copy "d" true []⟩,
        ⟨"d", .pop 0⟩,
        ⟨"d", .pop 7⟩,
        ⟨"p", .reload "q"⟩]
    let s := stateAfter .initial steps
    let asked : RenderOptions := ⟨"apply", "", false, Faults.none⟩
    (∀ st ∈ steps, st.action.putsIn = false) ∧
    answer s ⟨"r", .dump .full⟩ = .ok (.dumped (.object
      [("error", .null), ("failure", .string ""), ("project_results", .array [result, result])])) ∧
    answer s ⟨"r", .reload "x"⟩ = .ok (.equality true) ∧
    ∃ c, answer s ⟨"r", .render asked⟩ = .ok (.comment c) ∧ c.events = [] := by
  intro result steps s asked
  have hsteps : ∀ st ∈ steps, st.action.putsIn = false := by decide +kernel
  have hname : (stateAfter .initial steps).held "r" =
      some (.response (.fresh 0 ⟨none, "", 0, ⟨false, false, true⟩⟩)) := by decide +kernel
  obtain ⟨_, -, -, -, hreload, hrender⟩ := what_is_bound_stays_valid hsteps hname
  obtain ⟨response, -, hrender⟩ := hrender rfl
  obtain ⟨hanswer, hevents, -⟩ := hrender asked .apply (by decide) rfl
  exact ⟨hsteps, by decide +kernel, hreload "x", _, hanswer, hevents⟩

end PullComment.Session
