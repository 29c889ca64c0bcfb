import PullComment.Comment.Render
import PullComment.Session.State

namespace PullComment

inductive Shown (π : Type) where
  | help
  | error (message : String)
  | failure (message : String)
  | results (results : List (ProjectResult π))

variable {π σ : Type}

def CommandResponse.shown (c : Command) (response : CommandResponse π) : Shown π :=
  match c, response.error with
  | .help, _ => .help
  | _, some message => .error message
  | _, none => if response.failure = "" then .results response.results else .failure response.failure

theorem CommandResponse.shown_help {c : Command} (hc : c = .help) (response : CommandResponse π) :
    response.shown c = .help := by
  rw [hc]
  rfl

theorem CommandResponse.shown_of_ne_help {c : Command} (hc : c ≠ .help) (response : CommandResponse π) :
    response.shown c =
      match response.error with
      | some message => .error message
      | none => if response.failure = "" then .results response.results else .failure response.failure := by
  cases c with
  | plan | apply => cases he : response.error <;> simp only [shown, he]
  | help => exact absurd rfl hc

theorem CommandResponse.shown_error {c : Command} (hc : c ≠ .help) {response : CommandResponse π}
    {message : String} (herror : response.error = some message) : response.shown c = .error message := by
  rw [shown_of_ne_help hc, herror]

theorem CommandResponse.shown_failure {c : Command} (hc : c ≠ .help) {response : CommandResponse π}
    (herror : response.error = none) (hfailure : response.failure ≠ "") :
    response.shown c = .failure response.failure := by
  rw [shown_of_ne_help hc, herror]
  exact if_neg hfailure

namespace Comment

variable [Label π] [Label σ]

def ofShown (r : Request) : Shown π → Comment
  | .help => help r
  | .error message => ofError r message
  | .failure message => ofFailure r message
  | .results results => ofResults r results

theorem render_eq_ofShown (r : Request) (response : CommandResponse π) :
    render r response = ofShown r (response.shown r.command) := by
  cases hc : r.command with
  | help => simp only [render, hc, CommandResponse.shown, ofShown]
  | plan | apply =>
      cases he : response.error with
      | some message => simp only [render, hc, he, CommandResponse.shown, ofShown]
      | none =>
          simp only [render, hc, he, CommandResponse.shown]
          split <;> rfl

theorem fill_congr {faults faults' : Faults} {template : Template} (h : faults template = faults' template)
    (scope : Scope) (text : String) : fill faults template scope text = fill faults' template scope text := by
  simp only [fill, h]

theorem render_help_eq {r r' : Request} (hr : r.command = .help) (hr' : r'.command = .help)
    (hfaults : r.faults .help = r'.faults .help) (a : CommandResponse π) (b : CommandResponse σ) :
    render r a = render r' b := by
  rw [render_eq_ofShown, render_eq_ofShown, CommandResponse.shown_help hr, CommandResponse.shown_help hr']
  exact fill_congr hfaults [] Template.helpText

theorem render_error_eq {r : Request} (hr : r.command ≠ .help) {a : CommandResponse π}
    {b : CommandResponse σ} {message : String} (ha : a.error = some message) (hb : b.error = some message) :
    render r a = render r b := by
  rw [render_eq_ofShown, render_eq_ofShown, CommandResponse.shown_error hr ha,
    CommandResponse.shown_error hr hb]
  rfl

theorem render_failure_eq {r : Request} (hr : r.command ≠ .help) {a : CommandResponse π}
    {b : CommandResponse σ} (ha : a.error = none) (hb : b.error = none) (hne : a.failure ≠ "")
    (hfailure : a.failure = b.failure) : render r a = render r b := by
  rw [render_eq_ofShown, render_eq_ofShown, CommandResponse.shown_failure hr ha hne,
    CommandResponse.shown_failure hr hb (hfailure ▸ hne), hfailure]
  rfl

end Comment

namespace Session

theorem renderContent_help_eq {o o' : RenderOptions} (ho : o.command = Command.help.word)
    (ho' : o'.command = Command.help.word) (hfaults : o.faults .help = o'.faults .help)
    (content content' : Except Refusal (CommandResponse Json)) :
    renderContent o content = renderContent o' content' := by
  have hcommand : ∀ p : RenderOptions, p.command = Command.help.word →
      ∀ c, renderContent p c = .ok (Comment.help (p.request .help)) := by
    intro p hp c
    simp only [renderContent, checkCommand, hp, Command.ofWord?_word]
    rfl
  rw [hcommand o ho, hcommand o' ho']
  exact congrArg Except.ok (Comment.fill_congr hfaults [] Template.helpText)

theorem chosenContent_error_eq {error : Json} (h : error ≠ .null) (failure failure' : Except Refusal Json)
    (results results' : Except Refusal (List (ProjectResult Json))) :
    chosenContent error failure results = chosenContent error failure' results' := by
  have hne : (error != .null) = true := bne_iff_ne.mpr h
  simp only [chosenContent, hne, ↓reduceIte]

theorem chosenContent_failure_eq {failure : Json} (h : failure.isNothing = false)
    (results results' : Except Refusal (List (ProjectResult Json))) :
    chosenContent .null (.ok failure) results = chosenContent .null (.ok failure) results' := by
  simp only [chosenContent, bind, Except.bind, h, Bool.not_false, ↓reduceIte]

end Session

namespace Comment

open Session

variable [Label π] [Label σ]

/-- What is passed over does not show, in responses as they were validated and in responses of which any
field may hold any value. -/
theorem hidden_parts_do_not_show (a : CommandResponse π) (b : CommandResponse σ) :
    (∀ r r' : Request, r.command = .help → r'.command = .help → r.faults .help = r'.faults .help →
      render r a = render r' b) ∧
    (∀ (r : Request) (message : String), r.command ≠ .help → a.error = some message →
      b.error = some message → render r a = render r b) ∧
    (∀ r : Request, r.command ≠ .help → a.error = none → b.error = none → a.failure ≠ "" →
      a.failure = b.failure → render r a = render r b) ∧
    (∀ (o o' : RenderOptions) (content content' : Except Refusal (CommandResponse Json)),
      o.command = "help" → o'.command = "help" → o.faults .help = o'.faults .help →
      renderContent o content = renderContent o' content') ∧
    (∀ (o : RenderOptions) (error : Json) (failure failure' : Except Refusal Json)
      (results results' : Except Refusal (List (ProjectResult Json))), error ≠ .null →
      renderContent o (chosenContent error failure results) =
        renderContent o (chosenContent error failure' results')) ∧
    (∀ (o : RenderOptions) (failure : Json) (results results' : Except Refusal (List (ProjectResult Json))),
      failure.isNothing = false →
      renderContent o (chosenContent .null (.ok failure) results) =
        renderContent o (chosenContent .null (.ok failure) results')) := by
  refine ⟨?_, ?_, ?_, ?_, ?_, ?_⟩
  · intro r r' hr hr' hfaults
    exact render_help_eq hr hr' hfaults a b
  · intro r message hr ha hb
    exact render_error_eq hr ha hb
  · intro r hr ha hb hne hfailure
    exact render_failure_eq hr ha hb hne hfailure
  · intro o o' content content' ho ho' hfaults
    exact renderContent_help_eq ho ho' hfaults content content'
  · intro o error failure failure' results results' herror
    rw [chosenContent_error_eq herror]
  · intro o failure results results' hfailure
    rw [chosenContent_failure_eq hfailure]

theorem hidden_parts_do_not_show_behind_an_empty_error :
    let results : List (ProjectResult String) := [⟨"p", none⟩, ⟨"p", some (.error "x")⟩]
    let faults : Faults := fun t => if t = .error then some "missing" else none
    let r : Request := ⟨.plan, "L", true, faults⟩
    let help : Request := ⟨.help, "L", true, faults⟩
    let help' : Request := ⟨.help, "", false, Faults.none⟩
    let a : CommandResponse String := ⟨some "", "nope", results⟩
    let b : CommandResponse Json := ⟨some "", "", []⟩
    let c : CommandResponse String := ⟨none, "nope", results⟩
    let d : CommandResponse String := ⟨none, "nope", []⟩
    (r.command ≠ .help ∧ a.error = some "" ∧ b.error = some "" ∧ render r a = render r b) ∧
      (c.error = none ∧ d.error = none ∧ c.failure ≠ "" ∧ c.failure = d.failure ∧ render r c = render r d) ∧
      (help.faults .help = help'.faults .help ∧ render help a = render help' b) ∧
      (render r (⟨none, "", results⟩ : CommandResponse String)).events =
        [.noOutcome "p", .templateFailed (undefinedReason "missing")] := by
  intro results faults r help help' a b c d
  obtain ⟨hhelp, herror, -⟩ := hidden_parts_do_not_show a b
  obtain ⟨-, -, hfailure, -⟩ := hidden_parts_do_not_show c d
  have hr : r.command ≠ .help := by decide
  have hc : c.failure ≠ "" := by decide
  refine ⟨⟨hr, rfl, rfl, herror r "" hr rfl rfl⟩, ⟨rfl, rfl, hc, rfl, hfailure r hr rfl rfl hc rfl⟩,
    ⟨rfl, hhelp help help' rfl rfl rfl⟩, rfl⟩

end Comment

end PullComment
