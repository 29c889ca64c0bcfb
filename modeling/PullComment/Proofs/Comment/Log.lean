import PullComment.Proofs.Comment.Isolation

namespace PullComment

variable {π : Type} [Label π]

namespace Comment

def soundPart (command : String) (p : ProjectResult π) : String × String :=
  (Label.text p.path, shownText command p.outcome)

end Comment

def Shown.body (command : String) : Shown π → String
  | .help => Template.helpText
  | .error message => Template.errorText command message
  | .failure message => Template.failureText command message
  | .results given =>
      let parts := (latest given).map (Comment.soundPart command)
      if parts.length = 1 then Template.singleText parts else Template.multiText command parts

def CommandResponse.body (c : Command) (response : CommandResponse π) : String :=
  (response.shown c).body c.title

namespace Comment

theorem part_eq_soundPart {r : Request} (hfaults : r.faults = Faults.none) :
    part r = (soundPart r.command.title : ProjectResult π → String × String) := by
  funext p
  exact part_of_no_fault fun t _ => congrFun hfaults t

theorem text_eq_body_append (r : Request) {s : Shown π} (hs : s ≠ .help) :
    s.text r ((latest s.projects).map (soundPart r.command.title)) =
      s.body r.command.title ++ Template.logFragment r.verbose r.log := by
  cases s with
  | help => exact absurd rfl hs
  | error message | failure message | results given => rfl

omit [Label π] in
theorem shown_ne_help {c : Command} (hc : c ≠ .help) (response : CommandResponse π) :
    response.shown c ≠ .help := by
  rw [CommandResponse.shown_of_ne_help hc]
  cases response.error with
  | some message => simp
  | none =>
      by_cases hfailure : response.failure = ""
      · simp [hfailure]
      · simp [hfailure]

theorem markdown_eq_body_append {r : Request} (hr : r.command ≠ .help) (hfaults : r.faults = Faults.none)
    (response : CommandResponse π) :
    (render r response).markdown = response.body r.command ++ Template.logFragment r.verbose r.log := by
  rw [render_eq_ofShown, markdown_ofShown_of_none (congrFun hfaults _), part_eq_soundPart hfaults,
    text_eq_body_append r (shown_ne_help hr response), CommandResponse.body]

theorem events_ofShown {r : Request} (hfaults : r.faults = Faults.none) (s : Shown π) :
    (ofShown r s).events = s.projects.flatMap fun p => (ofResult r p).events := by
  rw [ofShown_eq_outerComment, outerComment, fill_of_none (congrFun hfaults _), List.append_nil]

theorem events_ofResult_of_outcome {r : Request} (hfaults : r.faults = Faults.none) {p : ProjectResult π}
    (hp : p.outcome.isSome) : (ofResult r p).events = [] := by
  obtain ⟨o, ho⟩ := Option.isSome_iff_exists.mp hp
  rw [ofResult, ho]
  dsimp only [ofOutcome]
  rw [fill_of_none (congrFun hfaults _)]

omit [Label π] in
theorem mem_results_of_mem_projects {c : Command} {response : CommandResponse π} {p : ProjectResult π}
    (hp : p ∈ (response.shown c).projects) : p ∈ response.results := by
  unfold CommandResponse.shown at hp
  split at hp
  · cases hp
  · cases hp
  · split_ifs at hp
    · exact hp
    · cases hp

theorem events_render_of_outcomes {r : Request} (hfaults : r.faults = Faults.none)
    {response : CommandResponse π} (h : ∀ p ∈ response.results, p.outcome.isSome) :
    (render r response).events = [] := by
  rw [render_eq_ofShown, events_ofShown hfaults, List.flatMap_eq_nil_iff]
  exact fun p hp => events_ofResult_of_outcome hfaults (h p (mem_results_of_mem_projects hp))

theorem logFragment_injective {log log' : String}
    (h : Template.logFragment true log = Template.logFragment true log') : log = log' :=
  (String.append_right_inj _).mp ((String.append_left_inj _).mp h)

theorem count_logFragment (log : String) (c : Char) :
    (Template.logFragment true log).toList.count c =
      (Template.logFragment true "").toList.count c + log.toList.count c := by
  simp only [Template.logFragment, ↓reduceIte, String.toList_append, List.count_append, String.toList_empty,
    List.count_nil]
  omega

theorem ofResult_eq_of_command {r r' : Request} (hcommand : r.command = r'.command)
    (hfaults : r.faults = r'.faults) (p : ProjectResult π) : ofResult r p = ofResult r' p := by
  simp only [ofResult, ofOutcome, hcommand, hfaults]

/-- A comment ends in the log or says nothing of it. The body is the same for all logs, shown or not, as is
what is made of each single result; every character of a shown log is there once, and no two logs are shown
alike. -/
theorem log_stands_once_at_the_end {c : Command} (hc : c ≠ .help) (response : CommandResponse π) :
    let comment := fun (verbose : Bool) (log : String) => render ⟨c, log, verbose, Faults.none⟩ response
    (∃ body : String,
      (∀ log, (comment false log).markdown = body ++ "\n") ∧
      ∀ log, (comment true log).markdown =
        body ++ "\n<details><summary>Log</summary>\n  <p>\n\n```\n" ++ log ++ "```\n</p></details>\n") ∧
    (∀ log log', comment false log = comment false log') ∧
    (∀ log char, (comment true log).markdown.toList.count char =
      (comment true "").markdown.toList.count char + log.toList.count char) ∧
    (∀ log log', (comment true log).markdown = (comment true log').markdown ↔ log = log') ∧
    ∀ p ∈ response.results, ∀ verbose verbose' log log',
      ofResult ⟨c, log, verbose, Faults.none⟩ p = ofResult ⟨c, log', verbose', Faults.none⟩ p := by
  intro comment
  have hmarkdown : ∀ verbose log,
      (comment verbose log).markdown = response.body c ++ Template.logFragment verbose log :=
    fun verbose log => markdown_eq_body_append (r := ⟨c, log, verbose, Faults.none⟩) hc rfl response
  refine ⟨⟨response.body c, hmarkdown false, ?_⟩, ?_, ?_, ?_, ?_⟩
  · intro log
    rw [hmarkdown, Template.logFragment, if_pos rfl]
    simp only [String.append_assoc]
  · intro log log'
    have hevents : (comment false log).events = (comment false log').events := by
      simp only [comment, render_eq_ofShown]
      rw [events_ofShown rfl, events_ofShown rfl]
      exact List.flatMap_congr fun p _ => congrArg Comment.events (ofResult_eq_of_command rfl rfl p)
    calc comment false log = ⟨(comment false log).markdown, (comment false log).events⟩ := rfl
      _ = ⟨(comment false log').markdown, (comment false log').events⟩ := by
        rw [hevents, hmarkdown, hmarkdown]
        rfl
  · intro log char
    rw [hmarkdown, hmarkdown, String.toList_append, String.toList_append, List.count_append,
      List.count_append, count_logFragment, Nat.add_assoc]
  · intro log log'
    constructor
    · intro h
      rw [hmarkdown, hmarkdown] at h
      exact logFragment_injective ((String.append_right_inj _).mp h)
    · rintro rfl
      rfl
  · intro p _ verbose verbose' log log'
    exact ofResult_eq_of_command rfl rfl p

theorem log_stands_once_at_the_end_of_two_projects :
    let response : CommandResponse String :=
      ⟨none, "", [⟨"a", some (.applySuccess "```\n</p></details>")⟩, ⟨"b", none⟩]⟩
    let comment := fun (verbose : Bool) (log : String) => render ⟨.apply, log, verbose, Faults.none⟩ response
    Command.apply ≠ .help ∧
    comment false "```\n" = comment false "" ∧
    (comment true "```\n").markdown ≠ (comment true "").markdown ∧
    (comment true "```\n").markdown =
      "Ran Apply in 2 directories:\n * `a`\n * `b`\n\n## a/\n```diff\n```\n</p></details>\n```\n---\n" ++
        "## b/\nFound no template. This is a bug!\n---\n" ++
        "\n<details><summary>Log</summary>\n  <p>\n\n```\n```\n```\n</p></details>\n" := by
  intro response comment
  have hc : Command.apply ≠ .help := by decide
  obtain ⟨-, hsilent, -, hshown, -⟩ := log_stands_once_at_the_end hc response
  refine ⟨hc, hsilent "```\n" "", ?_, by decide +kernel⟩
  exact fun h => absurd ((hshown "```\n" "").mp h) (by decide)

end Comment

end PullComment
