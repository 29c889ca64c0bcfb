import PullComment.Proofs.Comment.NormalForm

namespace PullComment

def Outcome.texts : Outcome → List String
  | .error message => [message]
  | .failure message => [message]
  | .planSuccess terraformOutput lockUrl => [terraformOutput, lockUrl]
  | .applySuccess output => [output]

namespace Comment

open Text

def shownText (command : String) : Option Outcome → String
  | some o => Template.outcomeText command o
  | none => Template.noOutcomeText

def parts (command : String) (results : List (ProjectResult String)) : List (String × String) :=
  (normalForm results).map fun p => (p.path, shownText command p.outcome)

theorem standsIn_outcomeText (command : String) {s : String} {o : Outcome} (h : s ∈ o.texts) :
    StandsIn s (Template.outcomeText command o) := by
  cases o with
  | error message =>
      obtain rfl := List.mem_singleton.mp h
      exact ((StandsIn.refl s).append_left _).append_right _
  | failure message =>
      obtain rfl := List.mem_singleton.mp h
      exact ((StandsIn.refl s).append_left _).append_right _
  | planSuccess terraformOutput lockUrl =>
      rcases List.mem_cons.mp h with rfl | h
      · exact ((((StandsIn.refl s).append_left _).append_right _).append_right _).append_right _
      · obtain rfl := List.mem_singleton.mp h
        exact ((StandsIn.refl s).append_left _).append_right _
  | applySuccess output =>
      obtain rfl := List.mem_singleton.mp h
      exact ((StandsIn.refl s).append_left _).append_right _

theorem standsIn_sectionText (s : String × String) : StandsIn s.2 (Template.sectionText s) :=
  ((StandsIn.refl s.2).append_left _).append_right _

theorem standsIn_pathLine (s : String × String) : StandsIn s.1 (Template.pathLine s) :=
  ((StandsIn.refl s.1).append_left _).append_right _

theorem standsIn_logFragment (log : String) : StandsIn log (Template.logFragment true log) :=
  ((StandsIn.refl log).append_left _).append_right _

theorem standsIn_singleText {s : String × String} {sections : List (String × String)} (h : s ∈ sections) :
    StandsIn s.2 (Template.singleText sections) :=
  (StandsIn.join_of_mem (List.mem_map_of_mem h)).append_right _

theorem standsIn_multiText (command : String) {s : String × String} {sections : List (String × String)}
    (h : s ∈ sections) :
    StandsIn s.1 (Template.multiText command sections) ∧ StandsIn s.2 (Template.multiText command sections) := by
  constructor
  · have hp : StandsIn s.1 (String.join (sections.map Template.pathLine)) :=
      (standsIn_pathLine s).trans (StandsIn.join_of_mem (List.mem_map_of_mem h))
    exact ((hp.append_left _).append_right _).append_right _
  · have ht : StandsIn s.2 (String.join (sections.map Template.sectionText)) :=
      (standsIn_sectionText s).trans (StandsIn.join_of_mem (List.mem_map_of_mem h))
    exact ht.append_left _

section Unfaulted

variable {r : Request} (hfaults : r.faults = Faults.none)

include hfaults

theorem fill_of_no_faults (template : Template) (scope : Scope) (text : String) :
    fill r.faults template scope text = ⟨text, []⟩ := by
  rw [hfaults]
  rfl

theorem markdown_ofResult {π : Type} [Label π] (p : ProjectResult π) :
    (ofResult r p).markdown = shownText r.command.title p.outcome := by
  unfold ofResult
  cases p.outcome with
  | none => rfl
  | some o => simp only [ofOutcome, fill_of_no_faults hfaults, shownText]

theorem sections_eq_parts (results : List (ProjectResult String)) :
    sections r results = parts r.command.title results := by
  have hr : (results.map fun p => (p.path, (ofResult r p).markdown)) =
      (results.map ProjectResult.member).map fun m => (m.1, shownText r.command.title m.2) := by
    simp [ProjectResult.member, markdown_ofResult hfaults, Function.comp_def]
  rw [sections, placed_eq_normalize, hr, Members.normalize_map, parts, normalForm]
  simp [Label.text, ProjectResult.ofMember, Function.comp_def]

theorem markdown_ofResults (results : List (ProjectResult String)) :
    (ofResults r results).markdown =
      (if (normalForm results).length = 1 then Template.singleText (parts r.command.title results)
        else Template.multiText r.command.title (parts r.command.title results))
        ++ Template.logFragment r.verbose r.log := by
  have hlength : (parts r.command.title results).length = (normalForm results).length := List.length_map _
  simp only [ofResults, ofSections, sections_eq_parts hfaults, fill_of_no_faults hfaults, hlength]
  split <;> rfl

theorem markdown_of_one_path {results : List (ProjectResult String)} {p : ProjectResult String}
    (h : normalForm results = [p]) :
    (ofResults r results).markdown =
      shownText r.command.title p.outcome ++ "\n" ++ Template.logFragment r.verbose r.log := by
  rw [markdown_ofResults hfaults, parts, h, List.length_singleton, if_pos rfl, List.map_singleton,
    Template.singleText, List.map_singleton, String.join_cons, String.join_nil, String.append_empty]

theorem markdown_of_many_paths {results : List (ProjectResult String)} (h : (normalForm results).length ≠ 1) :
    (ofResults r results).markdown =
      "Ran " ++ r.command.title ++ " in " ++ toString (normalForm results).length ++ " directories:\n"
        ++ String.join ((normalForm results).map fun p => " * `" ++ p.path ++ "`\n") ++ "\n"
        ++ String.join ((normalForm results).map fun p =>
          "## " ++ p.path ++ "/\n" ++ shownText r.command.title p.outcome ++ "\n---\n")
        ++ Template.logFragment r.verbose r.log := by
  rw [markdown_ofResults hfaults, if_neg h]
  simp only [Template.multiText, parts, List.length_map, List.map_map, Function.comp_def,
    Template.pathLine, Template.sectionText]

theorem markdown_normalForm (results : List (ProjectResult String)) :
    (ofResults r (normalForm results)).markdown = (ofResults r results).markdown := by
  rw [markdown_ofResults hfaults, markdown_ofResults hfaults, parts, normalForm_normalForm, parts]

theorem standsIn_markdown {results : List (ProjectResult String)} {p : ProjectResult String}
    (hp : p ∈ normalForm results) :
    StandsIn (shownText r.command.title p.outcome) (ofResults r results).markdown ∧
      ((normalForm results).length ≠ 1 → StandsIn p.path (ofResults r results).markdown) := by
  have hpart : (p.path, shownText r.command.title p.outcome) ∈ parts r.command.title results :=
    List.mem_map_of_mem hp
  rw [markdown_ofResults hfaults]
  constructor
  · refine StandsIn.append_right ?_ _
    split
    · exact standsIn_singleText hpart
    · exact (standsIn_multiText _ hpart).2
  · intro h
    rw [if_neg h]
    exact (standsIn_multiText _ hpart).1.append_right _

theorem log_standsIn_markdown (results : List (ProjectResult String)) (hverbose : r.verbose = true) :
    StandsIn r.log (ofResults r results).markdown := by
  rw [markdown_ofResults hfaults, hverbose]
  exact (standsIn_logFragment r.log).append_left _

end Unfaulted

theorem render_of_results {π : Type} [Label π] {r : Request} {response : CommandResponse π}
    (hcommand : r.command ≠ .help) (herror : response.error = none) (hfailure : response.failure = "") :
    render r response = ofResults r response.results := by
  unfold render
  cases hc : r.command with
  | help => exact absurd hc hcommand
  | plan => simp only [herror, hfailure, ↓reduceIte]
  | apply => simp only [herror, hfailure, ↓reduceIte]

/-- The comment on results is a function of their normal form, whatever their texts hold. -/
theorem markdown_of_results (r : Request) (response : CommandResponse String)
    (hcommand : r.command ≠ .help) (hfaults : r.faults = Faults.none)
    (herror : response.error = none) (hfailure : response.failure = "") :
    let kept := normalForm response.results
    let text := fun p : ProjectResult String => shownText r.command.title p.outcome
    let log := Template.logFragment r.verbose r.log
    let markdown := (render r response).markdown
    kept.map ProjectResult.path = Members.distinct (response.results.map ProjectResult.path) ∧
    (∀ p, p ∈ kept ↔
      ∃ before after, response.results = before ++ p :: after ∧ ∀ q ∈ after, q.path ≠ p.path) ∧
    (∀ p, kept = [p] → markdown = text p ++ "\n" ++ log) ∧
    (kept.length ≠ 1 → markdown =
      "Ran " ++ r.command.title ++ " in " ++ toString kept.length ++ " directories:\n"
        ++ String.join (kept.map fun p => " * `" ++ p.path ++ "`\n") ++ "\n"
        ++ String.join (kept.map fun p => "## " ++ p.path ++ "/\n" ++ text p ++ "\n---\n") ++ log) ∧
    (∀ p ∈ kept, (kept.length ≠ 1 → StandsIn p.path markdown) ∧
      ∀ o, p.outcome = some o → ∀ s ∈ o.texts, StandsIn s markdown) ∧
    (r.verbose = true → StandsIn r.log markdown) ∧
    (render r ⟨none, "", kept⟩).markdown = markdown ∧
    render r (response.mapPaths Json.string) = render r response := by
  intro kept text log markdown
  have hmarkdown : markdown = (ofResults r response.results).markdown :=
    congrArg Comment.markdown (render_of_results hcommand herror hfailure)
  rw [hmarkdown]
  refine ⟨map_path_normalForm _, fun _ => mem_normalForm, fun p hp => markdown_of_one_path hfaults hp,
    fun hne => markdown_of_many_paths hfaults hne, ?_, log_standsIn_markdown hfaults _, ?_,
    render_mapPaths Label.keeps_string r response⟩
  · intro p hp
    obtain ⟨htext, hpath⟩ := standsIn_markdown hfaults hp
    refine ⟨hpath, fun o ho s hs => StandsIn.trans ?_ htext⟩
    rw [ho]
    exact standsIn_outcomeText _ hs
  · rw [render_of_results hcommand rfl rfl]
    exact markdown_normalForm hfaults _

theorem markdown_of_repeated_path :
    let response : CommandResponse String :=
      ⟨none, "", [⟨"a", none⟩, ⟨"b", some (.failure "locked")⟩, ⟨"a", some (.applySuccess "\x7b% if x %\x7d")⟩]⟩
    let r : Request := ⟨.apply, "L", false, Faults.none⟩
    (r.command ≠ .help ∧ r.faults = Faults.none ∧ response.error = none ∧ response.failure = "") ∧
    (render r response).markdown =
      "Ran Apply in 2 directories:\n * `a`\n * `b`\n\n" ++
        "## a/\n```diff\n\x7b% if x %\x7d\n```\n---\n## b/\n**Apply Failed**: locked\n\n---\n\n" := by
  intro response r
  have hkept : normalForm response.results =
      [⟨"a", some (.applySuccess "\x7b% if x %\x7d")⟩, ⟨"b", some (.failure "locked")⟩] := by decide
  refine ⟨⟨by decide, rfl, rfl, rfl⟩, ?_⟩
  have h := (markdown_of_results r response (by decide) rfl rfl rfl).2.2.2.1 (by rw [hkept]; decide)
  rw [h, hkept]
  decide

end Comment

end PullComment
