import PullComment.Proofs.Comment.Log
import PullComment.Proofs.Text.Occurrences

namespace PullComment

variable {π : Type} [Label π]

def ProjectResult.texts (p : ProjectResult π) : List String :=
  (p.outcome.map Outcome.texts).getD []

def Shown.substituted : Shown π → List String
  | .help => []
  | .error message => [message]
  | .failure message => [message]
  | .results given =>
      if (latest given).length = 1 then (latest given).flatMap ProjectResult.texts
      else (latest given).flatMap fun p => Label.text p.path :: Label.text p.path :: p.texts

namespace Comment

open Text

def detailsTag : String :=
  "<details>"

def detailsIn (texts : List String) : Nat :=
  (texts.map (occurrences detailsTag)).sum

theorem detailsIn_cons (s : String) (texts : List String) :
    detailsIn (s :: texts) = occurrences detailsTag s + detailsIn texts :=
  rfl

theorem detailsIn_flatMap {α : Type} (l : List α) (f : α → List String) :
    detailsIn (l.flatMap f) = (l.map fun a => detailsIn (f a)).sum := by
  rw [detailsIn, List.flatMap_def, List.map_flatten, List.sum_flatten, List.map_map, List.map_map]
  rfl

theorem occurrences_title (c : Command) : occurrences detailsTag c.title = 0 := by
  cases c <;> decide

theorem occurrences_errorText (c : Command) (message : String) :
    occurrences detailsTag (Template.errorText c.title message) = occurrences detailsTag message := by
  rw [Template.errorText, Seals.occurrences_append_right (by decide), Seals.occurrences_append_append (by decide),
    Seals.occurrences_append_left (by decide), occurrences_title, Nat.zero_add]

theorem occurrences_failureText (c : Command) (message : String) :
    occurrences detailsTag (Template.failureText c.title message) = occurrences detailsTag message := by
  rw [Template.failureText, Seals.occurrences_append_right (by decide), Seals.occurrences_append_append (by decide),
    Seals.occurrences_append_left (by decide), occurrences_title, Nat.zero_add]

theorem occurrences_planText (terraformOutput lockUrl : String) :
    occurrences detailsTag (Template.planText terraformOutput lockUrl) =
      occurrences detailsTag terraformOutput + occurrences detailsTag lockUrl := by
  rw [Template.planText, Seals.occurrences_append_right (by decide), Seals.occurrences_append_append (by decide),
    Seals.occurrences_append_left (by decide)]

theorem occurrences_applyText (output : String) :
    occurrences detailsTag (Template.applyText output) = occurrences detailsTag output := by
  rw [Template.applyText, Seals.occurrences_append_right (by decide), Seals.occurrences_append_left (by decide)]

omit [Label π] in
theorem occurrences_shownText (c : Command) (p : ProjectResult π) :
    occurrences detailsTag (shownText c.title p.outcome) = detailsIn p.texts := by
  obtain ⟨path, outcome⟩ := p
  cases outcome with
  | none =>
      show occurrences detailsTag Template.noOutcomeText = 0
      decide
  | some o =>
      cases o with
      | error message => exact occurrences_errorText c message
      | failure message => exact occurrences_failureText c message
      | planSuccess terraformOutput lockUrl => exact occurrences_planText terraformOutput lockUrl
      | applySuccess output => exact occurrences_applyText output

theorem occurrences_pathLine (s : String × String) :
    occurrences detailsTag (Template.pathLine s) = occurrences detailsTag s.1 := by
  rw [Template.pathLine, Seals.occurrences_append_right (by decide), Seals.occurrences_append_left (by decide)]

theorem occurrences_sectionText (s : String × String) :
    occurrences detailsTag (Template.sectionText s) =
      occurrences detailsTag s.1 + occurrences detailsTag s.2 := by
  rw [Template.sectionText, Seals.occurrences_append_right (by decide), Seals.occurrences_append_append (by decide),
    Seals.occurrences_append_left (by decide)]

theorem occurrences_toString (n : Nat) : occurrences detailsTag (toString n) = 0 :=
  occurrences_eq_zero_of_notMem (by decide : '<' ∈ detailsTag.toList) (notMem_toString (by decide) n)

theorem occurrences_multiText (c : Command) (sections : List (String × String)) :
    occurrences detailsTag (Template.multiText c.title sections) =
      (sections.map fun s => 2 * occurrences detailsTag s.1 + occurrences detailsTag s.2).sum := by
  have hheader : occurrences detailsTag ("Ran " ++ c.title ++ " in " ++ toString sections.length) = 0 := by
    rw [Seals.occurrences_append_append (by decide), Seals.occurrences_append_left (by decide), occurrences_title,
      occurrences_toString]
  have hlines : ∀ s ∈ sections.map Template.pathLine, Closes detailsTag s := by
    intro s hs
    obtain ⟨x, -, rfl⟩ := List.mem_map.mp hs
    exact Closes.append_left (by decide) _
  have hsections : ∀ s ∈ sections.map Template.sectionText, Closes detailsTag s := by
    intro s hs
    obtain ⟨x, -, rfl⟩ := List.mem_map.mp hs
    exact Closes.append_left (by decide) _
  rw [Template.multiText, Seals.occurrences_append_append (by decide), Seals.occurrences_append_append (by decide),
    hheader, Nat.zero_add, occurrences_join hlines, occurrences_join hsections, List.map_map, List.map_map,
    ← List.sum_map_add]
  refine congrArg List.sum (List.map_congr_left fun s _ => ?_)
  rw [Function.comp_apply, Function.comp_apply, occurrences_pathLine, occurrences_sectionText, ← Nat.add_assoc,
    Nat.two_mul]

theorem occurrences_singleText (s : String × String) :
    occurrences detailsTag (Template.singleText [s]) = occurrences detailsTag s.2 := by
  rw [Template.singleText, Seals.occurrences_append_right (by decide), List.map_singleton, String.join_cons,
    String.join_nil, String.append_empty]

theorem occurrences_logFragment (verbose : Bool) (log : String) :
    occurrences detailsTag (Template.logFragment verbose log) =
      if verbose then occurrences detailsTag log + 1 else 0 := by
  cases verbose with
  | false => exact (by decide : occurrences detailsTag "\n" = 0)
  | true =>
      rw [Template.logFragment, if_pos rfl, Seals.occurrences_append_right (by decide),
        occurrences_append_of_closes (by decide), Nat.add_comm]
      rfl

theorem opens_logFragment (verbose : Bool) (log : String) : Opens detailsTag (Template.logFragment verbose log) := by
  cases verbose with
  | false => exact (by decide : Opens detailsTag "\n")
  | true => exact ((by decide : Opens detailsTag _).append_right log).append_right _

theorem occurrences_helpText : occurrences detailsTag Template.helpText = 0 := by
  delta Template.helpText
  simp only [occurrences, String.toList_append]
  -- characters are evaluated much faster than texts
  repeat rw [String.toList_ofList]
  decide +kernel

theorem occurrences_body (c : Command) (s : Shown π) :
    occurrences detailsTag (s.body c.title) = detailsIn s.substituted := by
  cases s with
  | help => exact occurrences_helpText
  | error message => exact occurrences_errorText c message
  | failure message => exact occurrences_failureText c message
  | results given =>
      rw [Shown.body, Shown.substituted, List.length_map]
      split
      · rename_i hone
        obtain ⟨p, hp⟩ := List.length_eq_one_iff.mp hone
        rw [hp, List.map_singleton, occurrences_singleText, List.flatMap_singleton]
        exact occurrences_shownText c p
      · rw [occurrences_multiText, List.map_map, detailsIn_flatMap]
        refine congrArg List.sum (List.map_congr_left fun p _ => ?_)
        have htext : occurrences detailsTag (soundPart c.title p).2 = detailsIn p.texts := occurrences_shownText c p
        rw [Function.comp_apply, htext, detailsIn_cons, detailsIn_cons, ← Nat.add_assoc, Nat.two_mul]
        rfl

/-- The tags of a comment are those of the texts that it shows, and the one of the log fragment. Where no text
has one, a comment has none without the log, and with the log the one that the log stands under. -/
theorem details_are_those_of_the_texts_and_of_the_log {r : Request} (hfaults : r.faults = Faults.none)
    (response : CommandResponse π) :
    let markdown := (render r response).markdown
    let shown := (response.shown r.command).substituted
    (r.command ≠ .help → occurrences detailsTag markdown =
      detailsIn shown + if r.verbose then occurrences detailsTag r.log + 1 else 0) ∧
    (r.command ≠ .help → r.verbose = false → (∀ s ∈ shown, ¬ StandsIn detailsTag s) →
      ¬ StandsIn detailsTag markdown) ∧
    (r.command ≠ .help → r.verbose = true → (∀ s ∈ shown, ¬ StandsIn detailsTag s) →
      ¬ StandsIn detailsTag r.log → occurrences detailsTag markdown = 1 ∧
        ∀ before after, markdown = before ++ detailsTag ++ after →
          ∃ rest, after = "<summary>Log</summary>" ++ rest) ∧
    (r.command = .help → ¬ StandsIn detailsTag markdown) := by
  intro markdown shown
  have hbody (hr : r.command ≠ .help) :
      markdown = response.body r.command ++ Template.logFragment r.verbose r.log :=
    markdown_eq_body_append hr hfaults response
  have hcount (hr : r.command ≠ .help) : occurrences detailsTag markdown =
      detailsIn shown + if r.verbose then occurrences detailsTag r.log + 1 else 0 := by
    rw [hbody hr, occurrences_append_of_opens (opens_logFragment r.verbose r.log)]
    exact congrArg₂ (· + ·) (occurrences_body r.command _) (occurrences_logFragment r.verbose r.log)
  have hnone (h : ∀ s ∈ shown, ¬ StandsIn detailsTag s) : detailsIn shown = 0 := by
    rw [detailsIn]
    refine List.sum_eq_zero fun n hn => ?_
    obtain ⟨s, hs, rfl⟩ := List.mem_map.mp hn
    exact (occurrences_eq_zero_iff (by decide)).mpr (h s hs)
  refine ⟨hcount, fun hr hsilent h => ?_, fun hr hverbose h hlog => ?_, fun hr => ?_⟩
  · rw [← occurrences_eq_zero_iff (by decide), hcount hr, hnone h, hsilent]
    rfl
  · have hone : occurrences detailsTag markdown = 1 := by
      rw [hcount hr, hnone h, hverbose, if_pos rfl, (occurrences_eq_zero_iff (by decide)).mpr hlog]
    refine ⟨hone, fun before after hsplit => ?_⟩
    have hopening : "\n<details><summary>Log</summary>\n  <p>\n\n```\n" =
        "\n" ++ (detailsTag ++ ("<summary>Log</summary>" ++ "\n  <p>\n\n```\n")) := by decide
    have hlast : markdown = (response.body r.command ++ "\n") ++ detailsTag ++
        ("<summary>Log</summary>" ++ ("\n  <p>\n\n```\n" ++ r.log ++ "```\n</p></details>\n")) := by
      rw [hbody hr, hverbose, Template.logFragment, if_pos rfl, hopening]
      simp only [String.append_assoc]
    exact ⟨_, eq_of_occurrences_eq_one (by decide) hone hsplit hlast⟩
  · have hhelp : markdown = Template.helpText := by
      show (render r response).markdown = _
      rw [render_eq_ofShown, markdown_ofShown_of_none (congrFun hfaults _), CommandResponse.shown_help hr]
      rfl
    rw [← occurrences_eq_zero_iff (by decide), hhelp]
    exact occurrences_body r.command (Shown.help : Shown π)

theorem details_are_those_of_the_texts_and_of_the_log_of_two_projects :
    let r : Request := ⟨.apply, "details>", true, Faults.none⟩
    let part : ProjectResult String := ⟨"a", some (.failure "<details")⟩
    let two : CommandResponse String := ⟨none, "", [part, ⟨"<details>", none⟩]⟩
    let one : CommandResponse String := ⟨none, "", [part]⟩
    (r.faults = Faults.none ∧ r.command ≠ .help ∧ r.verbose = true ∧ ¬ StandsIn detailsTag r.log) ∧
    occurrences detailsTag (render r two).markdown = 3 ∧
    (∀ s ∈ (one.shown r.command).substituted, ¬ StandsIn detailsTag s) ∧
    occurrences detailsTag (render r one).markdown = 1 ∧
    ∀ before after, (render r one).markdown = before ++ detailsTag ++ after →
      ∃ rest, after = "<summary>Log</summary>" ++ rest := by
  intro r part two one
  have hr : r.command ≠ .help := by decide
  have hlog : ¬ StandsIn detailsTag r.log := (occurrences_eq_zero_iff (by decide)).mp (by decide)
  have hone : ∀ s ∈ (one.shown r.command).substituted, ¬ StandsIn detailsTag s := by
    intro s hs
    obtain rfl := List.mem_singleton.mp (show s ∈ ["<details"] from hs)
    exact (occurrences_eq_zero_iff (by decide)).mp (by decide)
  obtain ⟨hcount, -⟩ := details_are_those_of_the_texts_and_of_the_log (r := r) rfl two
  obtain ⟨-, -, honly, -⟩ := details_are_those_of_the_texts_and_of_the_log (r := r) rfl one
  refine ⟨⟨rfl, hr, rfl, hlog⟩, ?_, hone, honly hr rfl hone hlog⟩
  rw [hcount hr]
  decide

end Comment

end PullComment
