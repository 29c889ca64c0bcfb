import Mathlib.Data.List.Induction
import PullComment.Proofs.Comment.Log
import PullComment.Proofs.Text.Occurrences

namespace PullComment

namespace Text

def lines (s : String) : List String :=
  (s.toList.splitOn '\n').map String.ofList

theorem lines_append {line : String} (h : '\n' ∉ line.toList) (rest : String) :
    lines (line ++ "\n" ++ rest) = line :: lines rest := by
  have hchars : (line ++ "\n" ++ rest).toList = line.toList ++ '\n' :: rest.toList := by
    simp only [String.toList_append, List.append_assoc]
    rfl
  have hsplit : (line.toList ++ '\n' :: rest.toList).splitOn '\n' =
      line.toList.splitOn '\n' ++ rest.toList.splitOn '\n' :=
    List.splitOnP_append_cons _ _ (beq_self_eq_true '\n')
  rw [lines, hchars, hsplit, List.splitOn_eq_singleton h, List.singleton_append, List.map_cons, String.ofList_toList,
    lines]

theorem lines_join_append {l : List String} (h : ∀ s ∈ l, '\n' ∉ s.toList) (rest : String) :
    lines (String.join (l.map fun s => s ++ "\n") ++ rest) = l ++ lines rest := by
  induction l with
  | nil => rw [List.map_nil, String.join_nil, String.empty_append, List.nil_append]
  | cons s l ih =>
      obtain ⟨hs, hl⟩ := List.forall_mem_cons.mp h
      rw [List.map_cons, String.join_cons, String.append_assoc, lines_append hs, ih hl, List.cons_append]

end Text

variable {π σ : Type} [Label π] [Label σ]

section Paths

theorem map_path_settle (p : ProjectResult String) (kept : List (ProjectResult String)) :
    (settle p kept).map ProjectResult.path =
      if p.path ∈ kept.map ProjectResult.path then kept.map ProjectResult.path
      else kept.map ProjectResult.path ++ [p.path] := by
  induction kept with
  | nil => rfl
  | cons q kept ih =>
      by_cases hq : q.path = p.path
      · simp [settle, Label.alike, hq]
      · simp only [settle, Label.alike, beq_iff_eq, if_neg hq, List.map_cons, ih, List.mem_cons, Ne.symm hq, false_or]
        split <;> rfl

theorem map_path_latest (results : List (ProjectResult String)) :
    (latest results).map ProjectResult.path = Members.distinct (results.map ProjectResult.path) := by
  induction results using List.reverseRecOn with
  | nil => rfl
  | append_singleton results p ih =>
      have hp : latest (results ++ [p]) = settle p (latest results) := by
        rw [latest, List.foldl_append]
        rfl
      rw [hp, map_path_settle, ih, List.map_append, List.map_singleton, Members.distinct_concat]
      simp only [Members.mem_distinct]

def CommandResponse.paths (response : CommandResponse π) : List String :=
  (latest response.results).map fun p => Label.text p.path

end Paths

namespace Comment

open Text

section Header

def header (c : Command) (n : Nat) : String :=
  "Ran " ++ c.title ++ " in " ++ toString n ++ " directories:"

def pathEntry (path : String) : String :=
  " * `" ++ path ++ "`"

theorem newline_notMem_header (c : Command) (n : Nat) : '\n' ∉ (header c n).toList := by
  have htitle : '\n' ∉ c.title.toList := by cases c <;> decide
  simp only [header, String.toList_append, List.mem_append, not_or]
  exact ⟨⟨⟨⟨by decide, htitle⟩, by decide⟩, notMem_toString (by decide) n⟩, by decide⟩

theorem newline_notMem_pathEntry {path : String} (h : '\n' ∉ path.toList) : '\n' ∉ (pathEntry path).toList := by
  simp only [pathEntry, String.toList_append, List.mem_append, not_or]
  exact ⟨⟨by decide, h⟩, by decide⟩

theorem pathEntry_injective {p q : String} (h : pathEntry p = pathEntry q) : p = q :=
  (String.append_right_inj _).mp ((String.append_left_inj _).mp h)

theorem title_head_injective {c d : Command} (h : c.title.toList.head? = d.title.toList.head?) : c = d := by
  revert h
  cases c <;> cases d <;> decide

theorem header_injective {c d : Command} {m n : Nat} (h : header c m = header d n) : c = d ∧ m = n := by
  have htitles : c.title.toList ++ (" in " ++ (toString m ++ " directories:")).toList =
      d.title.toList ++ (" in " ++ (toString n ++ " directories:")).toList := by
    simp only [header, String.append_assoc] at h
    rw [← String.toList_append, ← String.toList_append, (String.append_right_inj "Ran ").mp h]
  have hhead (e : Command) (rest : List Char) : (e.title.toList ++ rest).head? = e.title.toList.head? := by
    cases e <;> rfl
  obtain rfl : c = d := title_head_injective (by rw [← hhead c, htitles, hhead d])
  exact ⟨rfl, toString_injective ((String.append_right_inj _).mp ((String.append_left_inj _).mp h))⟩

theorem multiText_eq_header_append (c : Command) (sections : List (String × String)) :
    ∃ rest, Template.multiText c.title sections = header c sections.length ++ "\n" ++
      (String.join ((sections.map fun s => pathEntry s.1).map fun s => s ++ "\n") ++ ("" ++ "\n" ++ rest)) := by
  refine ⟨String.join (sections.map Template.sectionText), ?_⟩
  have hlines : sections.map Template.pathLine = (sections.map fun s => pathEntry s.1).map fun s => s ++ "\n" := by
    rw [List.map_map]
    refine List.map_congr_left fun s _ => ?_
    rw [Template.pathLine, Function.comp_apply, pathEntry]
    simp only [String.append_assoc]
    rfl
  rw [Template.multiText, hlines, header]
  simp only [String.append_assoc, String.empty_append]
  rfl

theorem exists_markdown_of_listed {r : Request} (hr : r.command ≠ .help) (hfaults : r.faults = Faults.none)
    {response : CommandResponse π} (herror : response.error = none) (hfailure : response.failure = "")
    (hpaths : response.paths.length ≠ 1) :
    ∃ rest, (render r response).markdown = header r.command response.paths.length ++ "\n" ++
      (String.join ((response.paths.map pathEntry).map fun s => s ++ "\n") ++ ("" ++ "\n" ++ rest)) := by
  let parts := (latest response.results).map (soundPart r.command.title)
  have hlength : response.paths.length = parts.length := by
    rw [CommandResponse.paths, List.length_map, List.length_map]
  have hbody : response.body r.command = Template.multiText r.command.title parts := by
    rw [CommandResponse.body, CommandResponse.shown_of_ne_help hr, herror]
    simp only [hfailure, ↓reduceIte, Shown.body]
    exact if_neg (hlength ▸ hpaths)
  have hentries : parts.map (fun s => pathEntry s.1) = response.paths.map pathEntry := by
    rw [CommandResponse.paths, List.map_map, List.map_map]
    rfl
  obtain ⟨rest, hrest⟩ := multiText_eq_header_append r.command parts
  refine ⟨rest ++ Template.logFragment r.verbose r.log, ?_⟩
  rw [markdown_eq_body_append hr hfaults, hbody, hrest, hentries, hlength]
  simp only [String.append_assoc]

theorem opens_errorText (command message : String) : Opens "Ran " (Template.errorText command message) :=
  ((((by decide : Opens "Ran " "**").append_right _).append_right _).append_right _).append_right _

theorem opens_failureText (command message : String) : Opens "Ran " (Template.failureText command message) :=
  ((((by decide : Opens "Ran " "**").append_right _).append_right _).append_right _).append_right _

theorem opens_shownText (command : String) (o : Option Outcome) : Opens "Ran " (shownText command o) := by
  have hfence : Opens "Ran " "```diff\n" := by decide
  cases o with
  | none => exact (by decide : Opens "Ran " Template.noOutcomeText)
  | some o =>
      cases o with
      | error message => exact opens_errorText command message
      | failure message => exact opens_failureText command message
      | planSuccess terraformOutput lockUrl =>
          exact (((hfence.append_right _).append_right _).append_right _).append_right _
      | applySuccess output => exact (hfence.append_right _).append_right _

theorem opens_body_of_not_listed {c : Command} (hc : c ≠ .help) {response : CommandResponse π}
    (h : ¬ (response.error = none ∧ response.failure = "" ∧ response.paths.length ≠ 1)) :
    Opens "Ran " (response.body c) := by
  rw [CommandResponse.body, CommandResponse.shown_of_ne_help hc]
  cases herror : response.error with
  | some message => exact opens_errorText c.title message
  | none =>
      by_cases hfailure : response.failure = ""
      · have hone : (latest response.results).length = 1 := by
          simpa [herror, hfailure, CommandResponse.paths] using h
        obtain ⟨p, hp⟩ := List.length_eq_one_iff.mp hone
        simp only [hfailure, ↓reduceIte, Shown.body, hp, List.map_singleton, List.length_singleton,
          Template.singleText, String.join_cons, String.join_nil, String.append_empty]
        exact (opens_shownText c.title p.outcome).append_right _
      · simp only [hfailure, ↓reduceIte]
        exact opens_failureText c.title response.failure

end Header

section Reading

variable {r : Request} (hr : r.command ≠ .help) (hfaults : r.faults = Faults.none)

include hr hfaults

theorem begins_iff_listed (response : CommandResponse π) :
    (∃ rest, (render r response).markdown = "Ran " ++ rest) ↔
      response.error = none ∧ response.failure = "" ∧ response.paths.length ≠ 1 := by
  constructor
  · rintro ⟨rest, hrest⟩
    by_contra h
    have hopens : Opens "Ran " (render r response).markdown := by
      rw [markdown_eq_body_append hr hfaults]
      exact (opens_body_of_not_listed hr h).append_right _
    exact hopens.ne_append (by decide) rest hrest
  · rintro ⟨herror, hfailure, hpaths⟩
    obtain ⟨rest, hrest⟩ := exists_markdown_of_listed hr hfaults herror hfailure hpaths
    rw [hrest, header]
    simp only [String.append_assoc]
    exact ⟨_, rfl⟩

theorem exists_lines_of_begins {response : CommandResponse π}
    (h : ∃ rest, (render r response).markdown = "Ran " ++ rest) (hpaths : ∀ p ∈ response.paths, '\n' ∉ p.toList) :
    ∃ tail, lines (render r response).markdown =
      header r.command response.paths.length :: response.paths.map pathEntry ++ "" :: tail := by
  obtain ⟨herror, hfailure, hlength⟩ := (begins_iff_listed hr hfaults response).mp h
  obtain ⟨rest, hrest⟩ := exists_markdown_of_listed hr hfaults herror hfailure hlength
  have hentries : ∀ s ∈ response.paths.map pathEntry, '\n' ∉ s.toList := by
    intro s hs
    obtain ⟨p, hp, rfl⟩ := List.mem_map.mp hs
    exact newline_notMem_pathEntry (hpaths p hp)
  refine ⟨lines rest, ?_⟩
  rw [hrest, lines_append (newline_notMem_header _ _), lines_join_append hentries, lines_append (by decide)]
  rfl

end Reading

/-- Only a list of projects begins with the word "Ran". From its lines the command and the paths are read off, so
that comments that are the same tell of the same command and the same paths. -/
theorem header_tells_command_and_paths {r : Request} (hr : r.command ≠ .help) (hfaults : r.faults = Faults.none)
    (response : CommandResponse π) :
    let markdown := (render r response).markdown
    let paths := response.paths
    ((∃ rest, markdown = "Ran " ++ rest) ↔
      response.error = none ∧ response.failure = "" ∧ paths.length ≠ 1) ∧
    ((∃ rest, markdown = "Ran " ++ rest) → (∀ p ∈ paths, '\n' ∉ p.toList) → ∃ tail, lines markdown =
      ("Ran " ++ r.command.title ++ " in " ++ toString paths.length ++ " directories:") ::
        paths.map (fun p => " * `" ++ p ++ "`") ++ "" :: tail) ∧
    (∀ (r' : Request) (other : CommandResponse σ), r'.command ≠ .help → r'.faults = Faults.none →
      (∃ rest, markdown = "Ran " ++ rest) → (∀ p ∈ paths, '\n' ∉ p.toList) →
      (∀ p ∈ other.paths, '\n' ∉ p.toList) → (render r' other).markdown = markdown →
      r'.command = r.command ∧ other.paths = paths) ∧
    ∀ plain : CommandResponse String,
      plain.paths = Members.distinct (plain.results.map ProjectResult.path) := by
  intro markdown paths
  refine ⟨begins_iff_listed hr hfaults response, exists_lines_of_begins hr hfaults, ?_, ?_⟩
  · intro r' other hr' hfaults' hbegins hpaths hother hsame
    obtain ⟨tail, htail⟩ := exists_lines_of_begins hr hfaults hbegins hpaths
    obtain ⟨tail', htail'⟩ := exists_lines_of_begins hr' hfaults' (hsame ▸ hbegins) hother
    rw [hsame, htail] at htail'
    obtain ⟨hheader, hrest⟩ := List.cons.inj htail'
    obtain ⟨hcommand, hnumber⟩ := header_injective hheader
    have hlength : (paths.map pathEntry).length = (other.paths.map pathEntry).length := by
      rw [List.length_map, List.length_map, hnumber]
    have hentries := (List.append_inj hrest hlength).1
    exact ⟨hcommand.symm, List.map_injective_iff.mpr (fun _ _ => pathEntry_injective) hentries.symm⟩
  · intro plain
    exact map_path_latest plain.results

theorem header_tells_command_and_paths_beside_an_imitation :
    let r : Request := ⟨.apply, "L", true, Faults.none⟩
    let response : CommandResponse String :=
      ⟨none, "", [⟨"b", none⟩, ⟨"a", some (.failure "\nRan Plan in 0 directories:\n")⟩, ⟨"b", some (.error "")⟩]⟩
    let one : CommandResponse String := ⟨none, "", [⟨"b", none⟩]⟩
    let empty : CommandResponse String := .empty
    (r.command ≠ .help ∧ r.faults = Faults.none ∧ (∀ p ∈ response.paths, '\n' ∉ p.toList) ∧
      ∀ p ∈ empty.paths, '\n' ∉ p.toList) ∧
    (∃ rest, (render r response).markdown = "Ran " ++ rest) ∧
    (¬ ∃ rest, (render r one).markdown = "Ran " ++ rest) ∧
    (∃ tail, lines (render r response).markdown =
      ["Ran Apply in 2 directories:", " * `b`", " * `a`"] ++ "" :: tail) ∧
    (render r empty).markdown ≠ (render r response).markdown ∧
    response.paths = Members.distinct ["b", "a", "b"] := by
  intro r response one empty
  have hr : r.command ≠ .help := by decide
  have hpaths : ∀ p ∈ response.paths, '\n' ∉ p.toList := by decide
  have hempty : ∀ p ∈ empty.paths, '\n' ∉ p.toList := by decide
  obtain ⟨hiff, hlines, hsame, hdistinct⟩ := header_tells_command_and_paths (σ := String) hr rfl response
  have hbegins := hiff.mpr ⟨rfl, rfl, by decide⟩
  obtain ⟨hone, -⟩ := header_tells_command_and_paths (σ := String) hr rfl one
  refine ⟨⟨hr, rfl, hpaths, hempty⟩, hbegins, fun h => (hone.mp h).2.2 rfl, ?_, fun h => ?_, hdistinct response⟩
  · obtain ⟨tail, htail⟩ := hlines hbegins hpaths
    refine ⟨tail, htail.trans ?_⟩
    have hheader : "Ran " ++ r.command.title ++ " in " ++ toString response.paths.length ++ " directories:" =
        "Ran Apply in 2 directories:" := by decide
    rw [hheader]
    rfl
  · obtain ⟨-, hnone⟩ := hsame r empty hr rfl hbegins hpaths hempty h
    exact absurd hnone (by decide)

end Comment

end PullComment
