import PullComment.Proofs.Comment.Log
import PullComment.Proofs.CommandLine.Arguments
import PullComment.Proofs.CommandLine.Directories
import PullComment.Proofs.CommandLine.Ending
import PullComment.Proofs.Json.LineEnds
import PullComment.Proofs.Text.Styling

namespace PullComment.CommandLine

open Schema Text

def GivesResponse (read : Reader) (a : RenderArguments) (response : CommandResponse String) : Prop :=
  match a.responseFile with
  | some file => ∃ text r, read (Path.ofText file) = .ok (encodeText text) ∧
      readJsonText readResponse text = .ok r ∧ response = r.content
  | none => a.command = .help ∧ response = .empty

def GivesLog (read : Reader) (a : RenderArguments) (log : String) : Prop :=
  match a.logFile with
  | some file => read (Path.ofText file) = .ok (encodeText log)
  | none => log = ""

def RenderArguments.comment (a : RenderArguments) (log : String) (response : CommandResponse String) : Comment :=
  Comment.render ⟨a.command, String.ofList (joinLineEnds log.toList), a.verbose, Faults.none⟩ response

section Reader

variable {read : Reader} {a : RenderArguments} {response : CommandResponse String} {log : String}

theorem GivesResponse.chooseResponse_eq (h : GivesResponse read a response) :
    chooseResponse read a = .ok response := by
  unfold GivesResponse at h
  split at h
  · rename_i file hfile
    obtain ⟨text, r, hread, hvalid, rfl⟩ := h
    rw [chooseResponse_of_file hfile, loadResponse_of_text (readTextFile_of_text hread),
      readJsonText_joinLineEnds, hvalid]
  · rename_i hfile
    obtain ⟨hhelp, rfl⟩ := h
    rw [chooseResponse, hfile]
    exact if_pos hhelp

theorem GivesLog.chooseLog_eq (h : GivesLog read a log) :
    chooseLog read a = .ok (String.ofList (joinLineEnds log.toList)) := by
  unfold GivesLog at h
  split at h
  · rename_i file hfile
    rw [chooseLog_of_file hfile, readTextFile_of_text h]
  · rename_i hfile
    rw [h, chooseLog, hfile]
    rfl

theorem renderArguments_of_gives (hresponse : GivesResponse read a response) (hlog : GivesLog read a log) :
    renderArguments read a = .ok (a.comment log response) := by
  rw [renderArguments_eq, hresponse.chooseResponse_eq]
  dsimp only [Except.bind]
  rw [hlog.chooseLog_eq]
  rfl

theorem events_comment (h : GivesResponse read a response) : (a.comment log response).events = [] := by
  refine Comment.events_render_of_outcomes rfl ?_
  unfold GivesResponse at h
  split at h
  · obtain ⟨text, r, -, -, rfl⟩ := h
    exact r.isSome_outcome_content
  · obtain ⟨-, rfl⟩ := h
    exact List.forall_mem_nil _

end Reader

theorem told_nil (level : LogLevel) : level.told [] = "" :=
  rfl

theorem printed_unstyled {c : Comment} (hevents : c.events = []) (level : LogLevel) :
    (Report.printed level c).unstyled =
      ⟨0, String.ofList (dropStyling c.markdown.toList), "", none, level, none⟩ := by
  rw [Report.printed, hevents]
  rfl

theorem written_unstyled {c : Comment} (hevents : c.events = []) (level : LogLevel) (p : Path) :
    (Report.written level p c).unstyled = ⟨0, "", "", none, level, some (p, c.markdown)⟩ := by
  rw [Report.unstyled_of_not_mem (by exact List.not_mem_nil), Report.written, hevents]
  rfl

theorem run_of_written {t : FileTree} {arguments : List String} {a : RenderArguments} {c : Comment} {file : String}
    (harguments : Invocation.ofArguments? arguments = some (.render a)) (houtput : a.output = some file)
    (hc : renderArguments t.read a = .ok c) (hhold : t.CanHold (Path.ofText file)) :
    run t arguments = ⟨(Report.written a.logLevel (Path.ofText file) c).unstyled,
      (t.writeWithParents (Path.ofText file) (encodeText c.markdown)).tree⟩ := by
  have hfault : (t.writeWithParents (Path.ofText file) (encodeText c.markdown)).fault = none :=
    FileTree.writeWithParents_fault_eq_none_iff.mpr hhold
  rw [run_of_render harguments, reportRender, hc, houtput]
  simp only [perform, Report.unstyled, Report.written, hfault]

theorem exists_markdown_toList {a : RenderArguments} (hcommand : a.command ≠ .help) (hverbose : a.verbose = true)
    (response : CommandResponse String) : ∃ before after, ∀ log,
      (a.comment log response).markdown.toList = before ++ '\n' :: (joinLineEnds log.toList ++ '`' :: after) := by
  refine ⟨(response.body a.command).toList ++ "\n<details><summary>Log</summary>\n  <p>\n\n```".toList,
    "``\n</p></details>\n".toList, fun log => ?_⟩
  have hmarkdown := Comment.markdown_eq_body_append
    (r := ⟨a.command, String.ofList (joinLineEnds log.toList), a.verbose, Faults.none⟩) hcommand rfl response
  rw [RenderArguments.comment, hmarkdown, hverbose]
  have hopen : "\n<details><summary>Log</summary>\n  <p>\n\n```\n".toList =
      "\n<details><summary>Log</summary>\n  <p>\n\n```".toList ++ ['\n'] := by decide +kernel
  have hclose : "```\n</p></details>\n".toList = '`' :: "``\n</p></details>\n".toList := by decide +kernel
  simp only [Template.logFragment, ↓reduceIte, String.toList_append, String.toList_ofList, hopen, hclose,
    List.append_assoc, List.cons_append, List.nil_append]

theorem run_of_level {t : FileTree} {arguments arguments' : List String} {a : RenderArguments} {c : Comment}
    {debug : Bool} (harguments : Invocation.ofArguments? arguments = some (.render a))
    (harguments' : Invocation.ofArguments? arguments' = some (.render { a with debug }))
    (hc : renderArguments t.read a = .ok c) (hevents : c.events = []) :
    run t arguments' =
      { run t arguments with
        report := { (run t arguments).report with logLevel := RenderArguments.logLevel { a with debug } } } := by
  have hc' : renderArguments t.read { a with debug } = .ok c := hc
  rw [run_of_render harguments, run_of_render harguments', reportRender, reportRender, hc, hc']
  cases houtput : a.output with
  | none => simp [perform, Report.unstyled, Report.printed, hevents, told_nil]
  | some file =>
      simp only [perform, Report.unstyled, Report.written, hevents, told_nil]
      split <;> rfl

theorem markdown_comment_iff {a : RenderArguments} (hcommand : a.command ≠ .help) (hverbose : a.verbose = true)
    (response : CommandResponse String) (log other : String) :
    ((a.comment other response).markdown = (a.comment log response).markdown ↔
      joinLineEnds other.toList = joinLineEnds log.toList) ∧
    (dropStyling (a.comment other response).markdown.toList = dropStyling (a.comment log response).markdown.toList ↔
      dropStyling (joinLineEnds other.toList) = dropStyling (joinLineEnds log.toList)) := by
  obtain ⟨before, after, hmarkdown⟩ := exists_markdown_toList hcommand hverbose response
  refine ⟨?_, ?_⟩
  · rw [← String.toList_inj, hmarkdown, hmarkdown, List.append_cancel_left_eq, List.cons.injEq, List.append_left_inj]
    exact and_iff_right rfl
  · rw [hmarkdown, hmarkdown]
    exact dropStyling_between_iff (by decide) (by decide) before after _ _

/-- The run ends well, with nothing told. Printed, the comment is there but for its styling, and the tree stays.
Written to a file, it is there whole: the file holds its octets, directories that were missing above it are made,
and all else in the tree stays. Whether debugging is asked for shows in the level of the log alone, and of two logs
a verbose comment tells what is left of their difference. -/
theorem comment_is_printed_or_written {t : FileTree} {arguments : List String} {a : RenderArguments}
    {response : CommandResponse String} {log : String}
    (harguments : Invocation.ofArguments? arguments = some (.render a))
    (hresponse : GivesResponse t.read a response) (hlog : GivesLog t.read a log) :
    let c := a.comment log response
    let done := run t arguments
    (a.output = none →
      done = ⟨⟨0, String.ofList (dropStyling c.markdown.toList), "", none, a.logLevel, none⟩, t⟩ ∧
      ('\x1b' ∉ c.markdown.toList → done.report.stdout = c.markdown)) ∧
    (∀ file, a.output = some file → t.CanHold (Path.ofText file) →
      let p := Path.ofText file
      done.report = ⟨0, "", "", none, a.logLevel, some (p, c.markdown)⟩ ∧
      done.tree.working = t.working ∧
      ∀ names, done.tree.get? names =
        if names = lead (t.start p.anchor) p.parts then some (.file (encodeText c.markdown))
        else if names ∈ FileTree.entered (t.start p.anchor) p.parent.parts ∧ t.get? names = none then
          some .directory
        else t.get? names) ∧
    (∀ arguments' debug, Invocation.ofArguments? arguments' = some (.render { a with debug }) →
      ∃ level, run t arguments' = { done with report := { done.report with logLevel := level } }) ∧
    (∀ rest, arguments = "render" :: rest →
      ∃ level, run t ("render" :: "--debug" :: rest) =
        { done with report := { done.report with logLevel := level } }) ∧
    (a.command ≠ .help → a.verbose = true → ∀ other,
      ((a.comment other response).markdown = c.markdown ↔ joinLineEnds other.toList = joinLineEnds log.toList) ∧
      (dropStyling (a.comment other response).markdown.toList = dropStyling c.markdown.toList ↔
        dropStyling (joinLineEnds other.toList) = dropStyling (joinLineEnds log.toList))) := by
  intro c done
  have hc : renderArguments t.read a = .ok c := renderArguments_of_gives hresponse hlog
  have hevents : c.events = [] := events_comment hresponse
  refine ⟨?_, ?_, ?_, ?_, fun hcommand hverbose => markdown_comment_iff hcommand hverbose response log⟩
  · intro houtput
    have hdone : done = ⟨⟨0, String.ofList (dropStyling c.markdown.toList), "", none, a.logLevel, none⟩, t⟩ := by
      rw [← printed_unstyled hevents]
      exact run_of_printed harguments houtput hc
    refine ⟨hdone, fun hplain => ?_⟩
    rw [hdone, dropStyling_of_not_mem hplain, String.ofList_toList]
  · intro file houtput hhold p
    have hdone : done = _ := run_of_written harguments houtput hc hhold
    refine ⟨?_, ?_, fun names => ?_⟩
    · rw [hdone]
      exact written_unstyled hevents a.logLevel p
    · rw [hdone]
      exact FileTree.working_writeWithParents hhold (encodeText c.markdown)
    · rw [hdone]
      exact FileTree.get?_writeWithParents hhold (encodeText c.markdown) names
  · intro arguments' debug harguments'
    exact ⟨_, run_of_level harguments harguments' hc hevents⟩
  · rintro rest rfl
    obtain ⟨debug, hdebug⟩ := Invocation.ofArguments?_debug harguments
    exact ⟨_, run_of_level harguments hdebug hc hevents⟩

theorem comment_is_printed_or_written_styled :
    let response := "\x7b\"error\":\"\\u001b[31mx\"\x7d"
    let t : FileTree := ⟨["w"], [(["r.json"], .file (encodeText response)), (["w"], .directory),
      (["w", "log"], .file (encodeText "a\r\nb\r"))]⟩
    let a (output : Option String) : RenderArguments := ⟨some "/r.json", .plan, some "log", true, output, false⟩
    let printing := ["render", "/r.json", "--log-file", "log", "--verbose"]
    let writing := printing ++ ["--output", "../out/c.md"]
    Invocation.ofArguments? printing = some (.render (a none)) ∧
    Invocation.ofArguments? writing = some (.render (a (some "../out/c.md"))) ∧
    GivesResponse t.read (a none) ⟨some "\x1b[31mx", "", []⟩ ∧ GivesLog t.read (a none) "a\r\nb\r" ∧
    t.CanHold (Path.ofText "../out/c.md") ∧
    (run t printing).report.stdout =
      "**Plan Error**\n```\nx\n```\n\n<details><summary>Log</summary>\n  <p>\n\n```\na\nb\n```\n</p></details>\n" ∧
    (run t writing).tree.get? ["out"] = some .directory ∧
    (run t writing).tree.get? ["out", "c.md"] = some (.file (encodeText
      ("**Plan Error**\n```\n\x1b[31mx\n```\n\n<details><summary>Log</summary>\n  <p>\n\n```\na\nb\n```\n" ++
        "</p></details>\n"))) := by
  intro response t a printing writing
  have hprinting : Invocation.ofArguments? printing = some (.render (a none)) := by decide +kernel
  have hwriting : Invocation.ofArguments? writing = some (.render (a (some "../out/c.md"))) := by decide +kernel
  have hresponse (output : Option String) : GivesResponse t.read (a output) ⟨some "\x1b[31mx", "", []⟩ :=
    ⟨response, ⟨some "\x1b[31mx", "", [], ⟨true, false, false⟩⟩, by decide +kernel, by decide +kernel, rfl⟩
  have hlog (output : Option String) : GivesLog t.read (a output) "a\r\nb\r" := by
    show t.read (Path.ofText "log") = .ok (encodeText "a\r\nb\r")
    decide +kernel
  have hhold : t.CanHold (Path.ofText "../out/c.md") := by
    refine (FileTree.writeWithParents_fault_eq_none_iff (t := t)).mp (?_ : (t.writeWithParents _ []).fault = none)
    decide +kernel
  obtain ⟨hprinted, -⟩ := comment_is_printed_or_written hprinting (hresponse none) (hlog none)
  obtain ⟨-, hwritten, -⟩ := comment_is_printed_or_written hwriting (hresponse _) (hlog _)
  obtain ⟨-, -, hholds⟩ := hwritten "../out/c.md" rfl hhold
  refine ⟨hprinting, hwriting, hresponse none, hlog none, hhold, ?_, ?_, ?_⟩
  · rw [(hprinted rfl).1]
    decide +kernel
  · rw [hholds]
    decide +kernel
  · rw [hholds]
    decide +kernel

theorem printed_comment_lacks_styling :
    let response := "\x7b\"error\":\"\\u001b[31mx\"\x7d"
    let t : FileTree := ⟨["w"], [(["w"], .directory), (["w", "r.json"], .file (encodeText response))]⟩
    let a : RenderArguments := ⟨some "r.json", .plan, none, false, none, false⟩
    Invocation.ofArguments? ["render", "r.json"] = some (.render a) ∧
    GivesResponse t.read a ⟨some "\x1b[31mx", "", []⟩ ∧ GivesLog t.read a "" ∧
    (a.comment "" ⟨some "\x1b[31mx", "", []⟩).markdown = "**Plan Error**\n```\n\x1b[31mx\n```\n\n" ∧
    (run t ["render", "r.json"]).report.stdout = "**Plan Error**\n```\nx\n```\n\n" ∧
    (run t ["render", "r.json"]).report.stdout ≠ (a.comment "" ⟨some "\x1b[31mx", "", []⟩).markdown := by
  intro response t a
  exact ⟨by decide +kernel,
    ⟨response, ⟨some "\x1b[31mx", "", [], ⟨true, false, false⟩⟩, by decide +kernel, by decide +kernel, rfl⟩, rfl,
    by decide +kernel, by decide +kernel, by decide +kernel⟩

end PullComment.CommandLine
