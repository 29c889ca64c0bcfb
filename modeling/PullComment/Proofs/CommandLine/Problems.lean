import PullComment.Proofs.CommandLine.Ending
import PullComment.Proofs.CommandLine.Loading

namespace PullComment.CommandLine

open Schema Text

inductive Check where
  | argument
  | response
  | validation
  | log
  deriving DecidableEq, Repr

def Check.rank : Check → Nat
  | .argument => 0
  | .response => 1
  | .validation => 2
  | .log => 3

inductive Unreadable (read : Reader) (file : String) : Problem → Prop
  | fault {f : SystemFault} (h : read (Path.ofText file) = .error f) : Unreadable read file (.unreadable f)
  | garbled {octets : List UInt8} {m : MalformedText} (h : read (Path.ofText file) = .ok octets)
      (hm : decodeText octets = .error m) : Unreadable read file (.malformed m)

/-- What each check finds by itself, whatever the others find. Help is no excuse for a response that is bad, nor is
a log that will not be shown for a log file that cannot be read. -/
inductive Wrong (read : Reader) (a : RenderArguments) : Check → Problem → Prop
  | argument (hfile : a.responseFile = none) (hcommand : a.command ≠ .help) :
      Wrong read a .argument .responseFileMissing
  | response {file : String} {problem : Problem} (hfile : a.responseFile = some file)
      (h : Unreadable read file problem) : Wrong read a .response problem
  | validation {file text : String} {e : ValidationError} (hfile : a.responseFile = some file)
      (hread : read (Path.ofText file) = .ok (encodeText text))
      (h : validateText .commandResponse text = .error e) : Wrong read a .validation (.invalid e)
  | log {file : String} {problem : Problem} (hfile : a.logFile = some file) (h : Unreadable read file problem) :
      Wrong read a .log problem

def FirstWrong (read : Reader) (a : RenderArguments) (check : Check) (problem : Problem) : Prop :=
  Wrong read a check problem ∧ ∀ other problem', Wrong read a other problem' → check.rank ≤ other.rank

section Reader

variable {read : Reader} {file : String} {a : RenderArguments} {problem : Problem}

theorem readTextFile_eq_error_iff : readTextFile read file = .error problem ↔ Unreadable read file problem := by
  constructor
  · intro h
    unfold readTextFile at h
    split at h
    · cases h
      exact .fault ‹_›
    · split at h
      · cases h
        exact .garbled ‹_› ‹_›
      · cases h
  · intro h
    cases h with
    | fault hread => simp only [readTextFile, hread]
    | garbled hread hm => simp only [readTextFile, hread, hm]

theorem exists_unreadable_malformed_iff : (∃ m, Unreadable read file (.malformed m)) ↔ Garbled read file := by
  constructor
  · rintro ⟨m, h⟩
    cases h with
    | garbled hread hm => exact garbled_of_malformed hread hm
  · intro h
    obtain ⟨m, hm⟩ := exists_malformed_of_garbled h
    exact ⟨m, readTextFile_eq_error_iff.mp hm⟩

theorem exists_encodeText_of_readTextFile {text : String} (h : readTextFile read file = .ok text) :
    ∃ source, read (Path.ofText file) = .ok (encodeText source) := by
  unfold readTextFile at h
  split at h
  · cases h
  · rename_i octets hread
    split at h
    · cases h
    · rename_i cs hcs
      exact ⟨String.ofList cs, hread.trans (congrArg Except.ok (decodeText_eq_ok_iff.mp hcs))⟩

theorem not_unreadable_of_encodeText {text : String} (h : read (Path.ofText file) = .ok (encodeText text)) :
    ¬ Unreadable read file problem := by
  intro hproblem
  have herror := readTextFile_eq_error_iff.mpr hproblem
  rw [readTextFile_of_text h] at herror
  cases herror

theorem chooseLog_eq_error_iff : chooseLog read a = .error problem ↔ Wrong read a .log problem := by
  constructor
  · intro h
    obtain ⟨log, hlog, htext⟩ := chooseLog_error h
    exact .log hlog (readTextFile_eq_error_iff.mp htext)
  · intro h
    cases h with
    | log hfile hproblem => rw [chooseLog_of_file hfile, readTextFile_eq_error_iff.mpr hproblem]

theorem chooseResponse_of_wrong {check : Check} (h : Wrong read a check problem) (hcheck : check ≠ .log) :
    chooseResponse read a = .error problem := by
  cases h with
  | argument hfile hcommand =>
      rw [chooseResponse, hfile]
      exact if_neg hcommand
  | response hfile hproblem =>
      rw [chooseResponse_of_file hfile, loadResponse_of_error (readTextFile_eq_error_iff.mpr hproblem)]
  | validation hfile hread hinvalid =>
      rw [chooseResponse_of_file hfile]
      exact (loadResponse_eq_error_iff hread).mpr ⟨_, hinvalid, rfl⟩
  | log => exact absurd rfl hcheck

theorem exists_wrong_of_chooseResponse (h : chooseResponse read a = .error problem) :
    ∃ check, check ≠ .log ∧ Wrong read a check problem := by
  cases hfile : a.responseFile with
  | none =>
      rw [chooseResponse, hfile] at h
      dsimp only at h
      split_ifs at h with hcommand
      cases h
      exact ⟨.argument, by decide, .argument hfile hcommand⟩
  | some file =>
      rw [chooseResponse_of_file hfile] at h
      cases htext : readTextFile read file with
      | error other =>
          rw [loadResponse_of_error htext] at h
          cases h
          exact ⟨.response, by decide, .response hfile (readTextFile_eq_error_iff.mp htext)⟩
      | ok text =>
          obtain ⟨source, hread⟩ := exists_encodeText_of_readTextFile htext
          obtain ⟨e, he, rfl⟩ := (loadResponse_eq_error_iff hread).mp h
          exact ⟨.validation, by decide, .validation hfile hread he⟩

theorem Wrong.check_eq {check other : Check} {problem' : Problem} (h : Wrong read a check problem)
    (h' : Wrong read a other problem') (hcheck : check ≠ .log) (hother : other ≠ .log) : check = other := by
  cases h with
  | log => exact absurd rfl hcheck
  | argument hfile =>
      cases h' with
      | argument => rfl
      | response hfile' | validation hfile' => cases hfile.symm.trans hfile'
      | log => exact absurd rfl hother
  | response hfile hproblem =>
      cases h' with
      | response => rfl
      | argument hfile' => cases hfile.symm.trans hfile'
      | validation hfile' hread =>
          cases hfile.symm.trans hfile'
          exact absurd hproblem (not_unreadable_of_encodeText hread)
      | log => exact absurd rfl hother
  | validation hfile hread =>
      cases h' with
      | validation => rfl
      | argument hfile' => cases hfile.symm.trans hfile'
      | response hfile' hproblem =>
          cases hfile.symm.trans hfile'
          exact absurd hproblem (not_unreadable_of_encodeText hread)
      | log => exact absurd rfl hother

theorem Check.rank_le_log (check : Check) : check.rank ≤ Check.log.rank := by
  cases check <;> decide

theorem renderArguments_eq_error_iff :
    renderArguments read a = .error problem ↔ ∃ check, FirstWrong read a check problem := by
  have hok (c : Comment) : (Except.ok c : Except Problem Comment) ≠ .error problem := nofun
  simp only [renderArguments_eq, bind_eq_error_iff, hok, and_false, exists_false, or_false]
  constructor
  · rintro (hresponse | ⟨response, hresponse, hlog⟩)
    · obtain ⟨check, hcheck, hwrong⟩ := exists_wrong_of_chooseResponse hresponse
      refine ⟨check, hwrong, fun other problem' hother => ?_⟩
      by_cases hlog : other = .log
      · exact hlog ▸ check.rank_le_log
      · rw [hwrong.check_eq hother hcheck hlog]
    · refine ⟨.log, chooseLog_eq_error_iff.mp hlog, fun other problem' hother => ?_⟩
      by_cases hcheck : other = .log
      · rw [hcheck]
      · cases hresponse.symm.trans (chooseResponse_of_wrong hother hcheck)
  · rintro ⟨check, hwrong, hfirst⟩
    by_cases hcheck : check = .log
    · subst hcheck
      cases hresponse : chooseResponse read a with
      | ok response => exact .inr ⟨response, rfl, chooseLog_eq_error_iff.mpr hwrong⟩
      | error other =>
          obtain ⟨check', hcheck', hother⟩ := exists_wrong_of_chooseResponse hresponse
          have hrank := hfirst check' other hother
          cases check' with
          | log => exact absurd rfl hcheck'
          | argument | response | validation => exact absurd hrank (by decide)
    · exact .inl (chooseResponse_of_wrong hwrong hcheck)

theorem exists_firstWrong_of_wrong {check : Check} (h : Wrong read a check problem) :
    ∃ first other, FirstWrong read a first other := by
  have herror : ∃ other, renderArguments read a = .error other := by
    rw [renderArguments_eq]
    cases hresponse : chooseResponse read a with
    | error other => exact ⟨other, rfl⟩
    | ok response =>
        by_cases hcheck : check = .log
        · subst hcheck
          refine ⟨problem, ?_⟩
          rw [Except.bind, chooseLog_eq_error_iff.mpr h]
          rfl
        · cases hresponse.symm.trans (chooseResponse_of_wrong h hcheck)
  obtain ⟨other, hother⟩ := herror
  obtain ⟨first, hfirst⟩ := renderArguments_eq_error_iff.mp hother
  exact ⟨first, other, hfirst⟩

end Reader

theorem exitCode_ofProblem_ne_zero (level : LogLevel) (problem : Problem) :
    (Report.ofProblem level problem).exitCode ≠ 0 := by
  cases problem <;> exact Nat.succ_ne_zero _

theorem stdout_ofProblem (level : LogLevel) (problem : Problem) : (Report.ofProblem level problem).stdout = "" := by
  cases problem <;> rfl

/-- When something is wrong with its input, a run tells the problem of the first check that finds one and nothing
else, and changes nothing, whatever else it is asked for. Of an invalid response it tells how many violations there
are in the text of its file. -/
theorem first_problem_is_told {t : FileTree} {arguments : List String} {a : RenderArguments}
    (harguments : Invocation.ofArguments? arguments = some (.render a))
    (hwrong : ∃ check problem, Wrong t.read a check problem) :
    let done := run t arguments
    let r := done.report
    done.tree = t ∧ r.stdout = "" ∧ r.exitCode ≠ 0 ∧
    (∃ check problem, FirstWrong t.read a check problem) ∧
    (∀ check problem, FirstWrong t.read a check problem → r = Report.ofProblem a.logLevel problem) ∧
    (∀ file, (∃ m, Unreadable t.read file (.malformed m)) ↔ Garbled t.read file) ∧
    ∀ file text e, a.responseFile = some file → t.read (Path.ofText file) = .ok (encodeText text) →
      validateText .commandResponse text = .error e →
      r.exitCode = 1 ∧ r.stderr =
        "Render failed: invalid command response (" ++ toString e.violations.length ++ " errors).\n" := by
  intro done r
  have htold : ∀ check problem, FirstWrong t.read a check problem → done = ⟨.ofProblem a.logLevel problem, t⟩ :=
    fun check problem h => run_of_problem harguments (renderArguments_eq_error_iff.mpr ⟨check, h⟩)
  obtain ⟨_, _, hwrong⟩ := hwrong
  obtain ⟨first, problem, hfirst⟩ := exists_firstWrong_of_wrong hwrong
  have hdone := htold first problem hfirst
  have hr : r = .ofProblem a.logLevel problem := congrArg Completion.report hdone
  refine ⟨congrArg Completion.tree hdone, ?_, ?_, ⟨first, problem, hfirst⟩, ?_,
    fun _ => exists_unreadable_malformed_iff, ?_⟩
  · rw [hr, stdout_ofProblem]
  · rw [hr]
    exact exitCode_ofProblem_ne_zero a.logLevel problem
  · intro check other h
    exact congrArg Completion.report (htold check other h)
  · intro file text e hfile hread he
    have hinvalid : renderArguments t.read a = .error (.invalid e) := by
      rw [renderArguments_eq, chooseResponse_of_wrong (.validation hfile hread he) (by decide)]
      rfl
    have hr' : r = .ofProblem a.logLevel (.invalid e) := congrArg Completion.report (run_of_problem harguments hinvalid)
    rw [hr']
    refine ⟨rfl, ?_⟩
    show "Render failed: " ++ ("invalid command response (" ++ toString e.violations.length ++ " errors)") ++ ".\n" = _
    rw [show " errors).\n" = " errors)" ++ ".\n" by decide,
      show "Render failed: invalid command response (" = "Render failed: " ++ "invalid command response (" by decide]
    simp only [String.append_assoc]

theorem first_problem_is_told_of_two :
    let response := "\x7b\"failure\":null,\"x\":1,\"x\":2\x7d"
    let t : FileTree := ⟨["w"], [(["in"], .directory), (["in", "r.json"], .file (encodeText response)),
      (["w"], .directory)]⟩
    let arguments := ["render", "--command=help", "--log-file", "gone", "/in/r.json", "--output", "out/c.md"]
    let a : RenderArguments := ⟨some "/in/r.json", .help, some "gone", false, some "out/c.md", false⟩
    let e : ValidationError := ⟨.json, [⟨[.field "failure"], .notAString⟩, ⟨[.field "x"], .unknownField⟩]⟩
    Invocation.ofArguments? arguments = some (.render a) ∧
    Wrong t.read a .validation (.invalid e) ∧ Wrong t.read a .log (.unreadable ⟨.noEntry, "gone"⟩) ∧
    (run t arguments).tree = t ∧ (run t arguments).report.stdout = "" ∧
    (run t arguments).report.stderr = "Render failed: invalid command response (2 errors).\n" := by
  intro response t arguments a e
  have harguments : Invocation.ofArguments? arguments = some (.render a) := by decide +kernel
  have hread : t.read (Path.ofText "/in/r.json") = .ok (encodeText response) := by decide +kernel
  have he : validateText .commandResponse response = .error e := by decide +kernel
  have hlog : t.read (Path.ofText "gone") = .error ⟨.noEntry, "gone"⟩ := by decide +kernel
  have hinvalid : Wrong t.read a .validation (.invalid e) := .validation rfl hread he
  obtain ⟨htree, hstdout, -, -, -, -, hcount⟩ := first_problem_is_told harguments ⟨_, _, hinvalid⟩
  exact ⟨harguments, hinvalid, .log rfl (.fault hlog), htree, hstdout,
    (hcount "/in/r.json" response e rfl hread he).2.trans (by decide +kernel)⟩

end PullComment.CommandLine
