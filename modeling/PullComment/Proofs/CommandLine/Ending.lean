import PullComment.Proofs.CommandLine.Input

namespace PullComment.CommandLine

open Text

def Report.TellsFailure (r : Report) : Prop :=
  r.exitCode = 1 ∧ r.stdout = "" ∧
    ∃ reason, r.stderr = "Render failed: " ++ reason ++ "\n" ∧ '\n' ∉ reason.toList

def Problem.Foreseen : Problem → Prop
  | .responseFileMissing => False
  | .unreadable f => f.kind ∈ FileTree.readFaults
  | .malformed _ => False
  | .invalid _ => True

/-- The octets that a run looks at are no UTF-8: those of the response, or those of the log where there is a
response. -/
def MeetsGarbled (read : Reader) (file : String) (logFile : Option String) : Prop :=
  Garbled read file ∨ (∃ response, loadResponse read file = .ok response) ∧ ∃ log ∈ logFile, Garbled read log

theorem Report.unstyled_of_not_mem {r : Report} (h : '\x1b' ∉ r.stdout.toList) : r.unstyled = r := by
  rw [Report.unstyled, dropStyling_of_not_mem h, String.ofList_toList]

theorem Problem.unstyled (level : LogLevel) (problem : Problem) :
    (Report.ofProblem level problem).unstyled = Report.ofProblem level problem := by
  refine Report.unstyled_of_not_mem ?_
  cases problem <;> exact List.not_mem_nil

theorem tellsFailure_of_foreseen {problem : Problem} (level : LogLevel) (h : problem.Foreseen) :
    (Report.ofProblem level problem).TellsFailure := by
  have failed (reason : String) (hreason : '\n' ∉ reason.toList) : (Report.failed level reason).TellsFailure := by
    refine ⟨rfl, rfl, reason ++ ".", ?_, ?_⟩
    · show "Render failed: " ++ reason ++ ".\n" = _
      rw [show ".\n" = "." ++ "\n" by decide]
      simp only [String.append_assoc]
    · rw [String.toList_append, List.mem_append]
      exact not_or.mpr ⟨hreason, by decide⟩
  cases problem with
  | responseFileMissing | malformed m => exact h.elim
  | unreadable f =>
      refine failed _ ?_
      simp only [String.toList_append, List.mem_append, not_or]
      exact ⟨⟨by decide, newline_not_mem_message h⟩, by decide⟩
  | invalid e =>
      refine failed _ ?_
      simp only [String.toList_append, List.mem_append, not_or]
      exact ⟨⟨by decide, Text.notMem_toString (by decide) _⟩, by decide⟩

section Reader

variable {read : Reader} {file : String} {a : RenderArguments}

theorem chooseResponse_of_file (h : a.responseFile = some file) :
    chooseResponse read a = loadResponse read file := by
  rw [chooseResponse, h]

theorem chooseLog_of_file {log : String} (h : log ∈ a.logFile) : chooseLog read a = readTextFile read log := by
  rw [chooseLog, Option.mem_def.mp h]

theorem chooseLog_error {problem : Problem} (h : chooseLog read a = .error problem) :
    ∃ log ∈ a.logFile, readTextFile read log = .error problem := by
  unfold chooseLog at h
  split at h
  · rename_i log hlog
    exact ⟨log, hlog, h⟩
  · cases h

theorem foreseen_of_error {t : FileTree} {problem : Problem} (hfile : a.responseFile = some file)
    (hgarbled : ¬ MeetsGarbled t.read file a.logFile) (h : renderArguments t.read a = .error problem) :
    problem.Foreseen := by
  rw [renderArguments_eq, bind_eq_error_iff, chooseResponse_of_file hfile] at h
  rcases h with hresponse | ⟨response, hresponse, h⟩
  · rcases loadResponse_error hresponse with htext | ⟨e, rfl⟩
    · rcases readTextFile_error htext with ⟨f, rfl, hf⟩ | ⟨m, rfl, hm⟩
      · exact FileTree.read_error hf
      · exact absurd (.inl hm) hgarbled
    · trivial
  · rcases bind_eq_error_iff.mp h with hlog | ⟨log, -, h⟩
    · obtain ⟨log, hlogFile, htext⟩ := chooseLog_error hlog
      rcases readTextFile_error htext with ⟨f, rfl, hf⟩ | ⟨m, rfl, hm⟩
      · exact FileTree.read_error hf
      · exact absurd (.inr ⟨⟨response, hresponse⟩, log, hlogFile, hm⟩) hgarbled
    · cases h

theorem exists_malformed_of_meetsGarbled (hfile : a.responseFile = some file)
    (h : MeetsGarbled read file a.logFile) : ∃ m, renderArguments read a = .error (.malformed m) := by
  rw [renderArguments_eq, chooseResponse_of_file hfile]
  rcases h with hgarbled | ⟨⟨response, hresponse⟩, log, hlog, hgarbled⟩
  · obtain ⟨m, hm⟩ := exists_malformed_of_garbled hgarbled
    rw [loadResponse_of_error hm]
    exact ⟨m, rfl⟩
  · obtain ⟨m, hm⟩ := exists_malformed_of_garbled hgarbled
    rw [hresponse, chooseLog_of_file hlog, hm]
    exact ⟨m, rfl⟩

end Reader

theorem run_of_render {t : FileTree} {arguments : List String} {a : RenderArguments}
    (harguments : Invocation.ofArguments? arguments = some (.render a)) :
    run t arguments = perform t (reportRender t.read a).unstyled := by
  rw [run, report, harguments]

theorem run_of_problem {t : FileTree} {arguments : List String} {a : RenderArguments} {problem : Problem}
    (harguments : Invocation.ofArguments? arguments = some (.render a))
    (hproblem : renderArguments t.read a = .error problem) :
    run t arguments = ⟨Report.ofProblem a.logLevel problem, t⟩ := by
  rw [run_of_render harguments, reportRender, hproblem]
  dsimp only
  rw [Problem.unstyled]
  cases problem <;> rfl

theorem run_of_printed {t : FileTree} {arguments : List String} {a : RenderArguments} {c : Comment}
    (harguments : Invocation.ofArguments? arguments = some (.render a)) (houtput : a.output = none)
    (hc : renderArguments t.read a = .ok c) :
    run t arguments = ⟨(Report.printed a.logLevel c).unstyled, t⟩ := by
  rw [run_of_render harguments, reportRender, hc, houtput]
  rfl

theorem crash_of_foreseen {problem : Problem} (level : LogLevel) (h : problem.Foreseen) :
    (Report.ofProblem level problem).crash = none := by
  cases problem with
  | responseFileMissing | malformed m => exact h.elim
  | unreadable f | invalid e => rfl

/-- A run that prints a comment leaves the tree as it is. It ends well or tells its failure in one line, unless
it meets octets that are no UTF-8: these break it off, with nothing printed and nothing told. -/
theorem run_ends_or_tells_unless_garbled {t : FileTree} {arguments : List String} {a : RenderArguments}
    {file : String} (harguments : Invocation.ofArguments? arguments = some (.render a))
    (hfile : a.responseFile = some file) (houtput : a.output = none) :
    let done := run t arguments
    let r := done.report
    done.tree = t ∧
    ((r.crash = none ∧ (r.exitCode = 0 ∨ r.TellsFailure)) ↔ ¬ MeetsGarbled t.read file a.logFile) ∧
    (MeetsGarbled t.read file a.logFile →
      ∃ m, r.crash = some (.malformed m) ∧ r.exitCode = 1 ∧ r.stdout = "" ∧ r.stderr = "") := by
  intro done r
  have hbroken : MeetsGarbled t.read file a.logFile →
      ∃ m, r.crash = some (.malformed m) ∧ r.exitCode = 1 ∧ r.stdout = "" ∧ r.stderr = "" := by
    intro hgarbled
    obtain ⟨m, hm⟩ := exists_malformed_of_meetsGarbled hfile hgarbled
    have hr : r = Report.ofProblem a.logLevel (.malformed m) :=
      congrArg Completion.report (run_of_problem harguments hm)
    rw [hr]
    exact ⟨m, rfl, rfl, rfl, rfl⟩
  -- a comment is made only where nothing garbled is met
  cases hrender : renderArguments t.read a with
  | ok c =>
      have hdone : done = ⟨(Report.printed a.logLevel c).unstyled, t⟩ := run_of_printed harguments houtput hrender
      have hclean : ¬ MeetsGarbled t.read file a.logFile := by
        intro hgarbled
        obtain ⟨m, hm⟩ := exists_malformed_of_meetsGarbled hfile hgarbled
        rw [hm] at hrender
        cases hrender
      refine ⟨congrArg Completion.tree hdone, iff_of_true ?_ hclean, hbroken⟩
      have hr : r = (Report.printed a.logLevel c).unstyled := congrArg Completion.report hdone
      rw [hr]
      exact ⟨rfl, .inl rfl⟩
  | error problem =>
      have hdone : done = ⟨Report.ofProblem a.logLevel problem, t⟩ := run_of_problem harguments hrender
      have hr : r = Report.ofProblem a.logLevel problem := congrArg Completion.report hdone
      refine ⟨congrArg Completion.tree hdone, ⟨?_, ?_⟩, hbroken⟩
      · rintro ⟨hcrash, -⟩ hgarbled
        obtain ⟨m, hm, -⟩ := hbroken hgarbled
        rw [hm] at hcrash
        cases hcrash
      · intro hclean
        have hforeseen := foreseen_of_error hfile hclean hrender
        rw [hr]
        exact ⟨crash_of_foreseen a.logLevel hforeseen, .inr (tellsFailure_of_foreseen a.logLevel hforeseen)⟩

theorem run_ends_or_tells_unless_garbled_log :
    let t : FileTree := ⟨["w"], [(["r.json"], .file [0x7B, 0x7D]), (["w"], .directory), (["w", "d"], .directory),
      (["w", "log"], .file [0x61, 0xFF])]⟩
    let a (logFile : Option String) : RenderArguments := ⟨some "/r.json", .plan, logFile, false, none, false⟩
    Invocation.ofArguments? ["render", "/r.json"] = some (.render (a none)) ∧
    Invocation.ofArguments? ["render", "/r.json", "--log-file", "d"] = some (.render (a (some "d"))) ∧
    Invocation.ofArguments? ["render", "/r.json", "--log-file", "log"] = some (.render (a (some "log"))) ∧
    (run t ["render", "/r.json"]).report.exitCode = 0 ∧
    (run t ["render", "/r.json", "--log-file", "d"]).report.TellsFailure ∧
    ∃ m, (run t ["render", "/r.json", "--log-file", "log"]).report.crash = some (.malformed m) := by
  intro t a
  have hwithout : Invocation.ofArguments? ["render", "/r.json"] = some (.render (a none)) := by decide +kernel
  have hdirectory : Invocation.ofArguments? ["render", "/r.json", "--log-file", "d"] =
      some (.render (a (some "d"))) := by decide +kernel
  have hlog : Invocation.ofArguments? ["render", "/r.json", "--log-file", "log"] =
      some (.render (a (some "log"))) := by decide +kernel
  have hread : t.read (Path.ofText "/r.json") = .ok (encodeText "\x7b\x7d") := by decide +kernel
  have hresponse : ¬ Garbled t.read "/r.json" := not_garbled_of_text hread
  have hoctets : t.read (Path.ofText "log") = .ok [0x61, 0xFF] := by decide +kernel
  have hmalformed : decodeText [0x61, 0xFF] = .error ⟨1, [0xFF], .invalidStart⟩ := by decide +kernel
  have hcrash := (run_ends_or_tells_unless_garbled hlog rfl rfl (t := t)).2.2 <|
    .inr ⟨⟨⟨none, "", []⟩, by decide +kernel⟩, "log", rfl, garbled_of_malformed hoctets hmalformed⟩
  have htold := (run_ends_or_tells_unless_garbled hdirectory rfl rfl (t := t)).2.1.mpr <| by
    rintro (h | ⟨-, _, ⟨⟩, h⟩)
    · exact hresponse h
    · exact not_garbled_of_error (f := ⟨.isADirectory, "d"⟩) (by decide +kernel) h
  have hended := (run_ends_or_tells_unless_garbled hwithout rfl rfl (t := t)).2.1.mpr <| by
    rintro (h | ⟨-, _, ⟨⟩, -⟩)
    exact hresponse h
  refine ⟨hwithout, hdirectory, hlog, hended.2.resolve_right ?_, htold.2.resolve_left (by decide +kernel), ?_⟩
  · rintro ⟨hcode, -⟩
    exact absurd hcode (by decide +kernel)
  · obtain ⟨m, hm, -⟩ := hcrash
    exact ⟨m, hm⟩

theorem run_breaks_off_without_a_word :
    let t : FileTree := ⟨["w"], [(["w"], .directory), (["w", "r.json"], .file [0x61, 0xFF])]⟩
    let a : RenderArguments := ⟨some "r.json", .plan, none, false, none, false⟩
    let r := (run t ["render", "r.json"]).report
    Invocation.ofArguments? ["render", "r.json"] = some (.render a) ∧
    ¬ (r.exitCode = 0 ∨ r.TellsFailure) ∧ r.crash = some (.malformed ⟨1, [0xFF], .invalidStart⟩) := by
  intro t a r
  have hr : r = ⟨1, "", "", some (.malformed ⟨1, [0xFF], .invalidStart⟩), .warning, none⟩ := by decide +kernel
  refine ⟨by decide +kernel, ?_, by rw [hr]⟩
  rw [hr]
  rintro (hcode | ⟨-, -, reason, hreason, -⟩)
  · exact absurd hcode (by decide)
  · have hempty := congrArg String.length hreason
    rw [String.length_append, String.length_append] at hempty
    exact absurd hempty.symm (Nat.succ_ne_zero _)

end PullComment.CommandLine
