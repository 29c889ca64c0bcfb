import PullComment.Comment.Render
import PullComment.CommandLine.Arguments
import PullComment.CommandLine.FileTree
import PullComment.Schema.Validation
import PullComment.Text.Newline
import PullComment.Text.Styling

/-!
A run of the command line: what it prints and with which code it ends, and what becomes of the file tree.
Nothing is written unless everything has been read.
-/

namespace PullComment.CommandLine

open PullComment Schema

inductive LogLevel where
  | unset
  | warning
  | debug
  deriving DecidableEq, Repr

def LogLevel.weight : LogLevel → Nat
  | .unset => 0
  | .debug => 10
  | .warning => 30

def severityWeight : Severity → Nat
  | .warning => 30
  | .error => 40

def severityWord : Severity → String
  | .warning => "WARNING"
  | .error => "ERROR"

def reporterName : String :=
  "comment_renderer.renderer"

def eventLine (e : Event) : String :=
  severityWord e.severity ++ " " ++ reporterName ++ ": " ++ e.message ++ "\n"

def LogLevel.told (level : LogLevel) (events : List Event) : String :=
  String.join ((events.filter fun e => level.weight ≤ severityWeight e.severity).map eventLine)

inductive Crash where
  | badArguments
  | responseFileMissing
  | malformed (m : Text.MalformedText)
  | system (f : SystemFault)
  deriving DecidableEq, Repr

def Crash.message : Crash → Option String
  | .badArguments => none
  | .responseFileMissing => some "RESPONSE_FILE is required unless --command is help."
  | .malformed m => some m.message
  | .system f => some f.message

def Crash.exitCode : Crash → Nat
  | .badArguments => 2
  | .responseFileMissing => 2
  | .malformed _ => 1
  | .system _ => 1

inductive Problem where
  | responseFileMissing
  | unreadable (f : SystemFault)
  | malformed (m : Text.MalformedText)
  | invalid (e : ValidationError)
  deriving DecidableEq, Repr

structure Report where
  exitCode : Nat
  stdout : String
  stderr : String
  crash : Option Crash
  logLevel : LogLevel
  output : Option (Path × String)
  deriving DecidableEq, Repr

namespace Report

def printed (level : LogLevel) (c : Comment) : Report :=
  ⟨0, c.markdown, level.told c.events, none, level, none⟩

def written (level : LogLevel) (p : Path) (c : Comment) : Report :=
  ⟨0, "", level.told c.events, none, level, some (p, c.markdown)⟩

def failed (level : LogLevel) (reason : String) : Report :=
  ⟨1, "", "Render failed: " ++ reason ++ ".\n", none, level, none⟩

def crashed (level : LogLevel) (c : Crash) : Report :=
  ⟨c.exitCode, "", "", some c, level, none⟩

def breakOff (c : Crash) (r : Report) : Report :=
  { crashed r.logLevel c with stderr := r.stderr }

def ofProblem (level : LogLevel) : Problem → Report
  | .responseFileMissing => crashed level .responseFileMissing
  | .unreadable f => failed level ("cannot read input (" ++ f.message ++ ")")
  | .malformed m => crashed level (.malformed m)
  | .invalid e =>
      failed level ("invalid command response (" ++ toString e.violations.length ++ " errors)")

/-- Away from a terminal, what is printed loses its styling; what is written to a file keeps it. -/
def unstyled (r : Report) : Report :=
  { r with stdout := String.ofList (Text.dropStyling r.stdout.toList) }

end Report

abbrev Reader := Path → Except SystemFault (List UInt8)

def readTextFile (read : Reader) (file : String) : Except Problem String :=
  match read (Path.ofText file) with
  | .error f => .error (.unreadable f)
  | .ok octets =>
      match Text.decodeText octets with
      | .error m => .error (.malformed m)
      | .ok cs => .ok (String.ofList (Text.joinLineEnds cs))

def loadResponse (read : Reader) (file : String) : Except Problem (CommandResponse String) := do
  let text ← readTextFile read file
  match readJsonText readResponse text with
  | .ok r => .ok r.content
  | .error e => .error (.invalid e)

def chooseResponse (read : Reader) (a : RenderArguments) : Except Problem (CommandResponse String) :=
  match a.responseFile with
  | some file => loadResponse read file
  | none => if a.command = .help then .ok .empty else .error .responseFileMissing

def chooseLog (read : Reader) (a : RenderArguments) : Except Problem String :=
  match a.logFile with
  | some file => readTextFile read file
  | none => .ok ""

def renderArguments (read : Reader) (a : RenderArguments) : Except Problem Comment := do
  let response ← chooseResponse read a
  let log ← chooseLog read a
  .ok (Comment.render ⟨a.command, log, a.verbose, .none⟩ response)

def RenderArguments.logLevel (a : RenderArguments) : LogLevel :=
  if a.debug then .debug else .warning

def reportRender (read : Reader) (a : RenderArguments) : Report :=
  match renderArguments read a with
  | .error problem => .ofProblem a.logLevel problem
  | .ok c =>
      match a.output with
      | some file => .written a.logLevel (Path.ofText file) c
      | none => .printed a.logLevel c

def helpTextReport : Report :=
  .printed .unset (Comment.help ⟨.help, "", false, .none⟩)

def report (read : Reader) (arguments : List String) : Report :=
  match Invocation.ofArguments? arguments with
  | none => .crashed .unset .badArguments
  | some .helpText => helpTextReport
  | some (.render a) => reportRender read a

def inputFiles (arguments : List String) : List Path :=
  match Invocation.ofArguments? arguments with
  | some (.render a) => (a.responseFile.toList ++ a.logFile.toList).map Path.ofText
  | _ => []

structure Completion where
  report : Report
  tree : FileTree
  deriving DecidableEq, Repr

def perform (t : FileTree) (r : Report) : Completion :=
  match r.output with
  | none => ⟨r, t⟩
  | some (p, text) =>
      let attempt := t.writeWithParents p (Text.encodeText text)
      match attempt.fault with
      | none => ⟨r, attempt.tree⟩
      | some fault => ⟨r.breakOff (.system fault), attempt.tree⟩

def run (t : FileTree) (arguments : List String) : Completion :=
  perform t (report t.read arguments).unstyled

end PullComment.CommandLine
