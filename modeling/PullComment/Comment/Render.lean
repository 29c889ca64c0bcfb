import PullComment.Command
import PullComment.Comment.Template
import PullComment.Json.Shown

/-!
Comments: the markdown posted back for a response, and what there was to report while it was made.
A template may be faulted; it then shows a single variable instead of its text.
-/

namespace PullComment

inductive Event where
  | noOutcome (path : String)
  | templateFailed (reason : String)
  deriving DecidableEq, Repr

inductive Severity where
  | warning
  | error
  deriving DecidableEq, Repr

def Event.severity : Event → Severity
  | .noOutcome _ => .warning
  | .templateFailed _ => .error

def Event.message : Event → String
  | .noOutcome path => "no template matches the outcome for project " ++ path
  | .templateFailed reason => "template rendering failed: " ++ reason

structure Comment where
  markdown : String
  events : List Event
  deriving DecidableEq, Repr

abbrev Faults := Template → Option String

def Faults.none : Faults := fun _ => .none

abbrev Scope := List (String × String)

structure Request where
  command : Command
  log : String
  verbose : Bool
  faults : Faults

namespace Comment

/-- What the template language knows by itself, as it shows it. Where a function stands in memory is left out. -/
def builtinScope : Scope :=
  [("range", "<class 'range'>"), ("dict", "<class 'dict'>"), ("lipsum", "<function generate_lorem_ipsum>"),
    ("cycler", "<class 'jinja2.utils.Cycler'>"), ("joiner", "<class 'jinja2.utils.Joiner'>"),
    ("namespace", "<class 'jinja2.utils.Namespace'>"), ("self", "<TemplateReference None>"),
    ("true", "True"), ("True", "True"), ("false", "False"), ("False", "False"), ("none", "None"), ("None", "None")]

def value? (scope : Scope) (variableName : String) : Option String :=
  Members.get? variableName (builtinScope ++ scope)

def undefinedReason (variableName : String) : String :=
  Text.quote variableName ++ " is undefined"

def fill (faults : Faults) (template : Template) (scope : Scope) (text : String) : Comment :=
  match faults template with
  | .none => ⟨text, []⟩
  | some variableName =>
      match value? scope variableName with
      | some value => ⟨value, []⟩
      | .none =>
          let reason := undefinedReason variableName
          ⟨Template.bugNotice ++ reason, [.templateFailed reason]⟩

def commonScope (r : Request) : Scope :=
  [("command", r.command.title), ("verbose", if r.verbose then "True" else "False"), ("log", r.log)]

def outcomeScope (command : String) : Outcome → Scope
  | .error message => [("command", command), ("error", message)]
  | .failure message => [("command", command), ("failure", message)]
  | .planSuccess terraformOutput lockUrl => [("terraform_output", terraformOutput), ("lock_url", lockUrl)]
  | .applySuccess output => [("output", output)]

def ofOutcome (r : Request) (o : Outcome) : Comment :=
  fill r.faults (Template.ofKind o.kind) (outcomeScope r.command.title o)
    (Template.outcomeText r.command.title o)

variable {π : Type} [Label π]

def ofResult (r : Request) (p : ProjectResult π) : Comment :=
  match p.outcome with
  | some o => ofOutcome r o
  | .none => ⟨Template.noOutcomeText, [.noOutcome (Label.text p.path)]⟩

def put (path : π) (text : String) : List (π × String) → List (π × String)
  | [] => [(path, text)]
  | (p, t) :: rest => if Label.alike p path then (p, text) :: rest else (p, t) :: put path text rest

def placed (r : Request) (results : List (ProjectResult π)) : List (π × String) :=
  results.foldl (fun done p => put p.path (ofResult r p).markdown done) []

def sections (r : Request) (results : List (ProjectResult π)) : List (String × String) :=
  (placed r results).map fun s => (Label.text s.1, s.2)

def asOne (done : List (π × String)) : String :=
  "\x7b" ++ commaList (done.map fun s => Label.quoted s.1 ++ ": " ++ Text.quote s.2) ++ "\x7d"

def ofSections (r : Request) (whole : String) (parts : List (String × String)) : Comment :=
  let scope := commonScope r ++ [("results", whole)]
  if parts.length = 1 then
    fill r.faults .singleProject scope (Template.singleText parts ++ Template.logFragment r.verbose r.log)
  else
    fill r.faults .multiProject scope
      (Template.multiText r.command.title parts ++ Template.logFragment r.verbose r.log)

def ofResults (r : Request) (results : List (ProjectResult π)) : Comment :=
  let outer := ofSections r (asOne (placed r results)) (sections r results)
  ⟨outer.markdown, results.flatMap (fun p => (ofResult r p).events) ++ outer.events⟩

def ofError (r : Request) (message : String) : Comment :=
  fill r.faults .errorWithLog (commonScope r ++ [("error", message)])
    (Template.errorText r.command.title message ++ Template.logFragment r.verbose r.log)

def ofFailure (r : Request) (message : String) : Comment :=
  fill r.faults .failureWithLog (commonScope r ++ [("failure", message)])
    (Template.failureText r.command.title message ++ Template.logFragment r.verbose r.log)

def help (r : Request) : Comment :=
  fill r.faults .help [] Template.helpText

def render (r : Request) (response : CommandResponse π) : Comment :=
  match r.command with
  | .help => help r
  | _ =>
      match response.error with
      | some message => ofError r message
      | .none =>
          if response.failure = "" then ofResults r response.results else ofFailure r response.failure

end Comment

end PullComment
