import PullComment.Command

namespace PullComment.CommandLine

open PullComment

structure RenderArguments where
  responseFile : Option String
  command : Command
  logFile : Option String
  verbose : Bool
  output : Option String
  debug : Bool
  deriving DecidableEq, Repr

inductive Invocation where
  | render (a : RenderArguments)
  | helpText
  deriving DecidableEq, Repr

structure Draft where
  files : List String
  command : String
  logFile : Option String
  verbose : Bool
  output : Option String
  debug : Bool
  deriving DecidableEq, Repr

namespace Draft

def initial : Draft :=
  ⟨[], Command.plan.word, none, false, none, false⟩

def setValue (option value : String) (d : Draft) : Option Draft :=
  match option with
  | "--command" => some { d with command := value }
  | "--log-file" => some { d with logFile := some value }
  | "--output" => some { d with output := some value }
  | _ => none

def setFlag (option : String) (d : Draft) : Option Draft :=
  match option with
  | "--verbose" => some { d with verbose := true }
  | "--no-verbose" => some { d with verbose := false }
  | "--debug" => some { d with debug := true }
  | "--no-debug" => some { d with debug := false }
  | _ => none

def isFileName (name : String) : Bool :=
  !name.toList.contains '\x00'

def addFiles (files : List String) (d : Draft) : Draft :=
  { d with files := d.files ++ files }

def isOption (argument : String) : Bool :=
  match argument.toList with
  | '-' :: _ :: _ => true
  | _ => false

def splitValue (argument : String) : String × Option String :=
  let cs := argument.toList
  match cs.dropWhile (· ≠ '=') with
  | _ :: value => (String.ofList (cs.takeWhile (· ≠ '=')), some (String.ofList value))
  | [] => (argument, none)

def read (d : Draft) : List String → Option Draft
  | [] => some d
  | argument :: rest =>
      if argument = "--" then some (d.addFiles rest)
      else if isOption argument then
        match splitValue argument with
        | (option, some value) => (d.setValue option value).bind fun d' => d'.read rest
        | (option, none) =>
            match d.setFlag option with
            | some d' => d'.read rest
            | none =>
                match rest with
                | [] => none
                | value :: rest' => (d.setValue option value).bind fun d' => d'.read rest'
      else (d.addFiles [argument]).read rest

def finish (d : Draft) : Option RenderArguments :=
  match d.files with
  | _ :: _ :: _ => none
  | files =>
      if (files ++ d.logFile.toList ++ d.output.toList).all isFileName then
        (Command.ofWord? d.command).map fun command =>
          ⟨files.head?, command, d.logFile, d.verbose, d.output, d.debug⟩
      else none

end Draft

def readRender (arguments : List String) : Option RenderArguments :=
  (Draft.initial.read arguments).bind Draft.finish

def readHelpText : List String → Option Unit
  | [] => some ()
  | ["--"] => some ()
  | _ => none

def readCommand : List String → Option Invocation
  | "render" :: rest => (readRender rest).map .render
  | "help-text" :: rest => (readHelpText rest).map fun _ => .helpText
  | _ => none

def Invocation.ofArguments? : List String → Option Invocation
  | "--" :: rest => readCommand rest
  | arguments => readCommand arguments

end PullComment.CommandLine
