import PullComment.Index
import PullComment.Json.Shown
import PullComment.SystemFault

namespace PullComment.Schema

open PullComment

/-- The ways in which the text of a raised error comes about. In most of them it comes from arguments that are JSON
values; the arguments of a foreign error never are. A class may also have a text and a quoted form of its own. -/
inductive RaisedKind where
  | general
  | lookup
  | system
  | source
  | encoding
  | translation
  | foreign
  | own (text quoted : String)
  deriving DecidableEq, Repr

def systemClasses : List String :=
  ["OSError", "FileNotFoundError", "FileExistsError", "PermissionError", "IsADirectoryError", "NotADirectoryError",
    "TimeoutError", "ConnectionError", "BlockingIOError", "ChildProcessError", "InterruptedError",
    "ProcessLookupError", "BrokenPipeError", "ConnectionAbortedError", "ConnectionRefusedError",
    "ConnectionResetError"]

def RaisedKind.ofClass (name : String) : RaisedKind :=
  if systemClasses.contains name then .system
  else if name = "KeyError" then .lookup
  else if ["SyntaxError", "IndentationError", "TabError"].contains name then .source
  else if name = "UnicodeEncodeError" then .encoding
  else if name = "UnicodeTranslateError" then .translation
  else if ["UnicodeDecodeError", "BaseExceptionGroup", "ExceptionGroup"].contains name then .foreign
  else .general

structure RaisedError where
  kind : RaisedKind
  name : String
  arguments : List Json
  deriving DecidableEq, Repr

inductive RaisingFault where
  | notWhole
  | tooLarge
  | wrongArguments
  deriving DecidableEq, Repr

def RaisingFault.message : RaisingFault → String
  | .notWhole => "'float' object cannot be interpreted as an integer"
  | .tooLarge => Index.tooLargeText
  | .wrongArguments => "wrong arguments"

def numberClass : Json → String
  | .number (.integer n) => faultClass n
  | .bool b => faultClass (if b then 1 else 0)
  | _ => faultClass 0

def partsOf? : Json → Option (List Json)
  | .array items => some items
  | .string s => some (s.toList.map fun c => .string c.toString)
  | .object members => some ((Members.names members).map .string)
  | _ => none

def position? : Json → Option Int
  | .number (.integer n) => if Index.fits n then some n else none
  | .bool b => some (if b then 1 else 0)
  | _ => none

def lastName (file : String) : String :=
  String.ofList (file.toList.reverse.takeWhile (· ≠ '/')).reverse

def sourcePlace : List Json → String
  | .string file :: .number (.integer line) :: _ =>
      " (" ++ lastName file ++ ", line " ++ toString (if Index.fits line then line else -1) ++ ")"
  | .string file :: _ => " (" ++ lastName file ++ ")"
  | _ :: .number (.integer line) :: _ => " (line " ++ toString (if Index.fits line then line else -1) ++ ")"
  | _ => ""

def stretchText (text : String) (start stop : Int) : String :=
  let one := if 0 ≤ start ∧ stop = start + 1 then text.toList[start.toNat]? else none
  match one with
  | some c => "character '" ++ String.ofList (Text.escapeCode c.toNat) ++ "' in position " ++ toString start
  | none => "characters in position " ++ toString start ++ "-" ++ toString (stop - 1)

def argumentsText : List Json → String
  | [] => ""
  | [argument] => argument.shown
  | arguments => tupleText (arguments.map Json.quoted)

def soughtText : List Json → String
  | [argument] => argument.quoted
  | arguments => argumentsText arguments

def sourceText : List Json → String
  | [] => "None"
  | [reason, place] => reason.shown ++ sourcePlace ((partsOf? place).getD [])
  | reason :: _ => reason.shown

def encodingText : List Json → String
  | [.string codec, .string text, start, stop, .string reason] =>
      "'" ++ codec ++ "' codec can't encode " ++
        stretchText text ((position? start).getD 0) ((position? stop).getD 0) ++ ": " ++ reason
  | _ => ""

def translationText : List Json → String
  | [.string text, start, stop, .string reason] =>
      "can't translate " ++ stretchText text ((position? start).getD 0) ((position? stop).getD 0) ++ ": " ++ reason
  | _ => ""

def sourceFault? : List Json → Option RaisingFault
  | [_, place] =>
      match partsOf? place with
      | some parts => if parts.length = 4 ∨ parts.length = 6 then none else some .wrongArguments
      | none => some .wrongArguments
  | _ => none

def stretchFault? (start stop : Json) : Option RaisingFault :=
  match position? start, position? stop with
  | some _, some _ => none
  | _, _ => some .wrongArguments

def encodingFault? : List Json → Option RaisingFault
  | [.string _, .string _, start, stop, .string _] => stretchFault? start stop
  | _ => some .wrongArguments

def translationFault? : List Json → Option RaisingFault
  | [.string _, start, stop, .string _] => stretchFault? start stop
  | _ => some .wrongArguments

namespace RaisedError

def hasNumber (arguments : List Json) : Bool :=
  2 ≤ arguments.length && arguments.length ≤ 5

def className (e : RaisedError) : String :=
  match e.kind, e.arguments with
  | .system, code :: _ => if e.name = "OSError" && hasNumber e.arguments then numberClass code else e.name
  | _, _ => e.name

def wouldBlock (e : RaisedError) : Bool :=
  e.className == "BlockingIOError"

def namesFile (e : RaisedError) : Json → Bool
  | .null => false
  | .bool _ => !e.wouldBlock
  | .number _ => !e.wouldBlock
  | _ => true

def blockingFault? (e : RaisedError) : Option RaisingFault :=
  match e.arguments with
  | _ :: _ :: .number n :: _ =>
      if e.wouldBlock && hasNumber e.arguments then
        match n with
        | .integer k => if Index.fits k then none else some .tooLarge
        | _ => some .notWhole
      else none
  | _ => none

def raisingFault? (e : RaisedError) : Option RaisingFault :=
  match e.kind with
  | .system => e.blockingFault?
  | .source => sourceFault? e.arguments
  | .encoding => encodingFault? e.arguments
  | .translation => translationFault? e.arguments
  | .foreign => some .wrongArguments
  | .general | .lookup | .own _ _ => none

def keptArguments (e : RaisedError) : List Json :=
  match e.kind, e.arguments with
  | .system, code :: reason :: file :: rest =>
      if hasNumber e.arguments && e.namesFile file then [code, reason] else code :: reason :: file :: rest
  | _, arguments => arguments

def quoted (e : RaisedError) : String :=
  match e.kind with
  | .own _ quoted => quoted
  | _ => e.className ++ "(" ++ commaList (e.keptArguments.map Json.quoted) ++ ")"

def secondFile : List Json → List Json
  | [_, .null] => []
  | [_, file] => [file]
  | _ => []

def fileTexts (e : RaisedError) : List Json → List String
  | file :: others => if e.namesFile file then (file :: secondFile others).map Json.quoted else []
  | [] => []

def systemText (e : RaisedError) : String :=
  match e.arguments with
  | code :: reason :: files =>
      if hasNumber e.arguments then faultText code.shown reason.shown (e.fileTexts files)
      else argumentsText e.arguments
  | arguments => argumentsText arguments

def message (e : RaisedError) : String :=
  match e.kind with
  | .general | .foreign => argumentsText e.arguments
  | .lookup => soughtText e.arguments
  | .system => e.systemText
  | .source => sourceText e.arguments
  | .encoding => encodingText e.arguments
  | .translation => translationText e.arguments
  | .own text _ => text

end RaisedError

end PullComment.Schema
