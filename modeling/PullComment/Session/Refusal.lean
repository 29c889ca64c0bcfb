import PullComment.Command
import PullComment.Schema.Input

namespace PullComment.Session

open PullComment Schema

inductive DumpFault where
  | unhashableTag (kind : String)
  | tooDeep
  deriving DecidableEq, Repr

inductive Refusal where
  | invalid (e : ValidationError)
  | unbuildable (f : BuildFault)
  | unknownCommand (name : String)
  | unknownName (name : String)
  | indexTooLarge
  | indexOutOfRange
  | textIndexOutOfRange
  | notIndexed (kind : String)
  | noKey (key : Json)
  | popTooLarge
  | popOutOfRange
  | popFromEmpty
  | negativeIndent
  | indentTooLarge
  | unhashable (kind : String)
  | undumpable (f : DumpFault)
  | unwritable (f : DumpFault)
  | notIterable (kind : String)
  | tooDeepToCopy
  | tooDeepToShow
  | noField (holder field : String)
  deriving DecidableEq, Repr

def unhashableText (kind : String) : String :=
  "unhashable type: " ++ Text.quote kind

def DumpFault.message : DumpFault → String
  | .unhashableTag kind => unhashableText kind
  | .tooDeep => "Maximum serialization depth exceeded"

def DumpFault.className : DumpFault → String
  | .unhashableTag _ => "TypeError"
  | .tooDeep => "ValueError"

def Refusal.message : Refusal → String
  | .invalid e => toString e.violations.length ++ " validation errors"
  | .unbuildable f => f.message
  | .unknownCommand name => Command.unknownMessage name
  | .unknownName name => Text.quote name
  | .indexTooLarge => Index.tooLargeText
  | .indexOutOfRange => "list index out of range"
  | .textIndexOutOfRange => "string index out of range"
  | .notIndexed kind => Text.quote kind ++ " object is not subscriptable"
  | .noKey key => key.quoted
  | .popTooLarge => "Python int too large to convert to C ssize_t"
  | .popOutOfRange => "pop index out of range"
  | .popFromEmpty => "pop from empty list"
  | .negativeIndent => "can't convert negative int to unsigned"
  | .indentTooLarge => "int too big to convert"
  | .unhashable kind => unhashableText kind
  | .undumpable f => f.message
  | .unwritable f => "Error serializing to JSON: " ++ f.className ++ ": " ++ f.message
  | .notIterable kind => notIterableText kind
  | .tooDeepToCopy => "maximum recursion depth exceeded while calling a Python object"
  | .tooDeepToShow => "maximum recursion depth exceeded"
  | .noField holder field => Text.quote holder ++ " object has no attribute " ++ Text.quote field

end PullComment.Session
