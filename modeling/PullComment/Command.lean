import PullComment.Text.Quoted
import PullComment.Text.UpperCase

namespace PullComment

inductive Command where
  | plan
  | apply
  | help
  deriving DecidableEq, Repr

namespace Command

def all : List Command := [.plan, .apply, .help]

def word : Command → String
  | .plan => "plan"
  | .apply => "apply"
  | .help => "help"

def title (c : Command) : String :=
  Text.titled c.word

def ofWord? (name : String) : Option Command :=
  all.find? fun c => c.word == name

theorem ofWord?_word (c : Command) : ofWord? c.word = some c := by
  cases c <;> decide

theorem word_of_ofWord? {name : String} {c : Command} (h : ofWord? name = some c) : c.word = name := by
  simpa using List.find?_some h

def unknownMessage (name : String) : String :=
  Text.quote name ++ " is not a valid CommandName"

end Command

end PullComment
