import PullComment.Text.Quoted

namespace PullComment

inductive Outcome where
  | error (message : String)
  | failure (message : String)
  | planSuccess (terraformOutput lockUrl : String)
  | applySuccess (output : String)
  deriving DecidableEq, Repr

inductive Kind where
  | error
  | failure
  | planSuccess
  | applySuccess
  deriving DecidableEq, Repr

def Outcome.kind : Outcome → Kind
  | .error _ => .error
  | .failure _ => .failure
  | .planSuccess _ _ => .planSuccess
  | .applySuccess _ => .applySuccess

namespace Kind

def all : List Kind := [.error, .failure, .planSuccess, .applySuccess]

def tag : Kind → String
  | .error => "error"
  | .failure => "failure"
  | .planSuccess => "plan_success"
  | .applySuccess => "apply_success"

def ofTag? (tag : String) : Option Kind :=
  all.find? fun k => k.tag == tag

theorem ofTag?_tag (k : Kind) : ofTag? k.tag = some k := by
  cases k <;> decide

theorem tag_of_ofTag? {tag : String} {k : Kind} (h : ofTag? tag = some k) : k.tag = tag := by
  simpa using List.find?_some h

theorem tag_injective {j k : Kind} (h : j.tag = k.tag) : j = k := by
  have := ofTag?_tag j
  rw [h, ofTag?_tag k] at this
  exact (Option.some.inj this).symm

end Kind

def Outcome.ofTexts? (text? : String → Option String) : Kind → Option Outcome
  | .error => (text? "message").map .error
  | .failure => (text? "message").map .failure
  | .planSuccess =>
      (text? "terraform_output").bind fun terraformOutput =>
        (text? "lock_url").map fun lockUrl => .planSuccess terraformOutput lockUrl
  | .applySuccess => (text? "output").map .applySuccess

class Label (π : Type) where
  alike : π → π → Bool
  text : π → String
  quoted : π → String

instance : Label String := ⟨(· == ·), id, Text.quote⟩

structure ProjectResult (π : Type) where
  path : π
  outcome : Option Outcome
  deriving DecidableEq, Repr

structure CommandResponse (π : Type) where
  error : Option String
  failure : String
  results : List (ProjectResult π)
  deriving DecidableEq, Repr

def CommandResponse.empty {π : Type} : CommandResponse π :=
  ⟨none, "", []⟩

end PullComment
