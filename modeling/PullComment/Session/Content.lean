import PullComment.Session.Patched

namespace PullComment.Session

open PullComment Schema

def shownLevelLimit : Nat :=
  494

def shownText (v : Json) : Except Refusal String :=
  if v.levels ≤ shownLevelLimit then .ok v.shown else .error .tooDeepToShow

def checkPath (p : ProjectResult Json) : Except Refusal (ProjectResult Json) :=
  (checkHashable p.path).map fun _ => p

def chosenContent (error : Json) (failure : Except Refusal Json)
    (results : Except Refusal (List (ProjectResult Json))) : Except Refusal (CommandResponse Json) := do
  if error != .null then
    let text ← shownText error
    .ok ⟨some text, "", []⟩
  else
    let present ← failure
    if !present.isNothing then
      let text ← shownText present
      .ok ⟨none, text, []⟩
    else
      let found ← results
      .ok ⟨none, "", found⟩

structure Unchecked where
  error : Json
  failure : Json
  results : List (ProjectResult Json)
  deriving DecidableEq, Repr

namespace Unchecked

def member (name : String) (members : List (String × Json)) : Except Refusal Json :=
  match Members.get? name members with
  | some v => .ok v
  | none => .error (.noKey (.string name))

def outcomeOf : Json → Except Refusal (Option Outcome)
  | .null => .ok none
  | .object members => do
      let tag ← member "kind" members
      checkHashable tag
      match tag with
      | .string name =>
          match Kind.ofTag? name with
          | some kind => .ok (Outcome.ofTexts? (fun field => (Members.get? field members).map Json.shown) kind)
          | none => .error (.noKey tag)
      | _ => .error (.noKey tag)
  | v => .error (.notIndexed v.kindName)

def resultOf : Json → Except Refusal (ProjectResult Json)
  | .object members => do
      let outcome ← member "outcome" members
      let variant ← outcomeOf outcome
      let path ← member "path" members
      .ok ⟨path, variant⟩
  | v => .error (.notIndexed v.kindName)

def resultsOf : Json → Except Refusal (List (ProjectResult Json))
  | .array items => items.mapM resultOf
  | .string s => (s.toList.map fun c => Json.string c.toString).mapM resultOf
  | .object members => ((Members.names members).map Json.string).mapM resultOf
  | v => .error (.notIterable v.kindName)

def ofMembers (members : List (String × Json)) : Except Refusal Unchecked := do
  let results ← resultsOf ((Members.get? "project_results" members).getD (.array []))
  .ok ⟨(Members.get? "error" members).getD .null, (Members.get? "failure" members).getD (.string ""), results⟩

def content (r : Unchecked) : Except Refusal (CommandResponse Json) :=
  chosenContent r.error (.ok r.failure) (r.results.mapM checkPath)

end Unchecked

end PullComment.Session
