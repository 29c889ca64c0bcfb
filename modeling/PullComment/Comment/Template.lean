import PullComment.Outcome

namespace PullComment

inductive Template where
  | help
  | errorWithLog
  | failureWithLog
  | singleProject
  | multiProject
  | error
  | failure
  | planSuccess
  | applySuccess
  deriving DecidableEq, Repr

namespace Template

def helpText : String :=
  "```cmake\n" ++
  "atlantis - Terraform collaboration tool that enables you to collaborate on infrastructure\n" ++
  "safely and securely.\n" ++
  "\n" ++
  "Usage: atlantis <command> [workspace] [--verbose]\n" ++
  "\n" ++
  "Commands:\n" ++
  "plan           Runs 'terraform plan' on the files changed in the pull request\n" ++
  "apply          Runs 'terraform apply' using the plans generated by 'atlantis plan'\n" ++
  "help           Get help\n" ++
  "\n" ++
  "Examples:\n" ++
  "\n" ++
  "# Generates a plan for staging workspace\n" ++
  "atlantis plan staging\n" ++
  "\n" ++
  "# Generates a plan for a standalone terraform project\n" ++
  "atlantis plan\n" ++
  "\n" ++
  "# Applies a plan for staging workspace\n" ++
  "atlantis apply staging\n" ++
  "\n" ++
  "# Applies a plan for a standalone terraform project\n" ++
  "atlantis apply\n"

def noOutcomeText : String :=
  "Found no template. This is a bug!"

def bugNotice : String :=
  "Failed to render template, this is a bug: "

def logFragment (verbose : Bool) (log : String) : String :=
  if verbose then
    "\n<details><summary>Log</summary>\n  <p>\n\n```\n" ++ log ++ "```\n</p></details>\n"
  else "\n"

def errorText (command message : String) : String :=
  "**" ++ command ++ " Error**\n```\n" ++ message ++ "\n```\n"

def failureText (command message : String) : String :=
  "**" ++ command ++ " Failed**: " ++ message ++ "\n"

def planText (terraformOutput lockUrl : String) : String :=
  "```diff\n" ++ terraformOutput ++ "\n```\n\n* To **discard** this plan click [here](" ++ lockUrl ++ ")."

def applyText (output : String) : String :=
  "```diff\n" ++ output ++ "\n```"

def outcomeText (command : String) : Outcome → String
  | .error message => errorText command message
  | .failure message => failureText command message
  | .planSuccess terraformOutput lockUrl => planText terraformOutput lockUrl
  | .applySuccess output => applyText output

def ofKind : Kind → Template
  | .error => .error
  | .failure => .failure
  | .planSuccess => .planSuccess
  | .applySuccess => .applySuccess

def pathLine (s : String × String) : String :=
  " * `" ++ s.1 ++ "`\n"

def sectionText (s : String × String) : String :=
  "## " ++ s.1 ++ "/\n" ++ s.2 ++ "\n---\n"

def singleText (sections : List (String × String)) : String :=
  String.join (sections.map Prod.snd) ++ "\n"

def multiText (command : String) (sections : List (String × String)) : String :=
  "Ran " ++ command ++ " in " ++ toString sections.length ++ " directories:\n"
    ++ String.join (sections.map pathLine) ++ "\n" ++ String.join (sections.map sectionText)

end Template

end PullComment
