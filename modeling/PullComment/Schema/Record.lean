import PullComment.Json.Basic
import PullComment.Outcome

namespace PullComment.Schema

open PullComment

inductive Model where
  | variant (kind : Kind)
  | projectResult
  | commandResponse
  deriving DecidableEq, Repr

namespace Model

def all : List Model :=
  Kind.all.map .variant ++ [.projectResult, .commandResponse]

def name : Model → String
  | .variant .error => "ProjectError"
  | .variant .failure => "ProjectFailure"
  | .variant .planSuccess => "PlanSuccess"
  | .variant .applySuccess => "ApplySuccess"
  | .projectResult => "ProjectResult"
  | .commandResponse => "CommandResponse"

def ofName? (name : String) : Option Model :=
  all.find? fun m => m.name == name

def fieldNames : Model → List String
  | .variant .error => ["kind", "message"]
  | .variant .failure => ["kind", "message"]
  | .variant .planSuccess => ["kind", "terraform_output", "lock_url"]
  | .variant .applySuccess => ["kind", "output"]
  | .projectResult => ["path", "outcome"]
  | .commandResponse => ["error", "failure", "project_results"]

end Model

structure Variant where
  outcome : Outcome
  kindGiven : Bool
  deriving DecidableEq, Repr

structure Result where
  path : String
  variant : Variant
  deriving DecidableEq, Repr

structure ResponseGiven where
  error : Bool
  failure : Bool
  results : Bool
  deriving DecidableEq, Repr

structure Response (ρ : Type) where
  error : Option String
  failure : String
  results : ρ
  given : ResponseGiven
  deriving DecidableEq, Repr

def Response.mapResults {ρ σ : Type} (f : ρ → σ) (r : Response ρ) : Response σ :=
  ⟨r.error, r.failure, f r.results, r.given⟩

inductive Record where
  | variant (v : Variant)
  | result (r : Result)
  | response (r : Response (List Result))
  deriving DecidableEq, Repr

def Variant.kind (v : Variant) : Kind :=
  v.outcome.kind

def Record.model : Record → Model
  | .variant v => .variant v.kind
  | .result _ => .projectResult
  | .response _ => .commandResponse

structure Field where
  name : String
  value : Json
  given : Bool
  default? : Option Json
  deriving DecidableEq, Repr

structure DumpOptions where
  skipUnset : Bool
  skipDefaults : Bool
  skipNull : Bool
  deriving DecidableEq, Repr

def DumpOptions.full : DumpOptions :=
  ⟨false, false, false⟩

def DumpOptions.keeps (o : DumpOptions) (f : Field) : Bool :=
  !(o.skipUnset && !f.given) && !(o.skipDefaults && f.default? == some f.value)
    && !(o.skipNull && f.value == .null)

def dumpFields (o : DumpOptions) (fields : List Field) : Json :=
  .object ((fields.filter o.keeps).map fun f => (f.name, f.value))

def outcomeFields : Outcome → List Field
  | .error message => [⟨"message", .string message, true, none⟩]
  | .failure message => [⟨"message", .string message, true, none⟩]
  | .planSuccess terraformOutput lockUrl =>
      [⟨"terraform_output", .string terraformOutput, true, none⟩, ⟨"lock_url", .string lockUrl, true, none⟩]
  | .applySuccess output => [⟨"output", .string output, true, none⟩]

def Variant.fields (v : Variant) : List Field :=
  let tag := Json.string v.kind.tag
  ⟨"kind", tag, v.kindGiven, some tag⟩ :: outcomeFields v.outcome

def Variant.dump (o : DumpOptions) (v : Variant) : Json :=
  dumpFields o v.fields

namespace Result

def fields (o : DumpOptions) (r : Result) : List Field :=
  [⟨"path", .string r.path, true, none⟩, ⟨"outcome", r.variant.dump o, true, none⟩]

def dump (o : DumpOptions) (r : Result) : Json :=
  dumpFields o (r.fields o)

def content (r : Result) : ProjectResult String :=
  ⟨r.path, some r.variant.outcome⟩

end Result

namespace Response

def fieldsWith {ρ : Type} (results : Json) (r : Response ρ) : List Field :=
  [⟨"error", (r.error.map Json.string).getD .null, r.given.error, some .null⟩,
    ⟨"failure", .string r.failure, r.given.failure, some (.string "")⟩,
    ⟨"project_results", results, r.given.results, some (.array [])⟩]

def fields (o : DumpOptions) (r : Response (List Result)) : List Field :=
  r.fieldsWith (.array (r.results.map (Result.dump o)))

def dump (o : DumpOptions) (r : Response (List Result)) : Json :=
  dumpFields o (r.fields o)

def content (r : Response (List Result)) : CommandResponse String :=
  ⟨r.error, r.failure, r.results.map Result.content⟩

end Response

namespace Record

def fields (o : DumpOptions) : Record → List Field
  | .variant v => v.fields
  | .result r => r.fields o
  | .response r => r.fields o

def dump (o : DumpOptions) (r : Record) : Json :=
  dumpFields o (r.fields o)

def fieldsSet (r : Record) : List String :=
  (((r.fields .full).filter Field.given).map Field.name).mergeSort fun a b => decide (a ≤ b)

def same : Record → Record → Bool
  | .variant a, .variant b => a.outcome == b.outcome
  | .result a, .result b => a.content == b.content
  | .response a, .response b => a.content == b.content
  | _, _ => false

end Record

end PullComment.Schema
