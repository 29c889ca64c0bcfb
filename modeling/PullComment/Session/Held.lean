import PullComment.Json.Hash
import PullComment.Json.Printer
import PullComment.Session.Results

namespace PullComment.Session

open PullComment Schema

/-- A list of results is held as a `ρ`: the entries themselves, or the place of a shared list. -/
inductive Held (ρ : Type) where
  | variant (v : Patched ρ Variant)
  | result (r : Patched ρ Result)
  | response (r : Patched ρ (Response ρ))
  deriving DecidableEq, Repr

namespace Held

variable {ρ σ : Type}

def model : Held ρ → Model
  | .variant v => .variant v.base.kind
  | .result _ => .projectResult
  | .response _ => .commandResponse

def entries (number : Nat) : List Result → List Entry
  | [] => []
  | r :: results => .result (.fresh number r) :: entries (number + 1) results

def ofRecord : Record → Held (List Entry)
  | .variant v => .variant (.fresh 0 v)
  | .result r => .result (.fresh 0 r)
  | .response r => .response (.fresh 0 (r.mapResults (entries 1)))

def map (f : ρ → σ) : Held ρ → Held σ
  | .variant v => .variant (v.map id f)
  | .result r => .result (r.map id f)
  | .response r => .response (r.map (Response.mapResults f) f)

def number : Held ρ → Nat
  | .variant v => v.number
  | .result r => r.number
  | .response r => r.number

def renumber (lists numbers : Nat → Nat) : Held Nat → Held Nat
  | .variant v => .variant ((v.map id lists).withNumber (numbers v.number))
  | .result r => .result ((r.map id lists).withNumber (numbers r.number))
  | .response r => .response ((r.map (Response.mapResults lists) lists).withNumber (numbers r.number))

def replace (update : Replaced) (results? : Option (Results ρ)) (names : List String) : Held ρ → Held ρ
  | .variant v => .variant ((v.put update results?).give names)
  | .result r => .result ((r.put update results?).give names)
  | .response r => .response ((r.put update results?).give names)

def replaced : Held ρ → Replaced
  | .variant v => v.replaced
  | .result r => r.replaced
  | .response r => r.replaced

def putIn : Held ρ → List Json
  | .variant v => v.putIn
  | .result r => r.putIn
  | .response r => r.putIn

def named : Held ρ → List String
  | .variant v => v.named
  | .result r => r.named
  | .response r => r.named

def results? : Held ρ → Option (Results ρ)
  | .variant v => v.results?
  | .result r => r.results?
  | .response r => some r.currentResults

def ownTexts : Held ρ → List (String × Json)
  | .response r => [("error", (r.base.error.map Json.string).getD .null), ("failure", .string r.base.failure)]
  | _ => []

def value (name : String) (h : Held ρ) : Except Refusal Json :=
  match (Members.get? name h.replaced).or (Members.get? name h.ownTexts) with
  | some v => .ok v
  | none => .error (.noField h.model.name name)

def results (h : Held ρ) : Except Refusal (Results ρ) :=
  match h.results? with
  | some results => .ok results
  | none => .error (.noField h.model.name resultsName)

def fields (o : DumpOptions) : Held (List Entry) → List Field
  | .variant v => v.fields Variant.fields
  | .result r => r.fields (Result.fields o)
  | .response r => r.responseFields o

def dumpFaults (o : DumpOptions) : Held (List Entry) → List DumpFault
  | .variant v => v.variantFaults
  | .result r => r.resultFaults
  | .response r => r.responseFaults o

def dump (o : DumpOptions) (h : Held (List Entry)) : Except Refusal Json :=
  match h.dumpFaults o with
  | fault :: _ => .error (.undumpable fault)
  | [] => .ok (dumpFields o (h.fields o))

def write (layout : Json.Layout) (h : Held (List Entry)) : Except Refusal String :=
  match h.dumpFaults .full with
  | fault :: _ => .error (.unwritable fault)
  | [] => .ok (Json.print layout (dumpFields .full (h.fields .full)))

def fieldsSet (h : Held (List Entry)) : List String :=
  let given := ((h.fields .full).filter Field.given).map Field.name
  (Members.distinct (given ++ h.named)).mergeSort fun a b => decide (a ≤ b)

def same : Held (List Entry) → Held (List Entry) → Bool
  | .variant a, .variant b => a.sameVariant b
  | .result a, .result b => a.sameResult b
  | .response a, .response b => a.sameResponse b
  | _, _ => false

def hashable : Held (List Entry) → List Json
  | .variant v => v.values
  | .result r => r.path :: r.outcomeValue?.toList
  | .response r => [r.errorValue, r.failureValue, r.currentResults.asHashed]

def checkHashable (h : Held (List Entry)) : Except Refusal Unit :=
  h.hashable.forM Session.checkHashable

/-- Stands for the hash of a record, which is that of the row of its values whatever its model is. -/
def hashed : Held (List Entry) → Json
  | .variant v => v.hashed
  | .result r => .array [r.path.hashed, r.outcomeHashed]
  | .response r => .array [r.errorValue.hashed, r.failureValue.hashed, r.currentResults.asHashed.hashed]

def sameHash (a b : Held (List Entry)) : Bool :=
  a.hashed == b.hashed

def content (h : Held (List Entry)) : Except Refusal (CommandResponse Json) := do
  let error ← h.value "error"
  chosenContent error (h.value "failure") (h.results.bind Results.content)

end Held

end PullComment.Session
