import PullComment.Json.Hash
import PullComment.Json.Magnitude
import PullComment.Json.Shown
import PullComment.Session.Refusal

namespace PullComment.Session

open PullComment Schema

abbrev Replaced := List (String × Json)

def resultsName : String :=
  "project_results"

inductive Results (ρ : Type) where
  | list (l : ρ)
  | plain (v : Json)
  deriving DecidableEq, Repr

def Results.map {ρ σ : Type} (f : ρ → σ) : Results ρ → Results σ
  | .list l => .list (f l)
  | .plain v => .plain v

def Results.list? {ρ : Type} : Results ρ → Option ρ
  | .list l => some l
  | .plain _ => none

def Results.plain? {ρ : Type} : Results ρ → Option Json
  | .list _ => none
  | .plain v => some v

/-- A record as it was validated, with what has been put in since, the results apart, and the names of
what counts as given through that. Records of one number share their fields. -/
structure Patched (ρ α : Type) where
  base : α
  replaced : Replaced
  results? : Option (Results ρ)
  named : List String
  number : Nat
  deriving DecidableEq, Repr

instance : Label Json := ⟨Json.alike, Json.shown, Json.quoted⟩

def hashable : Json → Bool
  | .array _ => false
  | .object _ => false
  | _ => true

def checkHashable (v : Json) : Except Refusal Unit :=
  if hashable v then .ok () else .error (.unhashable v.kindName)

def dumpLevelLimit : Nat :=
  255

def depthFault? (v : Json) : Option DumpFault :=
  if v.levels ≤ dumpLevelLimit then none else some .tooDeep

def tagFault? (outcome : Json) : Option DumpFault :=
  match outcome with
  | .object members =>
      (Members.get? "kind" members).bind fun tag =>
        if hashable tag then none else some (.unhashableTag tag.kindName)
  | _ => none

namespace Patched

variable {α β ρ σ : Type}

def fresh (number : Nat) (base : α) : Patched ρ α :=
  ⟨base, [], none, [], number⟩

def map (f : α → β) (g : ρ → σ) (p : Patched ρ α) : Patched σ β :=
  ⟨f p.base, p.replaced, p.results?.map (Results.map g), p.named, p.number⟩

def put (update : Replaced) (results? : Option (Results ρ)) (p : Patched ρ α) : Patched ρ α :=
  { p with replaced := p.replaced ++ update, results? := results?.or p.results? }

def give (names : List String) (p : Patched ρ α) : Patched ρ α :=
  { p with named := p.named ++ names }

def withNumber (number : Nat) (p : Patched ρ α) : Patched ρ α :=
  { p with number := number }

def value? (name : String) (p : Patched ρ α) : Option Json :=
  Members.get? name p.replaced

def value (name : String) (present : Json) (p : Patched ρ α) : Json :=
  (p.value? name).getD present

def field (p : Patched ρ α) (f : Field) : Field :=
  { f with value := p.value f.name f.value, given := f.given || p.named.contains f.name }

def fields (own : α → List Field) (p : Patched ρ α) : List Field :=
  (own p.base).map p.field

def putIn (p : Patched ρ α) : List Json :=
  p.replaced.map Prod.snd ++ (p.results?.bind Results.plain?).toList

def values (v : Patched ρ Variant) : List Json :=
  (v.fields Variant.fields).map Field.value

def sameVariant (a b : Patched ρ Variant) : Bool :=
  a.base.kind == b.base.kind && Json.alikeItems a.values b.values

def variantFaults (v : Patched ρ Variant) : List DumpFault :=
  v.values.filterMap depthFault?

def hashed (v : Patched ρ Variant) : Json :=
  .array (v.values.map Json.hashed)

def path (r : Patched ρ Result) : Json :=
  r.value "path" (.string r.base.path)

def outcomeValue? (r : Patched ρ Result) : Option Json :=
  r.value? "outcome"

def sameResult (a b : Patched ρ Result) : Bool :=
  a.path.alike b.path &&
    match a.outcomeValue?, b.outcomeValue? with
    | none, none => a.base.variant.outcome == b.base.variant.outcome
    | some v, some w => v.alike w
    | _, _ => false

def outcomeHashed (r : Patched ρ Result) : Json :=
  match r.outcomeValue? with
  | some v => v.hashed
  | none => .array ((Variant.fields r.base.variant).map fun f => f.value.hashed)

def resultFaults (r : Patched ρ Result) : List DumpFault :=
  let outcome := r.outcomeValue?.toList
  (depthFault? r.path).toList ++ outcome.filterMap tagFault? ++ outcome.filterMap depthFault?

def resultContent (r : Patched ρ Result) : ProjectResult Json :=
  ⟨r.path, if r.outcomeValue?.isSome then none else some r.base.variant.outcome⟩

end Patched

end PullComment.Session
