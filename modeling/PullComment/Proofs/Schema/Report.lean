import PullComment.Proofs.Schema.Grammar

namespace PullComment.Schema

section Reports

variable {α : Type}

def textReport : Json → List Violation
  | .string _ => []
  | _ => [⟨[], .notAString⟩]

def filledTextReport : Json → List Violation
  | .string s => if s = "" then [⟨[], .tooShort⟩] else []
  | _ => [⟨[], .notAString⟩]

def textOrNullReport : Json → List Violation
  | .null => []
  | v => textReport v

def kindReport (kind : Kind) : Json → List Violation
  | .string s => if s = kind.tag then [] else [⟨[], .wrongKind kind⟩]
  | _ => [⟨[], .wrongKind kind⟩]

def mustBeGiven (report : Json → List Violation) : Option Json → List Violation
  | some v => report v
  | none => [⟨[], .missing⟩]

def mayBeGiven (report : Json → List Violation) : Option Json → List Violation
  | some v => report v
  | none => []

def objectReport (model : Model) (field : String → Option Json → List Violation) : Json → List Violation
  | .object members =>
      (model.fieldNames.flatMap fun name =>
        (field name (Members.get? name members)).map (Violation.under (.field name))) ++
      (unknownNames model.fieldNames members).map fun name => ⟨[.field name], .unknownField⟩
  | _ => [⟨[], .notAModel model⟩]

def outcomeTextReport : Kind → Json → List Violation
  | .error => textReport
  | .failure => filledTextReport
  | .planSuccess => textReport
  | .applySuccess => filledTextReport

def variantField (kind : Kind) (name : String) : Option Json → List Violation :=
  if name = "kind" then mayBeGiven (kindReport kind) else mustBeGiven (outcomeTextReport kind)

def variantReport (kind : Kind) : Json → List Violation :=
  objectReport (.variant kind) (variantField kind)

def outcomeReport : Json → List Violation
  | .object members =>
      match Members.get? "kind" members with
      | none => [⟨[], .tagMissing⟩]
      | some (.string tag) =>
          match Kind.ofTag? tag with
          | some kind => (variantReport kind (.object members)).map (Violation.under (.field tag))
          | none => [⟨[], .tagUnknown tag⟩]
      | some v => [⟨[], .tagUnknown v.shown⟩]
  | _ => [⟨[], .outcomeNotAnObject⟩]

def resultField (name : String) : Option Json → List Violation :=
  if name = "path" then mustBeGiven filledTextReport else mustBeGiven outcomeReport

def resultReport : Json → List Violation :=
  objectReport .projectResult resultField

def itemsReport (start : Nat) (items : List Json) : List Violation :=
  (items.zipIdx start).flatMap fun item => (resultReport item.1).map (Violation.under (.index item.2))

def resultsReport : Json → List Violation
  | .array items => itemsReport 0 items
  | _ => [⟨[], .notAList⟩]

def responseField (name : String) : Option Json → List Violation :=
  if name = "error" then mayBeGiven textOrNullReport
  else if name = "failure" then mayBeGiven textReport
  else mayBeGiven resultsReport

def fieldReport : Model → String → Option Json → List Violation
  | .variant kind => variantField kind
  | .projectResult => resultField
  | .commandResponse => responseField

def report (model : Model) : Json → List Violation :=
  objectReport model (fieldReport model)

end Reports

def Checked.Reports {α : Type} (c : Checked α) (vs : List Violation) : Prop :=
  c.violations = vs ∧ (vs = [] → c.Accepted)

namespace Checked

variable {α β : Type} {vs ws : List Violation}

theorem reports_ok (a : α) : Reports (.ok a) [] :=
  ⟨rfl, fun _ => ⟨a, rfl⟩⟩

theorem reports_fail (cause : Cause) : (fail cause : Checked α).Reports [⟨[], cause⟩] :=
  ⟨rfl, fun h => by cases h⟩

theorem Reports.map {c : Checked α} (h : c.Reports vs) (f : α → β) : Reports (c.map f) vs :=
  ⟨(violations_map f c).trans h.1, fun hnil => accepted_map.mpr (h.2 hnil)⟩

theorem Reports.both {a : Checked α} {b : Checked β} (ha : a.Reports vs) (hb : b.Reports ws) :
    (both a b).Reports (vs ++ ws) := by
  refine ⟨by rw [violations_both, ha.1, hb.1], fun hnil => ?_⟩
  obtain ⟨hvs, hws⟩ := List.append_eq_nil_iff.mp hnil
  exact accepted_both.mpr ⟨ha.2 hvs, hb.2 hws⟩

theorem Reports.under {c : Checked α} (h : c.Reports vs) (segment : Segment) :
    (c.under segment).Reports (vs.map (Violation.under segment)) := by
  refine ⟨by rw [violations_under, h.1], fun hnil => ?_⟩
  exact accepted_under.mpr (h.2 (List.map_eq_nil_iff.mp hnil))

theorem Reports.accepted_iff {c : Checked α} (h : c.Reports vs) : c.Accepted ↔ vs = [] := by
  refine ⟨?_, h.2⟩
  rintro ⟨a, rfl⟩
  exact h.1.symm

theorem Reports.eq_error {c : Checked α} (h : c.Reports vs) (hne : vs ≠ []) : c = .error vs := by
  obtain ⟨rfl, -⟩ := h
  cases c with
  | ok a => exact absurd rfl hne
  | error ws => rfl

end Checked

open Checked Readable

section Reading

variable {α : Type} {members : List (String × Json)}

theorem reports_required {name : String} {read : Json → Checked α} {form : Json → List Violation}
    (h : ∀ v, (read v).Reports (form v)) :
    (required name read members).Reports
      ((mustBeGiven form (Members.get? name members)).map (Violation.under (.field name))) := by
  unfold required
  cases Members.get? name members with
  | none => exact (reports_fail .missing).under _
  | some v => exact (h v).under _

theorem reports_optional {name : String} {absent : α} {read : Json → Checked α}
    {form : Json → List Violation} (h : ∀ v, (read v).Reports (form v)) :
    (optional name absent read members).Reports
      ((mayBeGiven form (Members.get? name members)).map (Violation.under (.field name))) := by
  unfold optional
  cases Members.get? name members with
  | none => exact reports_ok _
  | some v => exact ((h v).under _).map _

theorem reports_noUnknown (declared : List String) :
    (noUnknown declared members).Reports
      ((unknownNames declared members).map fun name => ⟨[.field name], .unknownField⟩) := by
  unfold noUnknown
  cases unknownNames declared members with
  | nil => exact reports_ok ()
  | cons name names => exact ⟨rfl, fun h => by cases h⟩

theorem reports_readText (v : Json) : (readText v).Reports (textReport v) := by
  cases v with
  | string s => exact reports_ok s
  | _ => exact reports_fail .notAString

theorem reports_readFilledText (v : Json) : (readFilledText v).Reports (filledTextReport v) := by
  cases v with
  | string s =>
      show Reports (if s = "" then fail .tooShort else .ok s) (if s = "" then [⟨[], .tooShort⟩] else [])
      split
      · exact reports_fail .tooShort
      · exact reports_ok s
  | _ => exact reports_fail .notAString

theorem reports_readOptionalMessage (v : Json) : (readOptionalMessage v).Reports (textOrNullReport v) := by
  cases v with
  | null => exact reports_ok none
  | string s => exact reports_ok (some s)
  | _ => exact reports_fail .notAString

theorem reports_readKind (kind : Kind) (v : Json) : (readKind kind v).Reports (kindReport kind v) := by
  cases v with
  | string s =>
      show Reports (if s = kind.tag then .ok () else fail (.wrongKind kind))
        (if s = kind.tag then [] else [⟨[], .wrongKind kind⟩])
      split
      · exact reports_ok ()
      · exact reports_fail (.wrongKind kind)
  | _ => exact reports_fail (.wrongKind kind)

theorem reports_readOutcome (kind : Kind) :
    (readOutcome kind members).Reports (((Model.variant kind).fieldNames.tail).flatMap fun name =>
      (mustBeGiven (outcomeTextReport kind) (Members.get? name members)).map
        (Violation.under (.field name))) := by
  cases kind with
  | error =>
      have h : (required "message" readMessage members).Reports _ :=
        reports_required fun v => readMessage_json v ▸ reports_readText v
      simpa [Model.fieldNames, outcomeTextReport, readOutcome] using h.map Outcome.error
  | failure =>
      have h : (required "message" readFilledText members).Reports _ := reports_required reports_readFilledText
      simpa [Model.fieldNames, outcomeTextReport, readOutcome] using h.map Outcome.failure
  | planSuccess =>
      have h : (required "terraform_output" readText members).Reports _ := reports_required reports_readText
      have h' : (required "lock_url" readText members).Reports _ := reports_required reports_readText
      simpa [Model.fieldNames, outcomeTextReport, readOutcome] using
        (h.both h').map fun p => Outcome.planSuccess p.1 p.2
  | applySuccess =>
      have h : (required "output" readFilledText members).Reports _ := reports_required reports_readFilledText
      simpa [Model.fieldNames, outcomeTextReport, readOutcome] using h.map Outcome.applySuccess

theorem reports_readVariantMembers (kind : Kind) :
    (readVariantMembers kind members).Reports (variantReport kind (.object members)) := by
  have hkind : (optional "kind" () (readKind kind) members).Reports _ :=
    reports_optional (reports_readKind kind)
  have houtcome : (readOutcome kind members).Reports _ := reports_readOutcome kind
  have hunknown : (noUnknown (Model.variant kind).fieldNames members).Reports _ := reports_noUnknown _
  have hfields : ((Model.variant kind).fieldNames.flatMap fun name =>
      (variantField kind name (Members.get? name members)).map (Violation.under (.field name))) =
      (mayBeGiven (kindReport kind) (Members.get? "kind" members)).map (Violation.under (.field "kind")) ++
        (Model.variant kind).fieldNames.tail.flatMap fun name =>
          (mustBeGiven (outcomeTextReport kind) (Members.get? name members)).map
            (Violation.under (.field name)) := by
    cases kind <;> simp [Model.fieldNames, variantField]
  rw [variantReport, objectReport, hfields, List.append_assoc]
  exact (hkind.both (houtcome.both hunknown)).map _

theorem reports_readVariant (kind : Kind) (v : Json) : (readVariant kind v).Reports (variantReport kind v) := by
  cases v with
  | object members => exact reports_readVariantMembers kind
  | _ => exact reports_fail (.notAModel (.variant kind))

theorem reports_readTagged (v : Json) : (readTagged v).Reports (outcomeReport v) := by
  cases v with
  | object members =>
      simp only [readTagged, shape, Shape.ofJson, outcomeReport]
      cases Members.get? "kind" members with
      | none => exact reports_fail .tagMissing
      | some tag =>
          cases tag with
          | string s =>
              simp only [readByTag, shape, Shape.ofJson]
              cases Kind.ofTag? s with
              | none => exact reports_fail (.tagUnknown s)
              | some kind => exact (reports_readVariantMembers kind).under (.field s)
          | _ => exact reports_fail _
  | _ => exact reports_fail .outcomeNotAnObject

theorem reports_readResult (v : Json) : (readResult v).Reports (resultReport v) := by
  cases v with
  | object members =>
      have hpath : (required "path" readFilledText members).Reports _ := reports_required reports_readFilledText
      have houtcome : (required "outcome" readTagged members).Reports _ := reports_required reports_readTagged
      have hunknown : (noUnknown Model.projectResult.fieldNames members).Reports _ := reports_noUnknown _
      have h : (readResult (Json.object members)).Reports _ := (hpath.both (houtcome.both hunknown)).map _
      simpa [resultReport, objectReport, resultField, Model.fieldNames] using h
  | _ => exact reports_fail (.notAModel .projectResult)

theorem reports_readItemsFrom (start : Nat) (items : List Json) :
    (all (readItemsFrom start items)).Reports (itemsReport start items) := by
  induction items generalizing start with
  | nil => exact reports_ok []
  | cons item items ih =>
      exact (((reports_readResult item).under (.index start)).both (ih (start + 1))).map _

theorem reports_readResults (v : Json) : (readResults v).Reports (resultsReport v) := by
  cases v with
  | array items => exact reports_readItemsFrom 0 items
  | _ => exact reports_fail .notAList

theorem reports_readResponse (v : Json) :
    (readResponse v).Reports (report .commandResponse v) := by
  cases v with
  | object members =>
      have herror : (optional "error" none readOptionalMessage members).Reports _ :=
        reports_optional reports_readOptionalMessage
      have hfailure : (optional "failure" "" readText members).Reports _ := reports_optional reports_readText
      have hresults : (optional "project_results" [] readResults members).Reports _ :=
        reports_optional reports_readResults
      have hunknown : (noUnknown Model.commandResponse.fieldNames members).Reports _ := reports_noUnknown _
      have h : (readResponse (Json.object members)).Reports _ :=
        (herror.both (hfailure.both (hresults.both hunknown))).map _
      simpa [report, fieldReport, objectReport, responseField, Model.fieldNames] using h
  | _ => exact reports_fail (.notAModel .commandResponse)

theorem reports_readAs (model : Model) (v : Json) : (readAs model v).Reports (report model v) := by
  cases model with
  | variant kind => exact (reports_readVariant kind v).map _
  | projectResult => exact (reports_readResult v).map _
  | commandResponse => exact (reports_readResponse v).map _

end Reading

theorem report_eq_nil_iff {model : Model} {v : Json} : report model v = [] ↔ InGrammar model v :=
  (reports_readAs model v).accepted_iff.symm.trans accepted_readAs

end PullComment.Schema
