import PullComment.Proofs.Schema.Carried
import PullComment.Proofs.Schema.Kept
import PullComment.Proofs.Schema.Lossless

namespace PullComment.Schema

open Checked Readable

section Readings

theorem Result.keptBy_givenOnly (x : Result) : x.keptBy .givenOnly = x := by
  have hkind : DumpOptions.givenOnly.keeps x.variant.kindField = x.variant.kindGiven :=
    DumpOptions.keeps_givenOnly _
  rw [keptBy, Variant.keptBy, hkind]

theorem Response.keptBy_givenOnly (q : Response (List Result)) :
    q.keptBy .givenOnly = { q with results := if q.given.results then q.results else [] } := by
  have hresults : q.results.map (Result.keptBy .givenOnly) = q.results :=
    (List.map_congr_left fun x _ => x.keptBy_givenOnly).trans (List.map_id _)
  simp only [keptBy, DumpOptions.keeps_givenOnly, hresults]
  rfl

theorem Record.keptBy_givenOnly {r : Record} (h : r.model ≠ .commandResponse) : r.keptBy .givenOnly = r := by
  cases r with
  | variant w => exact congrArg Record.variant (congrArg (Variant.mk w.outcome) (DumpOptions.keeps_givenOnly _))
  | result x => exact congrArg Record.result x.keptBy_givenOnly
  | response q => exact absurd rfl h

end Readings

/-- As a JSON value tells it: outcomes are found by their kinds, which are therefore given, and what a response
was not given has its default. -/
def Record.Told (r : Record) : Prop :=
  r.KeepsKinds .givenOnly ∧ r.Settled

theorem readAs_givenOnly {r : Record} (hvalid : r.Valid) (htold : r.Told) :
    readAs r.model (r.dump .givenOnly) = .ok (r.keptBy .givenOnly) :=
  readAs_kept hvalid htold.1 fun _ => htold.2

section Telling

variable {v : Json}

theorem kindGiven_of_readResult {x : Result} (h : readResult v = .ok x) : x.variant.kindGiven = true := by
  obtain ⟨-, members, outcome, -, -, -, houtcome, -⟩ := readResult_json_eq_ok_iff.mp h
  exact (readTagged_json_eq_ok_iff.mp houtcome).2

theorem kindGiven_of_readResults {results : List Result} (h : readResults v = .ok results) :
    ∀ x ∈ results, x.variant.kindGiven = true := by
  obtain ⟨items, -, hitems⟩ := readResults_json_eq_ok_iff.mp h
  clear h
  induction hitems with
  | nil => simp
  | cons hx _ ih => exact List.forall_mem_cons.mpr ⟨kindGiven_of_readResult hx, ih⟩

theorem eq_absent_of_optional {α : Type} {name : String} {absent a : α} {read : Json → Checked α}
    {members : List (String × Json)} {given : Bool} (h : optional name absent read members = .ok (a, given))
    (hgiven : given = false) : a = absent := by
  rcases optional_eq_ok_iff.mp h with ⟨-, ha, -⟩ | ⟨_, -, -, htrue⟩
  · exact ha
  · cases hgiven.symm.trans htrue

theorem told_of_readResponse {q : Response (List Result)} (h : readResponse v = .ok q) :
    (Record.response q).Told := by
  obtain ⟨members, -, herror, hfailure, hresults, -⟩ := readResponse_json_eq_ok_iff.mp h
  have hkinds : ∀ x ∈ q.results, x.variant.kindGiven = true := by
    rcases optional_eq_ok_iff.mp hresults with ⟨-, hempty, -⟩ | ⟨list, -, hlist, -⟩
    · simp [hempty]
    · exact kindGiven_of_readResults hlist
  exact ⟨fun x hx => (DumpOptions.keeps_givenOnly _).trans (hkinds x hx), eq_absent_of_optional herror,
    eq_absent_of_optional hfailure⟩

theorem told_of_readAs {model : Model} {r : Record} (h : readAs model v = .ok r) : r.Told := by
  cases model with
  | variant kind =>
      obtain ⟨w, -, rfl⟩ := map_eq_ok_iff.mp h
      exact ⟨trivial, trivial⟩
  | projectResult =>
      obtain ⟨x, hx, rfl⟩ := map_eq_ok_iff.mp h
      exact ⟨(DumpOptions.keeps_givenOnly _).trans (kindGiven_of_readResult hx), trivial⟩
  | commandResponse =>
      obtain ⟨q, hq, rfl⟩ := map_eq_ok_iff.mp h
      exact told_of_readResponse hq

end Telling

theorem Input.InJson.told {input : Input} {model : Model} {r : Record} (h : input.InJson)
    (hr : input.validate model = .ok r) : r.Told := by
  obtain ⟨v, hv⟩ := h.exists_readAs hr
  exact told_of_readAs hv

end PullComment.Schema
