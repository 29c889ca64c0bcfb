import Mathlib.Data.List.Nodup
import PullComment.Proofs.Schema.Dump
import PullComment.Proofs.Schema.Valid

namespace PullComment.Schema

open Checked Readable

section Fields

variable {o : DumpOptions} {fields : List Field} {f : Field}

theorem DumpOptions.keeps_eq_false_iff : o.keeps f = false ↔
    o.skipUnset = true ∧ f.given = false ∨ o.skipDefaults = true ∧ f.default? = some f.value ∨
      o.skipNull = true ∧ f.value = .null := by
  simp only [keeps, Bool.and_eq_false_iff, Bool.not_eq_false', Bool.and_eq_true, Bool.not_eq_true',
    beq_iff_eq, or_assoc]

theorem DumpOptions.keeps_of_given (hgiven : f.given = true) (hdefault : f.default? = none)
    (hnull : f.value ≠ .null) : o.keeps f = true := by
  rw [← Bool.not_eq_false, keeps_eq_false_iff]
  simp [hgiven, hdefault, hnull]

def DumpOptions.kept? (o : DumpOptions) (f : Field) : Option Json :=
  if o.keeps f then some f.value else none

theorem get?_kept (h : (fields.map Field.name).Nodup) (hf : f ∈ fields) :
    Members.get? f.name ((fields.filter o.keeps).map member) = o.kept? f := by
  unfold DumpOptions.kept?
  split
  · rename_i hkeeps
    have hsublist : ((fields.filter o.keeps).map Field.name).Sublist (fields.map Field.name) :=
      List.filter_sublist.map Field.name
    exact get?_map_member (h.sublist hsublist) (List.mem_filter.mpr ⟨hf, hkeeps⟩)
  · rename_i hkeeps
    rw [← Option.not_isSome_iff_eq_none]
    intro hsome
    obtain ⟨v, hv⟩ := Option.isSome_iff_exists.mp hsome
    obtain ⟨g, hg, hname, -⟩ := exists_of_get?_map_member hv
    obtain ⟨hg, hkept⟩ := List.mem_filter.mp hg
    obtain rfl : g = f := List.inj_on_of_nodup_map h hg hf hname
    exact hkeeps hkept

theorem DumpOptions.kept?_of_keeps (h : o.keeps f = true) : o.kept? f = some f.value :=
  if_pos h

theorem DumpOptions.kept?_of_not_keeps (h : o.keeps f = false) : o.kept? f = none :=
  if_neg (Bool.not_eq_true _ ▸ h)

def Field.keptBy (o : DumpOptions) (f : Field) : Field :=
  { f with given := o.keeps f }

theorem Field.agrees_keptBy (h : (fields.map Field.name).Nodup) (hf : f ∈ fields)
    (hdefault : o.keeps f = false → f.default? = some f.value) :
    (f.keptBy o).Agrees Eq ((fields.filter o.keeps).map member) := by
  have hget : Members.get? f.name ((fields.filter o.keeps).map member) = o.kept? f := get?_kept h hf
  cases hkeeps : o.keeps f with
  | true => exact .inl ⟨hkeeps, f.value, hget.trans (DumpOptions.kept?_of_keeps hkeeps), rfl⟩
  | false => exact .inr ⟨hkeeps, hget.trans (DumpOptions.kept?_of_not_keeps hkeeps), hdefault hkeeps⟩

theorem optional_kept {α : Type} {read : Json → Checked α} {absent a : α}
    (h : (fields.map Field.name).Nodup) (hf : f ∈ fields) (hread : o.keeps f = true → read f.value = .ok a)
    (habsent : o.keeps f = false → a = absent) :
    optional f.name absent read ((fields.filter o.keeps).map member) = .ok (a, o.keeps f) := by
  have hget : Members.get? f.name ((fields.filter o.keeps).map member) = o.kept? f := get?_kept h hf
  rw [optional_eq_ok_iff]
  cases hkeeps : o.keeps f with
  | true => exact .inr ⟨f.value, hget.trans (DumpOptions.kept?_of_keeps hkeeps), hread hkeeps, rfl⟩
  | false => exact .inl ⟨hget.trans (DumpOptions.kept?_of_not_keeps hkeeps), habsent hkeeps, rfl⟩

theorem mem_names_of_kept {name : String} (h : name ∈ ((fields.filter o.keeps).map member).map Prod.fst) :
    name ∈ fields.map Field.name := by
  rw [List.map_map] at h
  exact (List.filter_sublist.map Field.name).subset h

end Fields

section Variants

def Variant.kindField (w : Variant) : Field :=
  ⟨"kind", .string w.kind.tag, w.kindGiven, some (.string w.kind.tag)⟩

def Variant.keptBy (o : DumpOptions) (w : Variant) : Variant :=
  ⟨w.outcome, o.keeps w.kindField⟩

theorem outcomeFields_given {outcome : Outcome} {f : Field} (hf : f ∈ outcomeFields outcome) :
    f.given = true ∧ f.default? = none ∧ f.value ≠ .null := by
  cases outcome <;> simp only [outcomeFields, List.mem_cons, List.not_mem_nil, or_false] at hf <;>
    rcases hf with rfl | rfl <;> simp

theorem keeps_of_mem_outcomeFields (o : DumpOptions) {outcome : Outcome} {f : Field}
    (hf : f ∈ outcomeFields outcome) : o.keeps f = true := by
  obtain ⟨hgiven, hdefault, hnull⟩ := outcomeFields_given hf
  exact DumpOptions.keeps_of_given hgiven hdefault hnull

theorem Variant.fields_keptBy (o : DumpOptions) (w : Variant) :
    (w.keptBy o).fields = w.fields.map (Field.keptBy o) := by
  have hfield : ∀ f ∈ outcomeFields w.outcome, f.keptBy o = f := fun f hf => by
    rw [Field.keptBy, keeps_of_mem_outcomeFields o hf, ← (outcomeFields_given hf).1]
  have houtcome : (outcomeFields w.outcome).map (Field.keptBy o) = outcomeFields w.outcome :=
    (List.map_congr_left hfield).trans (List.map_id _)
  exact congrArg (w.kindField.keptBy o :: ·) houtcome.symm

theorem Variant.default_of_not_kept {o : DumpOptions} {w : Variant} :
    ∀ f ∈ w.fields, o.keeps f = false → f.default? = some f.value := by
  refine List.forall_mem_cons.mpr ⟨fun _ => rfl, fun f hf hkeeps => ?_⟩
  rw [keeps_of_mem_outcomeFields o hf] at hkeeps
  cases hkeeps

theorem Variant.nodup_map_name_fields (w : Variant) : (w.fields.map Field.name).Nodup :=
  w.map_name_fields ▸ Model.nodup_fieldNames _

theorem readVariant_kept (o : DumpOptions) {w : Variant} (h : w.outcome.Filled) :
    readVariant w.kind (w.dump o) = .ok (w.keptBy o) := by
  refine readVariant_json_eq_ok_iff.mpr ⟨rfl, h, _, rfl, ?_, fun name hname => ?_⟩
  · rw [Variant.fields_keptBy, List.forall_mem_map]
    exact fun f hf => Field.agrees_keptBy w.nodup_map_name_fields hf (Variant.default_of_not_kept f hf)
  · exact w.map_name_fields ▸ mem_names_of_kept hname

theorem readTagged_kept {o : DumpOptions} {w : Variant} (h : w.outcome.Filled)
    (hkind : o.keeps w.kindField = true) : readTagged (w.dump o) = .ok (w.keptBy o) :=
  readTagged_json_eq_ok_iff.mpr ⟨readVariant_kept o h, hkind⟩

end Variants

section Results

def Result.keptBy (o : DumpOptions) (r : Result) : Result :=
  ⟨r.path, r.variant.keptBy o⟩

theorem Result.keeps_of_mem_fields (o : DumpOptions) (r : Result) : ∀ f ∈ r.fields o, o.keeps f = true := by
  refine List.forall_mem_cons.mpr ⟨?_, List.forall_mem_singleton.mpr ?_⟩
  · exact DumpOptions.keeps_of_given rfl rfl (by simp)
  · exact DumpOptions.keeps_of_given rfl rfl (by simp [Variant.dump, dumpFields])

theorem Result.dump_eq (o : DumpOptions) (r : Result) : r.dump o = .object ((r.fields o).map member) := by
  rw [dump, dumpFields, List.filter_eq_self.mpr (r.keeps_of_mem_fields o)]
  rfl

theorem readResult_kept {o : DumpOptions} {r : Result} (h : r.Valid)
    (hkind : o.keeps r.variant.kindField = true) : readResult (r.dump o) = .ok (r.keptBy o) :=
  readResult_json_eq_ok_iff.mpr ⟨h.1, _, r.variant.dump o, r.dump_eq o, rfl, rfl, readTagged_kept h.2 hkind, by
    simp [Result.fields, member, Model.fieldNames]⟩

end Results

namespace Response

variable {ρ : Type}

def errorField (r : Response ρ) : Field :=
  ⟨"error", (r.error.map Json.string).getD .null, r.given.error, some .null⟩

def failureField (r : Response ρ) : Field :=
  ⟨"failure", .string r.failure, r.given.failure, some (.string "")⟩

def resultsField (o : DumpOptions) (r : Response (List Result)) : Field :=
  ⟨"project_results", .array (r.results.map (Result.dump o)), r.given.results, some (.array [])⟩

def keptBy (o : DumpOptions) (r : Response (List Result)) : Response (List Result) :=
  ⟨r.error, r.failure, if o.keeps (r.resultsField o) then r.results.map (Result.keptBy o) else [],
    ⟨o.keeps r.errorField, o.keeps r.failureField, o.keeps (r.resultsField o)⟩⟩

def Settled (r : Response ρ) : Prop :=
  (r.given.error = false → r.error = none) ∧ (r.given.failure = false → r.failure = "")

theorem error_of_not_kept {o : DumpOptions} {r : Response ρ} (h : o.skipUnset = true → r.Settled)
    (hkeeps : o.keeps r.errorField = false) : r.error = none := by
  have hnull : (r.error.map Json.string).getD .null = .null → r.error = none := by
    cases r.error <;> simp
  rcases DumpOptions.keeps_eq_false_iff.mp hkeeps with ⟨hskip, hgiven⟩ | ⟨-, hdefault⟩ | ⟨-, hvalue⟩
  · exact (h hskip).1 hgiven
  · exact hnull (Option.some.inj hdefault).symm
  · exact hnull hvalue

theorem failure_of_not_kept {o : DumpOptions} {r : Response ρ} (h : o.skipUnset = true → r.Settled)
    (hkeeps : o.keeps r.failureField = false) : r.failure = "" := by
  rcases DumpOptions.keeps_eq_false_iff.mp hkeeps with ⟨hskip, hgiven⟩ | ⟨-, hdefault⟩ | ⟨-, hvalue⟩
  · exact (h hskip).2 hgiven
  · exact (Json.string.inj (Option.some.inj hdefault)).symm
  · cases hvalue

end Response

theorem Response.fields_eq (o : DumpOptions) (r : Response (List Result)) :
    r.fields o = [r.errorField, r.failureField, r.resultsField o] :=
  rfl

theorem readResponse_kept {o : DumpOptions} {r : Response (List Result)} (hvalid : ∀ x ∈ r.results, x.Valid)
    (hkinds : ∀ x ∈ r.results, o.keeps x.variant.kindField = true) (hset : o.skipUnset = true → r.Settled) :
    readResponse (r.dump o) = .ok (r.keptBy o) := by
  have hnodup : ((r.fields o).map Field.name).Nodup := Model.nodup_fieldNames .commandResponse
  have hresults : readResults (r.resultsField o).value = .ok (r.results.map (Result.keptBy o)) := by
    refine readResults_json_eq_ok_iff.mpr ⟨_, rfl, ?_⟩
    rw [List.forall₂_map_left_iff, List.forall₂_map_right_iff]
    exact List.forall₂_same.mpr fun x hx => readResult_kept (hvalid x hx) (hkinds x hx)
  refine readResponse_json_eq_ok_iff.mpr ⟨_, rfl, ?_, ?_, ?_, fun name hname => mem_names_of_kept hname⟩
  · exact optional_kept (f := r.errorField) hnodup (by simp [Response.fields_eq])
      (fun _ => readOptionalMessage_json_eq_ok_iff.mpr rfl) (Response.error_of_not_kept hset)
  · exact optional_kept (f := r.failureField) hnodup (by simp [Response.fields_eq]) (fun _ => rfl)
      (Response.failure_of_not_kept hset)
  · refine optional_kept (f := r.resultsField o) hnodup (by simp [Response.fields_eq]) (fun hkeeps => ?_)
      fun hkeeps => ?_
    · rw [hresults, Response.keptBy, if_pos hkeeps]
    · rw [Response.keptBy, if_neg (Bool.not_eq_true _ ▸ hkeeps)]

namespace Record

def keptBy (o : DumpOptions) : Record → Record
  | .variant w => .variant (w.keptBy o)
  | .result r => .result (r.keptBy o)
  | .response r => .response (r.keptBy o)

def KeepsKinds (o : DumpOptions) : Record → Prop
  | .variant _ => True
  | .result r => o.keeps r.variant.kindField = true
  | .response r => ∀ x ∈ r.results, o.keeps x.variant.kindField = true

def KeepsResults (o : DumpOptions) : Record → Prop
  | .response r => o.keeps (r.resultsField o) = true ∨ r.results = []
  | _ => True

def Settled : Record → Prop
  | .response r => r.Settled
  | _ => True

theorem same_keptBy_iff {o : DumpOptions} {r : Record} : (r.keptBy o).same r = true ↔ r.KeepsResults o := by
  cases r with
  | variant w => exact iff_of_true (beq_self_eq_true w.outcome) trivial
  | result r => exact iff_of_true (beq_self_eq_true r.content) trivial
  | response r =>
      have hcontent : (r.results.map (Result.keptBy o)).map Result.content = r.results.map Result.content := by
        rw [List.map_map]
        rfl
      show ((r.keptBy o).content == r.content) = true ↔ _
      rw [beq_iff_eq, Response.keptBy, KeepsResults]
      cases o.keeps (r.resultsField o) with
      | true => simp [Response.content, hcontent]
      | false => simp [Response.content, eq_comm]

end Record

theorem readAs_kept {o : DumpOptions} {r : Record} (h : r.Valid) (hkinds : r.KeepsKinds o)
    (hset : o.skipUnset = true → r.Settled) : readAs r.model (r.dump o) = .ok (r.keptBy o) := by
  cases r with
  | variant w => exact map_eq_ok_iff.mpr ⟨_, readVariant_kept o h, rfl⟩
  | result r => exact map_eq_ok_iff.mpr ⟨_, readResult_kept h hkinds, rfl⟩
  | response r => exact map_eq_ok_iff.mpr ⟨_, readResponse_kept h hkinds hset, rfl⟩

end PullComment.Schema
