import PullComment.Proofs.Json.RoundTrip
import PullComment.Proofs.Schema.Kept
import PullComment.Proofs.Session.Fresh

namespace PullComment.Schema

open Checked

def Variant.complete (w : Variant) : Variant :=
  ⟨w.outcome, true⟩

def Result.complete (r : Result) : Result :=
  ⟨r.path, r.variant.complete⟩

def Record.complete : Record → Record
  | .variant w => .variant w.complete
  | .result r => .result r.complete
  | .response r => .response ⟨r.error, r.failure, r.results.map Result.complete, ⟨true, true, true⟩⟩

def Record.inner : Record → List Record
  | .variant w => [.variant w]
  | .result r => [.result r, .variant r.variant]
  | .response r => .response r :: r.results.flatMap fun x => [.result x, .variant x.variant]

theorem Record.same_complete (r : Record) : r.complete.same r = true := by
  cases r with
  | variant w => exact beq_self_eq_true w.outcome
  | result r => exact beq_self_eq_true r.content
  | response r =>
      have hresults : (r.results.map Result.complete).map Result.content = r.results.map Result.content := by
        rw [List.map_map]
        rfl
      simp only [complete, same, Response.content, hresults, beq_self_eq_true]

theorem Record.mem_fieldsSet_of_all_given {r : Record} (h : ∀ f ∈ r.fields .full, f.given = true) :
    ∀ name ∈ r.model.fieldNames, name ∈ r.fieldsSet := by
  intro name hname
  rw [← r.map_name_fields .full] at hname
  obtain ⟨f, hf, rfl⟩ := List.mem_map.mp hname
  exact mem_fieldsSet.mpr ⟨f, hf, h f hf, rfl⟩

theorem Variant.given_of_mem_fields_complete (w : Variant) : ∀ f ∈ w.complete.fields, f.given = true := by
  obtain ⟨o, given⟩ := w
  cases o <;> simp [complete, fields, outcomeFields]

theorem Record.given_of_mem_inner_complete (r : Record) :
    ∀ s ∈ r.complete.inner, ∀ f ∈ s.fields .full, f.given = true := by
  have hresult (x : Result) : ∀ f ∈ (Record.result x.complete).fields .full, f.given = true := by
    simp [fields, Result.fields]
  cases r with
  | variant w =>
      intro s hs
      obtain rfl := List.mem_singleton.mp hs
      exact w.given_of_mem_fields_complete
  | result x =>
      intro s hs
      simp only [complete, inner, List.mem_cons, List.not_mem_nil, or_false] at hs
      rcases hs with rfl | rfl
      · exact hresult x
      · exact x.variant.given_of_mem_fields_complete
  | response r =>
      intro s hs
      simp only [complete, inner, List.mem_cons, List.mem_flatMap, List.mem_map, List.not_mem_nil,
        or_false, exists_exists_and_eq_and] at hs
      rcases hs with rfl | ⟨x, -, rfl | rfl⟩
      · simp [fields, Response.fields, Response.fieldsWith]
      · exact hresult x
      · exact x.variant.given_of_mem_fields_complete

theorem plain_dumpFields {n : Nat} {o : DumpOptions} {fields : List Field}
    (h : ∀ f ∈ fields, f.value.Plain n) : (dumpFields o fields).Plain (n + 1) := by
  refine .object fun m hm => ?_
  obtain ⟨f, hf, rfl⟩ := List.mem_map.mp hm
  exact h f (List.mem_of_mem_filter hf)

theorem Variant.plain_dump (o : DumpOptions) (w : Variant) : (w.dump o).Plain 2 := by
  obtain ⟨outcome, given⟩ := w
  refine plain_dumpFields fun f hf => ?_
  cases outcome <;>
    simp only [fields, outcomeFields, List.mem_cons, List.not_mem_nil, or_false] at hf <;>
    rcases hf with rfl | rfl | rfl <;> exact .string _

theorem Result.plain_dump (o : DumpOptions) (r : Result) : (r.dump o).Plain 3 := by
  refine plain_dumpFields fun f hf => ?_
  simp only [fields, List.mem_cons, List.not_mem_nil, or_false] at hf
  rcases hf with rfl | rfl
  · exact (Json.Plain.string r.path).mono (by decide)
  · exact r.variant.plain_dump o

theorem Response.plain_dump (o : DumpOptions) (r : Response (List Result)) : (r.dump o).Plain 5 := by
  refine plain_dumpFields fun f hf => ?_
  simp only [fields, fieldsWith, List.mem_cons, List.not_mem_nil, or_false] at hf
  rcases hf with rfl | rfl | rfl
  · cases r.error with
    | none => exact Json.Plain.null.mono (by decide)
    | some message => exact (Json.Plain.string message).mono (by decide)
  · exact (Json.Plain.string r.failure).mono (by decide)
  · refine .array fun item hitem => ?_
    obtain ⟨x, -, rfl⟩ := List.mem_map.mp hitem
    exact x.plain_dump o

theorem Record.plain_dump (o : DumpOptions) (r : Record) : (r.dump o).Plain Json.Reading.levelLimit := by
  cases r with
  | variant w => exact (w.plain_dump o).mono (by decide)
  | result r => exact (r.plain_dump o).mono (by decide)
  | response r => exact (r.plain_dump o).mono (by decide)

theorem keeps_full (f : Field) : DumpOptions.full.keeps f = true := by
  simp [DumpOptions.keeps, DumpOptions.full]

theorem Variant.keptBy_full (w : Variant) : w.keptBy .full = w.complete := by
  rw [keptBy, keeps_full, complete]

theorem Result.keptBy_full (r : Result) : r.keptBy .full = r.complete := by
  rw [keptBy, r.variant.keptBy_full, complete]

theorem readVariant_dump {w : Variant} (h : w.outcome.Filled) :
    readVariant w.kind (w.dump .full) = .ok w.complete := by
  rw [readVariant_kept .full h, w.keptBy_full]

theorem readResult_dump {r : Result} (h : r.Valid) : readResult (r.dump .full) = .ok r.complete := by
  rw [readResult_kept h (keeps_full _), r.keptBy_full]

theorem readResponse_dump {r : Response (List Result)} (h : ∀ x ∈ r.results, x.Valid) :
    readResponse (r.dump .full) =
      .ok ⟨r.error, r.failure, r.results.map Result.complete, ⟨true, true, true⟩⟩ := by
  have hresults : r.results.map (Result.keptBy .full) = r.results.map Result.complete :=
    List.map_congr_left fun x _ => x.keptBy_full
  rw [readResponse_kept h (fun x _ => keeps_full x.variant.kindField) (fun hunset => by cases hunset),
    Response.keptBy, if_pos (keeps_full _), hresults, keeps_full, keeps_full, keeps_full]

theorem readAs_dump {r : Record} (h : r.Valid) : readAs r.model (r.dump .full) = .ok r.complete := by
  cases r with
  | variant w => exact map_eq_ok_iff.mpr ⟨_, readVariant_dump h, rfl⟩
  | result r => exact map_eq_ok_iff.mpr ⟨_, readResult_dump h, rfl⟩
  | response r => exact map_eq_ok_iff.mpr ⟨_, readResponse_dump h, rfl⟩

theorem validate_print {r : Record} (h : r.Valid) (layout : Json.Layout) :
    (Input.text (Json.print layout (r.dump .full))).validate r.model = .ok r.complete := by
  rw [Input.validate, Input.readWith, validated_eq_ok_iff, readJsonText, Json.parse_print (r.plain_dump .full)]
  exact reported_eq_ok_iff.mpr (readAs_dump h)

theorem Record.keys_dump_full (r : Record) :
    r.AtEachLevel (fun s members => members.map Prod.fst = s.model.fieldNames) (r.dump .full) := by
  refine r.atEachLevel_dump .full fun s => ?_
  rw [List.filter_eq_self.mpr fun f _ => by simp [DumpOptions.keeps, DumpOptions.full], List.map_map,
    ← s.map_name_fields .full]
  rfl

/-- The text of a validated record holds its dump, field after field, and reads back as an equal record. -/
theorem written_record_reads_back {model : Model} {input : Input} {r : Record}
    (h : input.validate model = .ok r) (layout : Json.Layout) :
    let text := Json.print layout (r.dump .full)
    (Session.Held.ofRecord r).write layout = .ok text ∧
    Json.parse text = some (r.dump .full) ∧
    r.AtEachLevel (fun s members => members.map Prod.fst = s.model.fieldNames) (r.dump .full) ∧
    ∃ s, (Input.text text).validate model = .ok s ∧ s.same r = true ∧
      ∀ t ∈ s.inner, ∀ name ∈ t.model.fieldNames, name ∈ t.fieldsSet := by
  obtain ⟨rfl, hvalid⟩ := Input.validate_valid h
  refine ⟨Session.Held.write_ofRecord layout r, Json.parse_print (r.plain_dump .full) layout,
    r.keys_dump_full, r.complete, validate_print hvalid layout, r.same_complete, ?_⟩
  exact fun t ht => Record.mem_fieldsSet_of_all_given (r.given_of_mem_inner_complete t ht)

theorem written_record_reads_back_escaped :
    let input : Input := .json (.object [("project_results", .array [.object [("path", .string "a\"\\\n\x01"),
      ("outcome", .object [("message", .string "é\x7f"), ("kind", .string "failure")])]])])
    let r : Record := .response ⟨none, "", [⟨"a\"\\\n\x01", ⟨.failure "é\x7f", true⟩⟩], ⟨false, false, true⟩⟩
    input.validate .commandResponse = .ok r ∧
    ∃ s, (Input.text (Json.print (.indented 0) (r.dump .full))).validate .commandResponse = .ok s ∧
      s.same r = true ∧
      ∀ t ∈ s.inner, ∀ name ∈ t.model.fieldNames, name ∈ t.fieldsSet := by
  intro input r
  have h : input.validate .commandResponse = .ok r := by rfl
  exact ⟨h, (written_record_reads_back h (.indented 0)).2.2.2⟩

end PullComment.Schema
