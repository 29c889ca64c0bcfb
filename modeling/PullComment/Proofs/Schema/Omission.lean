import PullComment.Proofs.Schema.Carried
import PullComment.Proofs.Schema.Kept

namespace PullComment.Schema

open Checked

def DumpOptions.notNull : DumpOptions :=
  ⟨false, false, true⟩

def DumpOptions.notDefault : DumpOptions :=
  ⟨false, true, false⟩

theorem Variant.keeps_kindField_notNull (w : Variant) : DumpOptions.notNull.keeps w.kindField = true := by
  simp [DumpOptions.keeps, DumpOptions.notNull, kindField]

theorem Variant.keeps_kindField_notDefault (w : Variant) : DumpOptions.notDefault.keeps w.kindField = false := by
  simp [DumpOptions.keeps, DumpOptions.notDefault, kindField]

theorem report_dumpFields (model : Model) {fields : List Field} (o : DumpOptions)
    (hnames : fields.map Field.name = model.fieldNames) :
    report model (dumpFields o fields) = fields.flatMap fun f =>
      (fieldReport model f.name (o.kept? f)).map (Violation.under (.field f.name)) := by
  have hnodup : (fields.map Field.name).Nodup := hnames ▸ model.nodup_fieldNames
  have hunknown : unknownEntries model ((fields.filter o.keeps).map member) = [] := by
    rw [unknownEntries, unknownNames_eq_nil_iff.mpr fun name hname => hnames ▸ mem_names_of_kept hname]
    rfl
  show report model (.object ((fields.filter o.keeps).map member)) = _
  rw [report_object, hunknown, List.append_nil, ← hnames, List.flatMap_map]
  exact List.flatMap_congr fun f hf => by rw [fieldEntries, get?_kept hnodup hf]

section WithoutDefaults

theorem outcomeReport_notDefault (w : Variant) : outcomeReport (w.dump .notDefault) = [⟨[], .tagMissing⟩] := by
  have hkind : Members.get? "kind" ((w.fields.filter DumpOptions.notDefault.keeps).map member) = none :=
    (get?_kept (f := w.kindField) w.nodup_map_name_fields List.mem_cons_self).trans
      (DumpOptions.kept?_of_not_keeps w.keeps_kindField_notDefault)
  show outcomeReport (.object ((w.fields.filter DumpOptions.notDefault.keeps).map member)) = _
  rw [outcomeReport, hkind]

theorem resultReport_notDefault {r : Result} (h : r.path ≠ "") :
    resultReport (r.dump .notDefault) = [⟨[.field "outcome"], .tagMissing⟩] := by
  have hpath : filledTextReport (.string r.path) = [] := by rw [filledTextReport, if_neg h]
  have hfields : resultReport (r.dump .notDefault) = (r.fields .notDefault).flatMap fun f =>
      (resultField f.name (some f.value)).map (Violation.under (.field f.name)) := by
    refine (report_dumpFields .projectResult .notDefault rfl).trans (List.flatMap_congr fun f hf => ?_)
    rw [DumpOptions.kept?_of_keeps (r.keeps_of_mem_fields .notDefault f hf)]
    rfl
  rw [hfields, Result.fields]
  simp [resultField, mustBeGiven, hpath, outcomeReport_notDefault, Violation.under]

theorem itemsReport_notDefault {results : List Result} (h : ∀ r ∈ results, r.Valid) (start : Nat) :
    itemsReport start (results.map (Result.dump .notDefault)) =
      (List.range' start results.length).map fun i => ⟨[.index i, .field "outcome"], .tagMissing⟩ := by
  induction results generalizing start with
  | nil => rfl
  | cons r results ih =>
      obtain ⟨hr, hresults⟩ := List.forall_mem_cons.mp h
      rw [List.map_cons, itemsReport_cons, resultReport_notDefault hr.1, ih hresults, List.length_cons,
        List.range'_succ, List.map_cons]
      rfl

theorem resultsField_notDefault (r : Response (List Result)) :
    fieldReport .commandResponse (r.resultsField .notDefault).name
        (DumpOptions.notDefault.kept? (r.resultsField .notDefault)) =
      itemsReport 0 (r.results.map (Result.dump .notDefault)) := by
  cases hkeeps : DumpOptions.notDefault.keeps (r.resultsField .notDefault) with
  | true =>
      rw [DumpOptions.kept?_of_keeps hkeeps]
      rfl
  | false =>
      have hnone : r.results = [] := by
        simpa [Response.resultsField, DumpOptions.notDefault] using DumpOptions.keeps_eq_false_iff.mp hkeeps
      rw [DumpOptions.kept?_of_not_keeps hkeeps, hnone]
      rfl

theorem report_response_notDefault {r : Response (List Result)} (h : ∀ x ∈ r.results, x.Valid) :
    report .commandResponse (r.dump .notDefault) = (List.range r.results.length).map fun i =>
      ⟨[.field "project_results", .index i, .field "outcome"], .tagMissing⟩ := by
  have herror : fieldReport .commandResponse r.errorField.name (DumpOptions.notDefault.kept? r.errorField) = [] := by
    rw [DumpOptions.kept?, Response.errorField]
    split <;> cases r.error <;> rfl
  have hfailure :
      fieldReport .commandResponse r.failureField.name (DumpOptions.notDefault.kept? r.failureField) = [] := by
    rw [DumpOptions.kept?]
    split <;> rfl
  have hnames : (r.fields .notDefault).map Field.name = Model.commandResponse.fieldNames := rfl
  calc report .commandResponse (r.dump .notDefault)
      = (r.fields .notDefault).flatMap fun f =>
          (fieldReport .commandResponse f.name (DumpOptions.notDefault.kept? f)).map
            (Violation.under (.field f.name)) :=
        report_dumpFields .commandResponse .notDefault hnames
    _ = (itemsReport 0 (r.results.map (Result.dump .notDefault))).map
          (Violation.under (.field "project_results")) := by
        rw [Response.fields_eq, List.flatMap_cons, List.flatMap_cons, List.flatMap_singleton, herror, hfailure,
          resultsField_notDefault]
        rfl
    _ = _ := by
        rw [itemsReport_notDefault h, List.map_map, List.range_eq_range']
        rfl

end WithoutDefaults

theorem Record.keepsKinds_notNull (r : Record) : r.KeepsKinds .notNull := by
  cases r with
  | variant w => trivial
  | result r => exact r.variant.keeps_kindField_notNull
  | response r => exact fun x _ => x.variant.keeps_kindField_notNull

theorem Record.keepsResults_notNull (r : Record) : r.KeepsResults .notNull := by
  cases r with
  | response r => exact .inl (by simp [DumpOptions.keeps, DumpOptions.notNull, Response.resultsField])
  | _ => trivial

theorem Carries.validate_response_notDefault {q : Response (List Result)} {m : Medium} {again : Input}
    (h : Carries ((Record.response q).dump .notDefault) m again) (hvalid : (Record.response q).Valid) :
    again.validate .commandResponse =
      if q.results = [] then .ok ((Record.response q).keptBy .notDefault)
      else .error (.invalid ⟨m, (List.range q.results.length).map fun i =>
        ⟨[.field "project_results", .index i, .field "outcome"], .tagMissing⟩⟩) := by
  split
  · rename_i hempty
    refine h.validate_dump (readAs_kept hvalid (fun x hx => ?_) fun hunset => by cases hunset)
    rw [hempty] at hx
    cases hx
  · rename_i hne
    exact h.validate_dump_of_report (report_response_notDefault hvalid) (by simpa using hne)

/-- Handed in again without its nulls, every validated record comes back. Without its defaults a variant does,
too; a result does not, nor does a response with any results, for want of the kind of each outcome. -/
theorem dumps_read_back_unless_kinds_are_missed {model : Model} {input : Input} {r : Record}
    (h : input.validate model = .ok r) :
    (Session.Held.ofRecord r).dump .notNull = .ok (r.dump .notNull) ∧
    (Session.Held.ofRecord r).dump .notDefault = .ok (r.dump .notDefault) ∧
    (∀ m again, Carries (r.dump .notNull) m again → ∃ s, again.validate model = .ok s ∧ s.same r = true) ∧
    ∀ m again, Carries (r.dump .notDefault) m again →
      (∀ w, r = .variant w → ∃ s, again.validate model = .ok s ∧ s.same r = true) ∧
      (∀ x, r = .result x → ∃ e, again.validate model = .error (.invalid e) ∧
        e.entries = [([.field "outcome"], "union_tag_not_found")]) ∧
      ∀ q, r = .response q →
        ((∃ s, again.validate model = .ok s) ↔ q.results = []) ∧
        (∀ s, again.validate model = .ok s → s.same r = true) ∧
        (q.results ≠ [] → ∃ e, again.validate model = .error (.invalid e) ∧
          e.entries = (List.range q.results.length).map fun i =>
            ([.field "project_results", .index i, .field "outcome"], "union_tag_not_found")) := by
  obtain ⟨rfl, hvalid⟩ := Input.validate_valid h
  refine ⟨Session.Held.dump_ofRecord _ r, Session.Held.dump_ofRecord _ r, fun m again hagain => ?_,
    fun m again hagain => ⟨?_, ?_, ?_⟩⟩
  · have hread : readAs r.model (r.dump .notNull) = .ok (r.keptBy .notNull) :=
      readAs_kept hvalid r.keepsKinds_notNull fun hunset => by cases hunset
    exact ⟨_, hagain.validate_dump hread, Record.same_keptBy_iff.mpr r.keepsResults_notNull⟩
  · rintro w rfl
    have hread : readAs _ _ = .ok ((Record.variant w).keptBy .notDefault) :=
      readAs_kept hvalid trivial fun hunset => by cases hunset
    exact ⟨_, hagain.validate_dump hread, Record.same_keptBy_iff.mpr trivial⟩
  · rintro x rfl
    have hreport : report (Record.result x).model ((Record.result x).dump .notDefault) =
        [⟨[.field "outcome"], .tagMissing⟩] := resultReport_notDefault hvalid.1
    exact ⟨_, hagain.validate_dump_of_report hreport (List.cons_ne_nil _ _), rfl⟩
  · rintro q rfl
    rw [show (Record.response q).model = .commandResponse from rfl, hagain.validate_response_notDefault hvalid]
    by_cases hempty : q.results = []
    · rw [if_pos hempty]
      refine ⟨iff_of_true ⟨_, rfl⟩ hempty, fun s hs => ?_, fun hne => absurd hempty hne⟩
      obtain rfl := Except.ok.inj hs
      exact Record.same_keptBy_iff.mpr (.inr hempty)
    · rw [if_neg hempty]
      refine ⟨iff_of_false (fun ⟨s, hs⟩ => ?_) hempty, fun s hs => ?_, fun _ => ⟨_, rfl, ?_⟩⟩
      · cases hs
      · cases hs
      · rw [ValidationError.entries, List.map_map]
        rfl

theorem dumps_read_back_unless_kinds_are_missed_of_two_results :
    let result : Json := .object [("path", .string "a"),
      ("outcome", .object [("kind", .string "apply_success"), ("output", .string "done")])]
    let input : Input := .json (.object [("error", .null), ("project_results", .array [result, result])])
    let x : Result := ⟨"a", ⟨.applySuccess "done", true⟩⟩
    let r : Record := .response ⟨none, "", [x, x], ⟨true, false, true⟩⟩
    input.validate .commandResponse = .ok r ∧
    (∃ s, (Input.json (r.dump .notNull)).validate .commandResponse = .ok s ∧ s.same r = true) ∧
    ∃ e, (Input.json (r.dump .notDefault)).validate .commandResponse = .error (.invalid e) ∧
      e.entries = [([.field "project_results", .index 0, .field "outcome"], "union_tag_not_found"),
        ([.field "project_results", .index 1, .field "outcome"], "union_tag_not_found")] := by
  intro result input x r
  have h : input.validate .commandResponse = .ok r := by rfl
  obtain ⟨-, -, hnulls, hdefaults⟩ := dumps_read_back_unless_kinds_are_missed h
  obtain ⟨-, -, hresponse⟩ := hdefaults .json _ .value
  exact ⟨h, hnulls .json _ .value, (hresponse _ rfl).2.2 (List.cons_ne_nil _ _)⟩

end PullComment.Schema
