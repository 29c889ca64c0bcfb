import PullComment.Proofs.Json.SameValue
import PullComment.Proofs.Schema.Dump
import PullComment.Proofs.Schema.Grammar
import PullComment.Proofs.Schema.Valid
import PullComment.Proofs.Session.Fresh

namespace PullComment.Schema

open Checked Readable

theorem validate_json_eq_ok_iff {model : Model} {v : Json} {r : Record} :
    (Input.json v).validate model = .ok r ↔ v.WithinLimits ∧ readAs model v = .ok r := by
  rw [Input.validate, Input.readWith, validated_eq_ok_iff, readJsonValue]
  split
  · rename_i h
    simp only [reported_eq_ok_iff, h, true_and]
  · rename_i h
    simp [h, invalidJson, reported, fail]

def SameScalar : Json → Json → Prop
  | .array _, _ => True
  | .object _, _ => True
  | a, b => a = b

structure Reads (s : Record) (members : List (String × Json)) : Prop where
  declared : OnlyDeclared s.model members
  agrees : ∀ f ∈ s.fields .full, f.Agrees SameScalar members

namespace Field

variable {R S : Json → Json → Prop} {members : List (String × Json)} {f : Field}

theorem Agrees.imp (h : f.Agrees R members) (himp : ∀ v, R f.value v → S f.value v) : f.Agrees S members := by
  rcases h with ⟨hgiven, v, hv, hR⟩ | h
  · exact .inl ⟨hgiven, v, hv, himp v hR⟩
  · exact .inr h

theorem Agrees.given_iff (h : f.Agrees R members) : f.given = true ↔ f.name ∈ members.map Prod.fst := by
  rw [← Members.get?_isSome]
  rcases h with ⟨hgiven, v, hv, -⟩ | ⟨hgiven, hnone, -⟩
  · simp [hgiven, hv]
  · simp [hgiven, hnone]

theorem Agrees.default_eq (h : f.Agrees R members) (hn : f.name ∉ members.map Prod.fst) :
    f.default? = some f.value := by
  rcases h with ⟨hgiven, hrest⟩ | ⟨-, -, hdefault⟩
  · exact absurd (given_iff (.inl ⟨hgiven, hrest⟩) |>.mp hgiven) hn
  · exact hdefault

theorem agrees_of_optional {α : Type} {name : String} {absent a : α} {read : Json → Checked α}
    {given : Bool} {value default : Json} (h : optional name absent read members = .ok (a, given))
    (hread : ∀ v, read v = .ok a → R value v) (hdefault : a = absent → default = value) :
    Agrees R members ⟨name, value, given, some default⟩ := by
  rcases optional_eq_ok_iff.mp h with ⟨hnone, ha, rfl⟩ | ⟨v, hv, ha, rfl⟩
  · exact .inr ⟨rfl, hnone, congrArg some (hdefault ha)⟩
  · exact .inl ⟨rfl, v, hv, hread v ha⟩

end Field

section Reading

theorem readVariant_reads {kind : Kind} {v : Json} {w : Variant} (h : readVariant kind v = .ok w) :
    w.AtEachLevel Reads v := by
  obtain ⟨rfl, -, members, rfl, hfields, hn⟩ := readVariant_json_eq_ok_iff.mp h
  refine ⟨members, rfl, hn, fun f hf => (hfields f hf).imp ?_⟩
  rintro v rfl
  cases f.value <;> trivial

theorem readResult_reads {v : Json} {r : Result} (h : readResult v = .ok r) : r.AtEachLevel Reads v := by
  obtain ⟨-, members, outcome, rfl, hpath, houtcome, htagged, hn⟩ := readResult_json_eq_ok_iff.mp h
  refine ⟨members, rfl, ⟨hn, List.forall_mem_cons.mpr ⟨?_, List.forall_mem_singleton.mpr ?_⟩⟩, ?_⟩
  · exact .inl ⟨rfl, _, hpath, rfl⟩
  · exact .inl ⟨rfl, _, houtcome, trivial⟩
  · intro w hw
    rw [houtcome] at hw
    cases hw
    exact readVariant_reads (readTagged_json_eq_ok_iff.mp htagged).1

theorem readResponse_reads {v : Json} {r : Response (List Result)} (h : readResponse v = .ok r) :
    r.AtEachLevel Reads v := by
  obtain ⟨members, rfl, herror, hfailure, hresults, hn⟩ := readResponse_json_eq_ok_iff.mp h
  refine ⟨members, rfl, ⟨hn, List.forall_mem_cons.mpr ⟨?_, List.forall_mem_cons.mpr
    ⟨?_, List.forall_mem_singleton.mpr ?_⟩⟩⟩, ?_⟩
  · refine Field.agrees_of_optional herror (fun v hv => ?_) fun ha => by rw [ha]; rfl
    rw [readOptionalMessage_json_eq_ok_iff.mp hv]
    cases r.error <;> rfl
  · refine Field.agrees_of_optional hfailure (fun v hv => ?_) fun ha => by rw [ha]
    rw [readText_json_eq_ok_iff.mp hv]
    rfl
  · exact Field.agrees_of_optional hresults (fun _ _ => trivial) fun ha => by rw [ha]; rfl
  · intro results hget
    rcases optional_eq_ok_iff.mp hresults with ⟨hnone, -⟩ | ⟨v, hv, hread, -⟩
    · rw [hnone] at hget
      cases hget
    · rw [hget] at hv
      cases hv
      obtain ⟨items, rfl, hitems⟩ := readResults_json_eq_ok_iff.mp hread
      exact ⟨items, rfl, (List.Forall₂.flip hitems).imp fun _ _ hx => readResult_reads hx⟩

theorem readAs_reads {model : Model} {v : Json} {r : Record} (h : readAs model v = .ok r) :
    r.AtEachLevel Reads v := by
  cases model with
  | variant kind =>
      obtain ⟨w, hw, rfl⟩ := map_eq_ok_iff.mp h
      exact readVariant_reads hw
  | projectResult =>
      obtain ⟨x, hx, rfl⟩ := map_eq_ok_iff.mp h
      exact readResult_reads hx
  | commandResponse =>
      obtain ⟨x, hx, rfl⟩ := map_eq_ok_iff.mp h
      exact readResponse_reads hx

end Reading

theorem Reads.fieldsSet_and_defaults {s : Record} {members : List (String × Json)} (h : Reads s members) :
    (∀ name, name ∈ s.fieldsSet ↔ name ∈ members.map Prod.fst) ∧
      ∀ f ∈ s.fields .full, f.name ∉ members.map Prod.fst → f.default? = some f.value := by
  refine ⟨fun name => ?_, fun f hf hn => (h.agrees f hf).default_eq hn⟩
  rw [Record.mem_fieldsSet]
  constructor
  · rintro ⟨f, hf, hgiven, rfl⟩
    exact (h.agrees f hf).given_iff.mp hgiven
  · intro hn
    have hname := h.declared name hn
    rw [← s.map_name_fields .full] at hname
    obtain ⟨f, hf, rfl⟩ := List.mem_map.mp hname
    exact ⟨f, hf, (h.agrees f hf).given_iff.mpr hn, rfl⟩

def DumpOptions.givenOnly : DumpOptions :=
  ⟨true, false, false⟩

theorem DumpOptions.keeps_givenOnly (f : Field) : givenOnly.keeps f = f.given := by
  simp [keeps, givenOnly]

section Dumping

open Json (SameValue)

theorem sameValue_dumpFields {fields : List Field} {members : List (String × Json)}
    (hfields : ∀ f ∈ fields, f.Agrees SameValue members)
    (hn : ∀ name ∈ members.map Prod.fst, name ∈ fields.map Field.name) :
    SameValue (dumpFields .givenOnly fields) (.object members) := by
  refine .object (fun name => ?_) fun name v w hv hw => ?_
  · simp only [List.map_map, List.mem_map, List.mem_filter, DumpOptions.keeps_givenOnly, Function.comp_apply]
    constructor
    · rintro ⟨f, ⟨hf, hgiven⟩, rfl⟩
      exact List.mem_map.mp ((hfields f hf).given_iff.mp hgiven)
    · intro hname
      obtain ⟨f, hf, rfl⟩ := List.mem_map.mp (hn name (List.mem_map.mpr hname))
      exact ⟨f, ⟨hf, (hfields f hf).given_iff.mpr (List.mem_map.mpr hname)⟩, rfl⟩
  · obtain ⟨f, hf, rfl, rfl⟩ := exists_of_get?_map_member hv
    rcases hfields f (List.mem_of_mem_filter hf) with ⟨-, u, hu, hsame⟩ | ⟨-, hnone, -⟩
    · rw [hu] at hw
      exact Option.some.inj hw ▸ hsame
    · rw [hnone] at hw
      cases hw

theorem Variant.exists_text (w : Variant) : ∀ f ∈ w.fields, ∃ s, f.value = .string s := by
  obtain ⟨o, given⟩ := w
  cases o <;> simp [fields, outcomeFields]

theorem sameValue_of_sameScalar {s : String} {v : Json} (h : SameScalar (.string s) v) :
    SameValue (.string s) v := by
  obtain rfl : Json.string s = v := h
  exact .string s

theorem Variant.sameValue_dump {w : Variant} {v : Json} (h : w.AtEachLevel Reads v) :
    SameValue (w.dump .givenOnly) v := by
  obtain ⟨members, rfl, hn, hfields⟩ := h
  have hnames : w.fields.map Field.name = (Model.variant w.kind).fieldNames := w.map_name_fields
  refine sameValue_dumpFields (fun f hf => ?_) (hnames ▸ hn)
  obtain ⟨s, hs⟩ := w.exists_text f hf
  refine (hfields f hf).imp fun v hv => ?_
  rw [hs] at hv ⊢
  exact sameValue_of_sameScalar hv

theorem Result.sameValue_dump {r : Result} {v : Json} (h : r.AtEachLevel Reads v) :
    SameValue (r.dump .givenOnly) v := by
  obtain ⟨members, rfl, ⟨hn, hfields⟩, houtcome⟩ := h
  obtain ⟨hpath, hrest⟩ := List.forall_mem_cons.mp hfields
  have hpath := hpath.imp fun _ hv => sameValue_of_sameScalar hv
  have hgiven := (List.forall_mem_singleton.mp hrest).given_iff.mp rfl
  obtain ⟨outcome, hget⟩ := Option.isSome_iff_exists.mp (Members.get?_isSome.mpr hgiven)
  have hsame := Variant.sameValue_dump (houtcome outcome hget)
  exact sameValue_dumpFields
    (List.forall_mem_cons.mpr ⟨hpath, List.forall_mem_singleton.mpr (.inl ⟨rfl, outcome, hget, hsame⟩)⟩) hn

theorem Response.sameValue_dump {r : Response (List Result)} {v : Json} (h : r.AtEachLevel Reads v) :
    SameValue (r.dump .givenOnly) v := by
  obtain ⟨members, rfl, ⟨hn, hfields⟩, hresults⟩ := h
  obtain ⟨herror, hrest⟩ := List.forall_mem_cons.mp hfields
  obtain ⟨hfailure, hlist⟩ := List.forall_mem_cons.mp hrest
  refine sameValue_dumpFields (List.forall_mem_cons.mpr ⟨herror.imp fun v hv => ?_,
    List.forall_mem_cons.mpr ⟨hfailure.imp fun _ hv => sameValue_of_sameScalar hv,
      List.forall_mem_singleton.mpr ?_⟩⟩) hn
  · cases hr : r.error with
    | none =>
        rw [hr] at hv
        obtain rfl : Json.null = v := hv
        exact .null
    | some message =>
        rw [hr] at hv
        exact sameValue_of_sameScalar hv
  · rcases List.forall_mem_singleton.mp hlist with ⟨hgiven, results, hget, -⟩ | ⟨hgiven, hnone, hdefault⟩
    · obtain ⟨items, rfl, hitems⟩ := hresults results hget
      refine .inl ⟨hgiven, _, hget, .of_forall₂ ?_⟩
      rw [List.forall₂_map_left_iff]
      exact hitems.imp fun _ _ hx => Result.sameValue_dump hx
    · -- without a list the results are the default ones, of which there are none
      have hempty : r.results = [] := by simpa using hdefault
      exact .inr ⟨hgiven, hnone, by rw [hempty]; rfl⟩

theorem Record.sameValue_dump {r : Record} {v : Json} (h : r.AtEachLevel Reads v) :
    SameValue (r.dump .givenOnly) v := by
  cases r with
  | variant w => exact Variant.sameValue_dump h
  | result x => exact Result.sameValue_dump h
  | response x => exact Response.sameValue_dump h

end Dumping

theorem Record.sublist_keys_dump (o : DumpOptions) (r : Record) :
    r.AtEachLevel (fun s members => (members.map Prod.fst).Sublist s.model.fieldNames) (r.dump o) := by
  refine r.atEachLevel_dump o fun s => ?_
  rw [List.map_map, ← s.map_name_fields o]
  exact List.filter_sublist.map Field.name

theorem exists_validate_json_iff {model : Model} {v : Json} :
    (∃ r, (Input.json v).validate model = .ok r) ↔
      v.WithinLimits ∧ InGrammar model v := by
  simp only [validate_json_eq_ok_iff, exists_and_left, ← accepted_readAs]
  rfl

/-- A value is valid if and only if it is in the grammar, and is then kept as it is. The limits of levels and digits
count only where names are repeated, since what is given again later may be any value. -/
theorem validation_is_grammar_and_lossless (model : Model) (v : Json) :
    (v.NoRepeats → ((∃ r, (Input.json v).validate model = .ok r) ↔ InGrammar model v)) ∧
    ((∃ r, (Input.json v).validate model = .ok r) ↔
      v.WithinLimits ∧ InGrammar model v) ∧
    ∀ r, (Input.json v).validate model = .ok r →
      r.model = model ∧
      (Session.Held.ofRecord r).dump .givenOnly = .ok (r.dump .givenOnly) ∧
      (r.dump .givenOnly).SameValue v ∧
      r.AtEachLevel (fun s members => (members.map Prod.fst).Sublist s.model.fieldNames)
        (r.dump .givenOnly) ∧
      r.AtEachLevel (fun s members =>
        (∀ name, name ∈ s.fieldsSet ↔ name ∈ members.map Prod.fst) ∧
        ∀ f ∈ s.fields .full, f.name ∉ members.map Prod.fst → f.default? = some f.value) v := by
  refine ⟨fun hr => ?_, exists_validate_json_iff, fun r h => ?_⟩
  · rw [exists_validate_json_iff]
    exact ⟨And.right, fun hv => ⟨hv.withinLimits hr, hv⟩⟩
  · have hread := (validate_json_eq_ok_iff.mp h).2
    have hreads := readAs_reads hread
    exact ⟨(readAs_valid (sound_json v) hread).1, Session.Held.dump_ofRecord .givenOnly r,
      Record.sameValue_dump hreads, r.sublist_keys_dump .givenOnly,
      hreads.imp fun _ _ hs => hs.fieldsSet_and_defaults⟩

theorem validation_is_grammar_and_lossless_in_another_order :
    let v : Json := .object [("outcome", .object [("message", .string ""), ("kind", .string "error")]),
      ("path", .string "p")]
    let r : Record := .result ⟨"p", ⟨.error "", true⟩⟩
    v.NoRepeats ∧ (Input.json v).validate .projectResult = .ok r ∧ InGrammar .projectResult v ∧
      (r.dump .givenOnly).SameValue v := by
  intro v r
  have hr : v.NoRepeats := by
    refine .object (by decide) (List.forall_mem_cons.mpr ⟨?_, List.forall_mem_singleton.mpr (.string "p")⟩)
    exact .object (by decide) (List.forall_mem_cons.mpr ⟨.string "", List.forall_mem_singleton.mpr
      (.string "error")⟩)
  have h : (Input.json v).validate .projectResult = .ok r := by rfl
  obtain ⟨hiff, -, hkept⟩ := validation_is_grammar_and_lossless .projectResult v
  exact ⟨hr, h, (hiff hr).mp ⟨r, h⟩, (hkept r h).2.2.1⟩

end PullComment.Schema
