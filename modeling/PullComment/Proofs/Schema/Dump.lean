import Mathlib.Data.List.Forall2
import PullComment.Proofs.Json.Written
import PullComment.Proofs.Members
import PullComment.Schema.Record

namespace PullComment.Schema

theorem Model.nodup_fieldNames (m : Model) : m.fieldNames.Nodup := by
  cases m with
  | variant kind => cases kind <;> decide
  | projectResult => decide
  | commandResponse => decide

theorem Variant.map_name_fields (w : Variant) : w.fields.map Field.name = (Model.variant w.kind).fieldNames := by
  obtain ⟨o, given⟩ := w
  cases o <;> rfl

theorem Record.map_name_fields (o : DumpOptions) (r : Record) :
    (r.fields o).map Field.name = r.model.fieldNames := by
  cases r with
  | variant w => exact w.map_name_fields
  | result r => rfl
  | response r => rfl

theorem Record.mem_fieldsSet {r : Record} {name : String} :
    name ∈ r.fieldsSet ↔ ∃ f ∈ r.fields .full, f.given = true ∧ f.name = name := by
  simp [fieldsSet, List.mem_mergeSort, and_assoc]

def member (f : Field) : String × Json :=
  (f.name, f.value)

theorem get?_map_member {fields : List Field} (h : (fields.map Field.name).Nodup) {f : Field}
    (hf : f ∈ fields) : Members.get? f.name (fields.map member) = some f.value := by
  refine Members.get?_of_mem ?_ (List.mem_map_of_mem (f := member) hf)
  rw [List.map_map]
  exact h

theorem exists_of_get?_map_member {fields : List Field} {name : String} {v : Json}
    (h : Members.get? name (fields.map member) = some v) : ∃ f ∈ fields, f.name = name ∧ f.value = v := by
  obtain ⟨before, after, he, -⟩ := Members.get?_eq_some_iff.mp h
  have hm : (name, v) ∈ fields.map member := by simp [he]
  obtain ⟨f, hf, heq⟩ := List.mem_map.mp hm
  exact ⟨f, hf, congrArg Prod.fst heq, congrArg Prod.snd heq⟩

theorem dumpFields_full (fields : List Field) : dumpFields .full fields = .object (fields.map member) := by
  have hall : fields.filter DumpOptions.full.keeps = fields :=
    List.filter_eq_self.mpr fun f _ => by simp [DumpOptions.keeps, DumpOptions.full]
  rw [dumpFields, hall]
  rfl

def Variant.AtEachLevel (P : Record → List (String × Json) → Prop) (w : Variant) (v : Json) : Prop :=
  ∃ members, v = .object members ∧ P (.variant w) members

def Result.AtEachLevel (P : Record → List (String × Json) → Prop) (r : Result) (v : Json) : Prop :=
  ∃ members, v = .object members ∧ P (.result r) members ∧
    ∀ outcome, Members.get? "outcome" members = some outcome → r.variant.AtEachLevel P outcome

def Response.AtEachLevel (P : Record → List (String × Json) → Prop) (r : Response (List Result))
    (v : Json) : Prop :=
  ∃ members, v = .object members ∧ P (.response r) members ∧
    ∀ results, Members.get? "project_results" members = some results →
      ∃ items, results = .array items ∧ List.Forall₂ (Result.AtEachLevel P) r.results items

def Record.AtEachLevel (P : Record → List (String × Json) → Prop) : Record → Json → Prop
  | .variant w => w.AtEachLevel P
  | .result r => r.AtEachLevel P
  | .response r => r.AtEachLevel P

theorem Record.AtEachLevel.imp {P Q : Record → List (String × Json) → Prop} (h : ∀ s ms, P s ms → Q s ms)
    {r : Record} {v : Json} (hr : r.AtEachLevel P v) : r.AtEachLevel Q v := by
  have hvariant {w : Variant} {v : Json} (hw : w.AtEachLevel P v) : w.AtEachLevel Q v := by
    obtain ⟨members, rfl, hp⟩ := hw
    exact ⟨members, rfl, h _ _ hp⟩
  have hresult {x : Result} {v : Json} (hx : x.AtEachLevel P v) : x.AtEachLevel Q v := by
    obtain ⟨members, rfl, hp, houtcome⟩ := hx
    exact ⟨members, rfl, h _ _ hp, fun outcome hget => hvariant (houtcome outcome hget)⟩
  cases r with
  | variant w => exact hvariant hr
  | result x => exact hresult hr
  | response x =>
      obtain ⟨members, rfl, hp, hresults⟩ := hr
      refine ⟨members, rfl, h _ _ hp, fun results hget => ?_⟩
      obtain ⟨items, rfl, hitems⟩ := hresults results hget
      exact ⟨items, rfl, hitems.imp fun _ _ hx => hresult hx⟩

theorem Record.atEachLevel_dump {P : Record → List (String × Json) → Prop} (o : DumpOptions)
    (h : ∀ s : Record, P s (((s.fields o).filter o.keeps).map member)) (r : Record) :
    r.AtEachLevel P (r.dump o) := by
  have hvariant (w : Variant) : w.AtEachLevel P (w.dump o) := ⟨_, rfl, h (.variant w)⟩
  have hresult (x : Result) : x.AtEachLevel P (x.dump o) := by
    refine ⟨_, rfl, h (.result x), fun outcome hget => ?_⟩
    obtain ⟨f, hf, hname, rfl⟩ := exists_of_get?_map_member hget
    have hfield : f = ⟨"path", .string x.path, true, none⟩ ∨ f = ⟨"outcome", x.variant.dump o, true, none⟩ := by
      simpa [Result.fields] using List.mem_of_mem_filter hf
    rcases hfield with rfl | rfl
    · simp at hname
    · exact hvariant x.variant
  cases r with
  | variant w => exact hvariant w
  | result x => exact hresult x
  | response x =>
      refine ⟨_, rfl, h (.response x), fun results hget => ?_⟩
      obtain ⟨f, hf, hname, rfl⟩ := exists_of_get?_map_member hget
      have hfield := List.mem_of_mem_filter hf
      simp only [Record.fields, Response.fields, Response.fieldsWith, List.mem_cons, List.not_mem_nil,
        or_false] at hfield
      rcases hfield with rfl | rfl | rfl
      · simp at hname
      · simp at hname
      · refine ⟨_, rfl, ?_⟩
        rw [List.forall₂_map_right_iff]
        exact List.forall₂_same.mpr fun y _ => hresult y

end PullComment.Schema
