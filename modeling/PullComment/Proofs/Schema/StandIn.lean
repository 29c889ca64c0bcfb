import PullComment.Proofs.Json.SameValue
import PullComment.Proofs.Schema.Dump
import PullComment.Schema.Value
import PullComment.Text.Utf8

namespace PullComment.Schema

open Json (NoRepeats)

namespace Value

def octetsAsJson (data : List UInt8) : Json :=
  match Text.decodeText data with
  | .ok cs => .string (String.ofList cs)
  | .error _ => .null

mutual

def asJson : Value → Json
  | .null => .null
  | .bool b => .bool b
  | .number n => .number n
  | .string s => .string s
  | .array items => .array (itemsAsJson items)
  | .object members => .object (Members.normalize (membersAsJson members))
  | .tuple items => .array (itemsAsJson items)
  | .octets data => octetsAsJson data
  | .raised e => .string e.message
  | .record r => r.dump .full

def itemsAsJson : List Value → List Json
  | [] => []
  | item :: items => asJson item :: itemsAsJson items

def membersAsJson : List (String × Value) → List (String × Json)
  | [] => []
  | (name, v) :: members => (name, asJson v) :: membersAsJson members

end

end Value

section NoRepeats

theorem noRepeats_dumpFields {fields : List Field} (o : DumpOptions) (hd : (fields.map Field.name).Nodup)
    (h : ∀ f ∈ fields, f.value.NoRepeats) : (dumpFields o fields).NoRepeats := by
  refine .object ?_ fun m hm => ?_
  · rw [List.map_map]
    exact hd.sublist (List.filter_sublist.map Field.name)
  · obtain ⟨f, hf, rfl⟩ := List.mem_map.mp hm
    exact h f (List.mem_of_mem_filter hf)

theorem Variant.noRepeats_dump (o : DumpOptions) (w : Variant) : (w.dump o).NoRepeats := by
  refine noRepeats_dumpFields o (w.map_name_fields ▸ Model.nodup_fieldNames _) fun f hf => ?_
  obtain ⟨outcome, given⟩ := w
  cases outcome <;>
    simp only [fields, outcomeFields, List.mem_cons, List.not_mem_nil, or_false] at hf <;>
    rcases hf with rfl | rfl | rfl <;> exact .string _

theorem Result.noRepeats_dump (o : DumpOptions) (r : Result) : (r.dump o).NoRepeats := by
  refine noRepeats_dumpFields o (by simp [fields]) ?_
  exact List.forall_mem_cons.mpr ⟨.string r.path, List.forall_mem_singleton.mpr (r.variant.noRepeats_dump o)⟩

theorem Response.noRepeats_dump (o : DumpOptions) (r : Response (List Result)) : (r.dump o).NoRepeats := by
  refine noRepeats_dumpFields o (by simp [fields, fieldsWith]) (List.forall_mem_cons.mpr ⟨?_,
    List.forall_mem_cons.mpr ⟨.string r.failure, List.forall_mem_singleton.mpr (.array fun item hitem => ?_)⟩⟩)
  · cases r.error with
    | none => exact .null
    | some message => exact .string message
  · obtain ⟨x, -, rfl⟩ := List.mem_map.mp hitem
    exact x.noRepeats_dump o

theorem Record.noRepeats_dump (o : DumpOptions) (r : Record) : (r.dump o).NoRepeats := by
  cases r with
  | variant w => exact w.noRepeats_dump o
  | result x => exact x.noRepeats_dump o
  | response x => exact x.noRepeats_dump o

namespace Value

mutual

theorem noRepeats_asJson : ∀ v : Value, v.asJson.NoRepeats
  | .null => .null
  | .bool b => .bool b
  | .number n => .number n
  | .string s => .string s
  | .array items => .array (noRepeats_itemsAsJson items)
  | .object members => by
      refine .object (Members.nodup_map_fst_normalize _) fun m hm => ?_
      obtain ⟨before, after, he, -⟩ := Members.get?_eq_some_iff.mp (Members.mem_normalize.mp hm)
      exact noRepeats_membersAsJson members m (by rw [he]; simp)
  | .tuple items => .array (noRepeats_itemsAsJson items)
  | .octets data => by
      rw [asJson, octetsAsJson]
      split
      · exact .string _
      · exact .null
  | .raised e => .string e.message
  | .record r => r.noRepeats_dump .full

theorem noRepeats_itemsAsJson : ∀ items : List Value, ∀ item ∈ itemsAsJson items, item.NoRepeats
  | [] => by simp [itemsAsJson]
  | item :: items => List.forall_mem_cons.mpr ⟨noRepeats_asJson item, noRepeats_itemsAsJson items⟩

theorem noRepeats_membersAsJson : ∀ members : List (String × Value), ∀ m ∈ membersAsJson members, m.2.NoRepeats
  | [] => by simp [membersAsJson]
  | (_, v) :: members => List.forall_mem_cons.mpr ⟨noRepeats_asJson v, noRepeats_membersAsJson members⟩

end

end Value

end NoRepeats

end PullComment.Schema
