import Mathlib.Data.List.Forall2
import PullComment.Session.Held

namespace PullComment.Session

open PullComment Schema

namespace Patched

variable {α ρ : Type}

theorem map_field_fresh (number : Nat) (base : α) (fields : List Field) :
    fields.map (fresh number base : Patched ρ α).field = fields := by
  have hfield : (fresh number base : Patched ρ α).field = id := by
    funext f
    obtain ⟨name, value, given, default?⟩ := f
    cases given <;> rfl
  rw [hfield, List.map_id]

theorem fields_fresh (number : Nat) (base : α) (own : α → List Field) :
    (fresh number base : Patched ρ α).fields own = own base :=
  map_field_fresh number base (own base)

theorem variantFaults_fresh (number : Nat) (w : Variant) :
    (fresh number w : Patched ρ Variant).variantFaults = [] := by
  obtain ⟨o, given⟩ := w
  cases o <;> rfl

theorem resultFaults_fresh (number : Nat) (r : Result) :
    (fresh number r : Patched ρ Result).resultFaults = [] :=
  rfl

theorem sameVariant_fresh (m n : Nat) (v w : Variant) :
    (fresh m v : Patched ρ Variant).sameVariant (fresh n w) = (v.outcome == w.outcome) := by
  obtain ⟨o, _⟩ := v
  obtain ⟨p, _⟩ := w
  rw [sameVariant, values, values, fields_fresh, fields_fresh, Bool.eq_iff_iff]
  cases o <;> cases p <;>
    simp [fresh, Variant.kind, Outcome.kind, Variant.fields, outcomeFields, Json.alikeItems]

theorem sameResult_fresh (m n : Nat) (a b : Result) :
    (fresh m a : Patched ρ Result).sameResult (fresh n b) = (a.content == b.content) := by
  show (Json.alike (.string a.path) (.string b.path) && a.variant.outcome == b.variant.outcome) = _
  rw [Json.alike_string, Bool.eq_iff_iff]
  simp [Result.content]

end Patched

def Entry.Holds (e : Entry) (r : Result) : Prop :=
  ∃ number, e = .result (.fresh number r)

namespace Entry

variable {items : List Entry} {results : List Result}

theorem Holds.dump_eq {e : Entry} {r : Result} (h : e.Holds r) (o : DumpOptions) : e.dump o = r.dump o := by
  obtain ⟨number, rfl⟩ := h
  rw [dump, Patched.fields_fresh, Result.dump]

theorem map_dump_of_holds (h : List.Forall₂ Holds items results) (o : DumpOptions) :
    items.map (dump o) = results.map (Result.dump o) := by
  induction h with
  | nil => rfl
  | cons he _ ih => rw [List.map_cons, List.map_cons, ih, he.dump_eq o]

theorem flatMap_dumpFaults_of_holds (h : List.Forall₂ Holds items results) : items.flatMap dumpFaults = [] := by
  induction h with
  | nil => rfl
  | cons he _ ih =>
      obtain ⟨number, rfl⟩ := he
      rw [List.flatMap_cons, ih, dumpFaults, Patched.resultFaults_fresh, List.append_nil]

theorem sameAll_of_holds {others : List Entry} {results' : List Result}
    (h : List.Forall₂ Holds items results) (h' : List.Forall₂ Holds others results') :
    sameAll items others = (results.map Result.content == results'.map Result.content) := by
  induction h generalizing others results' with
  | nil => cases h' <;> rfl
  | cons he _ ih =>
      cases h' with
      | nil => rfl
      | cons he' hrest =>
          obtain ⟨m, rfl⟩ := he
          obtain ⟨n, rfl⟩ := he'
          rw [sameAll, same, Patched.sameResult_fresh, ih hrest]
          rfl

end Entry

namespace Held

inductive Holds : Held (List Entry) → Record → Prop
  | variant (number : Nat) (w : Variant) : Holds (.variant (.fresh number w)) (.variant w)
  | result (number : Nat) (r : Result) : Holds (.result (.fresh number r)) (.result r)
  | response (number : Nat) {items : List Entry} {r : Response (List Result)}
      (hitems : List.Forall₂ Entry.Holds items r.results) :
      Holds (.response (.fresh number (r.mapResults fun _ => items))) (.response r)

theorem holds_entries (number : Nat) (results : List Result) :
    List.Forall₂ Entry.Holds (entries number results) results := by
  induction results generalizing number with
  | nil => exact .nil
  | cons r results ih => exact .cons ⟨number, rfl⟩ (ih (number + 1))

theorem holds_ofRecord (r : Record) : (ofRecord r).Holds r := by
  cases r with
  | variant w => exact .variant 0 w
  | result r => exact .result 0 r
  | response r => exact .response 0 (holds_entries 1 r.results)

namespace Holds

variable {h g : Held (List Entry)} {r q : Record}

theorem model_eq (hr : h.Holds r) : h.model = r.model := by
  cases hr <;> rfl

theorem fields_eq (hr : h.Holds r) (o : DumpOptions) : h.fields o = r.fields o := by
  cases hr with
  | variant number w => exact Patched.fields_fresh number w Variant.fields
  | result number r => exact Patched.fields_fresh number r (Result.fields o)
  | @response number items r hitems =>
      show ((r.mapResults fun _ => items).fieldsWith (.array (items.map (Entry.dump o)))).map
        (Patched.fresh number (r.mapResults fun _ => items)).field = r.fields o
      rw [Patched.map_field_fresh, Entry.map_dump_of_holds hitems]
      rfl

theorem dumpFaults_eq (hr : h.Holds r) (o : DumpOptions) : h.dumpFaults o = [] := by
  cases hr with
  | variant number w => exact Patched.variantFaults_fresh number w
  | result number r => exact Patched.resultFaults_fresh number r
  | @response number items r hitems =>
      have herror : depthFault? ((r.error.map Json.string).getD .null) = none := by
        cases r.error <;> rfl
      have hentries : (Results.list items).dumpFaults = [] := Entry.flatMap_dumpFaults_of_holds hitems
      show (depthFault? ((r.error.map Json.string).getD .null)).toList ++
        (depthFault? (.string r.failure)).toList ++
          (if _ then [] else (Results.list items).dumpFaults) = []
      rw [herror, hentries, ite_self]
      rfl

theorem dump_eq (hr : h.Holds r) (o : DumpOptions) : h.dump o = .ok (r.dump o) := by
  rw [dump, hr.dumpFaults_eq, hr.fields_eq, Record.dump]

theorem write_eq (hr : h.Holds r) (layout : Json.Layout) :
    h.write layout = .ok (Json.print layout (r.dump .full)) := by
  rw [write, hr.dumpFaults_eq, hr.fields_eq, Record.dump]

theorem same_eq (hr : h.Holds r) (hq : g.Holds q) : h.same g = r.same q := by
  cases hr with
  | variant m v =>
      cases hq with
      | variant n w => exact Patched.sameVariant_fresh m n v w
      | result n b => rfl
      | response n hitems => rfl
  | result m a =>
      cases hq with
      | variant n w => rfl
      | result n b => exact Patched.sameResult_fresh m n a b
      | response n hitems => rfl
  | @response m items a hitems =>
      cases hq with
      | variant n w => rfl
      | result n b => rfl
      | @response n others b hothers =>
          have herror : ((a.error.map Json.string).getD .null).alike ((b.error.map Json.string).getD .null) =
              (a.error == b.error) := by
            cases a.error <;> cases b.error <;> simp [Json.alike]
          show (((a.error.map Json.string).getD .null).alike ((b.error.map Json.string).getD .null) &&
            (Json.string a.failure).alike (.string b.failure) && Entry.sameAll items others) =
              (a.content == b.content)
          rw [herror, Json.alike_string, Entry.sameAll_of_holds hitems hothers, Bool.eq_iff_iff]
          simp [Response.content, and_assoc]

end Holds

theorem dump_ofRecord (o : DumpOptions) (r : Record) : (ofRecord r).dump o = .ok (r.dump o) :=
  (holds_ofRecord r).dump_eq o

theorem write_ofRecord (layout : Json.Layout) (r : Record) :
    (ofRecord r).write layout = .ok (Json.print layout (r.dump .full)) :=
  (holds_ofRecord r).write_eq layout

end Held

end PullComment.Session
