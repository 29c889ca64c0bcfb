import Mathlib.Data.List.Nodup
import PullComment.Proofs.Schema.Dump
import PullComment.Proofs.Schema.Report
import PullComment.Proofs.Schema.Valid

namespace PullComment.Schema

open Checked

def found (model : Model) (v : Json) : List Violation :=
  match (Input.json v).validate model with
  | .error (.invalid e) => e.violations
  | _ => []

def ChangesOnly (place : List Segment) (vs ws : List Violation) : Prop :=
  ∃ before after old new, vs = before ++ old ++ after ∧ ws = before ++ new ++ after ∧
    ∀ e ∈ old ++ new, place <+: e.place

namespace ChangesOnly

variable {place : List Segment} {vs ws : List Violation}

theorem refl (place : List Segment) (vs : List Violation) : ChangesOnly place vs vs :=
  ⟨vs, [], [], [], by simp, by simp, by simp⟩

theorem frame (h : ChangesOnly place vs ws) (l r : List Violation) :
    ChangesOnly place (l ++ vs ++ r) (l ++ ws ++ r) := by
  obtain ⟨before, after, old, new, rfl, rfl, hplace⟩ := h
  exact ⟨l ++ before, after ++ r, old, new, by simp only [List.append_assoc],
    by simp only [List.append_assoc], hplace⟩

theorem under (h : ChangesOnly place vs ws) (segment : Segment) :
    ChangesOnly (segment :: place) (vs.map (Violation.under segment)) (ws.map (Violation.under segment)) := by
  obtain ⟨before, after, old, new, rfl, rfl, hplace⟩ := h
  refine ⟨before.map (.under segment), after.map (.under segment), old.map (.under segment),
    new.map (.under segment), by simp only [List.map_append], by simp only [List.map_append], fun e he => ?_⟩
  rw [← List.map_append] at he
  obtain ⟨d, hd, rfl⟩ := List.mem_map.mp he
  exact List.cons_prefix_cons.mpr ⟨rfl, hplace d hd⟩

end ChangesOnly

section Fields

variable {model : Model} {name : String}

def fieldEntries (model : Model) (members : List (String × Json)) (name : String) : List Violation :=
  (fieldReport model name (Members.get? name members)).map (Violation.under (.field name))

def unknownEntries (model : Model) (members : List (String × Json)) : List Violation :=
  (unknownNames model.fieldNames members).map fun name => ⟨[.field name], .unknownField⟩

theorem report_object (model : Model) (members : List (String × Json)) :
    report model (.object members) =
      model.fieldNames.flatMap (fieldEntries model members) ++ unknownEntries model members :=
  rfl

end Fields

section Items

theorem itemsReport_cons (start : Nat) (x : Json) (xs : List Json) :
    itemsReport start (x :: xs) =
      (resultReport x).map (Violation.under (.index start)) ++ itemsReport (start + 1) xs :=
  rfl

end Items

section Limits

end Limits

end PullComment.Schema
