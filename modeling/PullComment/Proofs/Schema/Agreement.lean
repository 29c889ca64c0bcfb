import PullComment.Proofs.Json.Spelling
import PullComment.Proofs.Schema.Media
import PullComment.Proofs.Schema.Rewriting

namespace PullComment.Schema

open Relation Checked Readable

abbrev Entry := List Segment × String

def Entry.under (segment : Segment) (e : Entry) : Entry :=
  (segment :: e.1, e.2)

def unknownEntry (object : List Segment) (name : String) : Entry :=
  (object ++ [.field name], "extra_forbidden")

/-- The unknown names of one object are told in another order. -/
inductive Reordered : List Entry → List Entry → Prop
  | nil : Reordered [] []
  | cons (e : Entry) {l r : List Entry} (h : Reordered l r) : Reordered (e :: l) (e :: r)
  | exchange (object : List Segment) (m n : String) (l : List Entry) :
      Reordered (unknownEntry object m :: unknownEntry object n :: l)
        (unknownEntry object n :: unknownEntry object m :: l)
  | trans {a b c : List Entry} (hab : Reordered a b) (hbc : Reordered b c) : Reordered a c

namespace Reordered

variable {a b l r : List Entry}

theorem refl : ∀ l : List Entry, Reordered l l
  | [] => .nil
  | e :: l => .cons e (refl l)

theorem append_left (l : List Entry) (h : Reordered a b) : Reordered (l ++ a) (l ++ b) := by
  induction l with
  | nil => exact h
  | cons e l ih => exact .cons e ih

theorem append_right (r : List Entry) (h : Reordered a b) : Reordered (a ++ r) (b ++ r) := by
  induction h with
  | nil => exact .refl r
  | cons e _ ih => exact .cons e ih
  | exchange object m n l => exact .exchange object m n (l ++ r)
  | trans _ _ ihab ihbc => exact .trans ihab ihbc

theorem append (h : Reordered a b) (h' : Reordered l r) : Reordered (a ++ l) (b ++ r) :=
  .trans (h.append_right l) (h'.append_left b)

theorem under (segment : Segment) (h : Reordered a b) :
    Reordered (a.map (Entry.under segment)) (b.map (Entry.under segment)) := by
  induction h with
  | nil => exact .nil
  | cons e _ ih => exact .cons _ ih
  | exchange object m n l => exact .exchange (segment :: object) m n _
  | trans _ _ ihab ihbc => exact .trans ihab ihbc

end Reordered

structure Tolerates (may : Touch) (R : List Entry → List Entry → Prop) : Prop where
  refl : ∀ l, R l l
  trans : ∀ {a b c}, R a b → R b c → R a c
  append : ∀ {a b c d}, R a b → R c d → R (a ++ c) (b ++ d)
  under : ∀ (segment : Segment) {a b}, R a b → R (a.map (Entry.under segment)) (b.map (Entry.under segment))
  unknown : ∀ {role : Role} {ms ns : List (String × Json)}, SameLookups may role ms ns →
    R ((unknownNames (role.declared ms) ms).map (unknownEntry []))
      ((unknownNames (role.declared ms) ns).map (unknownEntry []))

namespace Checked

variable {α β : Type} {R : List Entry → List Entry → Prop} {may : Touch}

def told (vs : List Violation) : List Entry :=
  vs.map fun v => (v.place, v.cause.code .json)

theorem told_append (vs ws : List Violation) : told (vs ++ ws) = told vs ++ told ws :=
  List.map_append

theorem told_under (segment : Segment) (vs : List Violation) :
    told (vs.map (Violation.under segment)) = (told vs).map (Entry.under segment) := by
  simp only [told, List.map_map]
  rfl

inductive Agree (R : List Entry → List Entry → Prop) : Checked α → Checked α → Prop
  | ok (a : α) : Agree R (.ok a) (.ok a)
  | error {vs ws : List Violation} (h : R (told vs) (told ws)) : Agree R (.error vs) (.error ws)

namespace Agree

theorem of_eq (ht : Tolerates may R) {c d : Checked α} (h : c = d) : Agree R c d := by
  subst h
  cases c with
  | ok a => exact .ok a
  | error vs => exact .error (ht.refl _)

theorem trans (ht : Tolerates may R) {c d e : Checked α} (h : Agree R c d) (h' : Agree R d e) : Agree R c e := by
  cases h with
  | ok a => exact h'
  | error h =>
      cases h' with
      | error h' => exact .error (ht.trans h h')

theorem map {c d : Checked α} (f : α → β) (h : Agree R c d) : Agree R (c.map f) (d.map f) := by
  cases h with
  | ok a => exact .ok (f a)
  | error h => exact .error h

theorem both (ht : Tolerates may R) {a c : Checked α} {b d : Checked β} (ha : Agree R a c) (hb : Agree R b d) :
    Agree R (both a b) (both c d) := by
  cases ha with
  | ok a =>
      cases hb with
      | ok b => exact .ok (a, b)
      | error hb => exact .error hb
  | error ha =>
      cases hb with
      | ok b => exact .error ha
      | error hb =>
          refine .error ?_
          rw [told_append, told_append]
          exact ht.append ha hb

theorem under (ht : Tolerates may R) (segment : Segment) {c d : Checked α} (h : Agree R c d) :
    Agree R (c.under segment) (d.under segment) := by
  cases h with
  | ok a => exact .ok a
  | error h =>
      refine .error ?_
      rw [told_under, told_under]
      exact ht.under segment h

end Agree

end Checked

section Fields

variable {α : Type} {may : Touch} {R : List Entry → List Entry → Prop} {role : Role} {v w : Json}
  {ms ns : List (String × Json)}

structure LooksOutside (read : Json → Checked α) : Prop where
  object : ∀ ms ns, read (.object ms) = read (.object ns)
  array : ∀ vs ws, read (.array vs) = read (.array ws)

theorem LooksOutside.agrees {read : Json → Checked α} (hread : LooksOutside read) (ht : Tolerates may R)
    (h : Rewrite may role v w) : Agree R (read v) (read w) := by
  cases h.rewritten with
  | object _ => exact .of_eq ht (hread.object _ _)
  | array _ _ _ => exact .of_eq ht (hread.array _ _)

end Fields

section Readers

variable {may : Touch} {R : List Entry → List Entry → Prop} {role : Role} {v w : Json}
  {ms ns : List (String × Json)}

end Readers

section Verdicts

variable {may : Touch} {R : List Entry → List Entry → Prop} {v w : Json} {text text' : String}

end Verdicts

end PullComment.Schema
