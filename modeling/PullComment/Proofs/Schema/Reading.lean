import Mathlib.Data.List.Forall2
import PullComment.Proofs.Members
import PullComment.Schema.Validation

namespace PullComment

def Outcome.Filled : Outcome → Prop
  | .error _ => True
  | .failure message => message ≠ ""
  | .planSuccess _ _ => True
  | .applySuccess output => output ≠ ""

namespace Schema

namespace Checked

variable {α β : Type}

theorem fail_ne_ok {cause : Cause} {a : α} : (fail cause : Checked α) ≠ .ok a := by
  simp [fail]

theorem map_eq_ok_iff {ε : Type} {f : α → β} {c : Except ε α} {b : β} :
    c.map f = .ok b ↔ ∃ a, c = .ok a ∧ f a = b := by
  cases c <;> simp [Except.map]

theorem both_eq_ok_iff {a : Checked α} {b : Checked β} {p : α × β} :
    both a b = .ok p ↔ a = .ok p.1 ∧ b = .ok p.2 := by
  obtain ⟨x, y⟩ := p
  cases a <;> cases b <;> simp [both]

theorem under_eq_ok_iff {segment : Segment} {c : Checked α} {a : α} :
    c.under segment = .ok a ↔ c = .ok a := by
  cases c <;> simp [under]

theorem all_eq_ok_iff {cs : List (Checked α)} {as : List α} : all cs = .ok as ↔ cs = as.map .ok := by
  induction cs generalizing as with
  | nil => cases as <;> simp [all]
  | cons c cs ih =>
      cases as with
      | nil => simp [all, map_eq_ok_iff]
      | cons a as => simp [all, map_eq_ok_iff, both_eq_ok_iff, ih]

end Checked

open Checked Readable

section Parts

variable {ι α : Type}

theorem required_eq_ok_iff {name : String} {read : ι → Checked α} {members : List (String × ι)} {a : α} :
    required name read members = .ok a ↔ ∃ v, Members.get? name members = some v ∧ read v = .ok a := by
  cases h : Members.get? name members <;> simp [required, h, under_eq_ok_iff, fail_ne_ok]

theorem optional_eq_ok_iff {name : String} {absent : α} {read : ι → Checked α}
    {members : List (String × ι)} {a : α} {given : Bool} :
    optional name absent read members = .ok (a, given) ↔
      (Members.get? name members = none ∧ a = absent ∧ given = false) ∨
        ∃ v, Members.get? name members = some v ∧ read v = .ok a ∧ given = true := by
  cases h : Members.get? name members with
  | none => simp [optional, h, eq_comm]
  | some v =>
      simp only [optional, h, map_eq_ok_iff, under_eq_ok_iff, Prod.mk.injEq, reduceCtorEq, false_and,
        Option.some.injEq, exists_eq_left', false_or]
      constructor
      · rintro ⟨b, hb, rfl, rfl⟩
        exact ⟨hb, rfl⟩
      · rintro ⟨ha, rfl⟩
        exact ⟨a, ha, rfl, rfl⟩

theorem unknownNames_eq_nil_iff {declared : List String} {members : List (String × ι)} :
    unknownNames declared members = [] ↔ ∀ name ∈ members.map Prod.fst, name ∈ declared := by
  simp only [unknownNames, List.filter_eq_nil_iff, Members.names, Members.mem_distinct]
  simp

theorem noUnknown_eq_ok_iff {declared : List String} {members : List (String × ι)} {u : Unit} :
    noUnknown declared members = .ok u ↔ ∀ name ∈ members.map Prod.fst, name ∈ declared := by
  rw [← unknownNames_eq_nil_iff]
  unfold noUnknown
  cases unknownNames declared members <;> simp

variable [Readable ι]

theorem readFilledText_eq_ok_iff {v : ι} {s : String} :
    readFilledText v = .ok s ↔ readText v = .ok s ∧ s ≠ "" := by
  unfold readFilledText
  cases readText v with
  | error vs => simp
  | ok t =>
      by_cases h : t = "" <;> simp only [h, ↓reduceIte, fail_ne_ok, false_iff, Except.ok.injEq]
      · rintro ⟨rfl, hne⟩
        exact hne rfl
      · constructor
        · rintro rfl
          exact ⟨rfl, h⟩
        · exact And.left

theorem readOutcome_eq_ok {kind : Kind} {members : List (String × ι)} {o : Outcome}
    (h : readOutcome kind members = .ok o) : o.kind = kind ∧ o.Filled := by
  cases kind with
  | error =>
      obtain ⟨a, -, rfl⟩ := map_eq_ok_iff.mp h
      exact ⟨rfl, trivial⟩
  | failure =>
      obtain ⟨a, ha, rfl⟩ := map_eq_ok_iff.mp h
      obtain ⟨v, -, hv⟩ := required_eq_ok_iff.mp ha
      exact ⟨rfl, (readFilledText_eq_ok_iff.mp hv).2⟩
  | planSuccess =>
      obtain ⟨a, -, rfl⟩ := map_eq_ok_iff.mp h
      exact ⟨rfl, trivial⟩
  | applySuccess =>
      obtain ⟨a, ha, rfl⟩ := map_eq_ok_iff.mp h
      obtain ⟨v, -, hv⟩ := required_eq_ok_iff.mp ha
      exact ⟨rfl, (readFilledText_eq_ok_iff.mp hv).2⟩

theorem readByTag_eq_ok_iff {tag : ι} {read : Kind → Checked Variant} {w : Variant} :
    readByTag tag read = .ok w ↔ ∃ kind : Kind, shape tag = .string kind.tag ∧ read kind = .ok w := by
  unfold readByTag
  constructor
  · intro h
    split at h
    · rename_i s hs
      split at h
      · rename_i kind hkind
        exact ⟨kind, Kind.tag_of_ofTag? hkind ▸ hs, under_eq_ok_iff.mp h⟩
      · exact absurd h fail_ne_ok
    · exact absurd h fail_ne_ok
  · rintro ⟨kind, hs, h⟩
    simp only [hs, Kind.ofTag?_tag, under_eq_ok_iff, h]

theorem readVariantMembers_eq_ok_iff {kind : Kind} {members : List (String × ι)} {w : Variant} :
    readVariantMembers kind members = .ok w ↔
      optional "kind" () (readKind kind) members = .ok ((), w.kindGiven) ∧
        readOutcome kind members = .ok w.outcome ∧
        ∀ name ∈ members.map Prod.fst, name ∈ (Model.variant kind).fieldNames := by
  unfold readVariantMembers
  rw [map_eq_ok_iff]
  constructor
  · rintro ⟨⟨⟨⟨⟩, given⟩, o, ⟨⟩⟩, h, rfl⟩
    obtain ⟨hkind, hrest⟩ := both_eq_ok_iff.mp h
    obtain ⟨houtcome, hnames⟩ := both_eq_ok_iff.mp hrest
    exact ⟨hkind, houtcome, noUnknown_eq_ok_iff.mp hnames⟩
  · rintro ⟨hkind, houtcome, hnames⟩
    exact ⟨(((), w.kindGiven), w.outcome, ()), both_eq_ok_iff.mpr ⟨hkind,
      both_eq_ok_iff.mpr ⟨houtcome, noUnknown_eq_ok_iff.mpr hnames⟩⟩, rfl⟩

theorem readResultMembers_eq_ok_iff {members : List (String × ι)} {r : Result} :
    readResultMembers members = .ok r ↔
      required "path" readFilledText members = .ok r.path ∧
        required "outcome" readTagged members = .ok r.variant ∧
        ∀ name ∈ members.map Prod.fst, name ∈ Model.projectResult.fieldNames := by
  unfold readResultMembers
  rw [map_eq_ok_iff]
  constructor
  · rintro ⟨⟨path, w, ⟨⟩⟩, h, rfl⟩
    obtain ⟨hpath, hrest⟩ := both_eq_ok_iff.mp h
    obtain ⟨houtcome, hnames⟩ := both_eq_ok_iff.mp hrest
    exact ⟨hpath, houtcome, noUnknown_eq_ok_iff.mp hnames⟩
  · rintro ⟨hpath, houtcome, hnames⟩
    exact ⟨(r.path, r.variant, ()), both_eq_ok_iff.mpr ⟨hpath,
      both_eq_ok_iff.mpr ⟨houtcome, noUnknown_eq_ok_iff.mpr hnames⟩⟩, rfl⟩

theorem readResponseMembers_eq_ok_iff {members : List (String × ι)} {r : Response (List Result)} :
    readResponseMembers members = .ok r ↔
      optional "error" none readOptionalMessage members = .ok (r.error, r.given.error) ∧
        optional "failure" "" readText members = .ok (r.failure, r.given.failure) ∧
        optional "project_results" [] readResults members = .ok (r.results, r.given.results) ∧
        ∀ name ∈ members.map Prod.fst, name ∈ Model.commandResponse.fieldNames := by
  unfold readResponseMembers
  rw [map_eq_ok_iff]
  constructor
  · rintro ⟨⟨⟨error, errorGiven⟩, ⟨failure, failureGiven⟩, ⟨results, resultsGiven⟩, ⟨⟩⟩, h, rfl⟩
    obtain ⟨herror, hrest⟩ := both_eq_ok_iff.mp h
    obtain ⟨hfailure, hrest⟩ := both_eq_ok_iff.mp hrest
    obtain ⟨hresults, hnames⟩ := both_eq_ok_iff.mp hrest
    exact ⟨herror, hfailure, hresults, noUnknown_eq_ok_iff.mp hnames⟩
  · rintro ⟨herror, hfailure, hresults, hnames⟩
    exact ⟨((r.error, r.given.error), (r.failure, r.given.failure), (r.results, r.given.results), ()),
      both_eq_ok_iff.mpr ⟨herror, both_eq_ok_iff.mpr ⟨hfailure,
        both_eq_ok_iff.mpr ⟨hresults, noUnknown_eq_ok_iff.mpr hnames⟩⟩⟩, rfl⟩

theorem readItemsFrom_eq_map_ok_iff {i : Nat} {items : List ι} {rs : List Result} :
    readItemsFrom i items = rs.map .ok ↔ List.Forall₂ (fun v r => readResult v = .ok r) items rs := by
  induction items generalizing i rs with
  | nil => cases rs <;> simp [readItemsFrom]
  | cons v items ih => cases rs <;> simp [readItemsFrom, under_eq_ok_iff, ih]

theorem readItems_eq_ok_iff {items : List ι} {rs : List Result} :
    readItems items = .ok rs ↔ List.Forall₂ (fun v r => readResult v = .ok r) items rs := by
  rw [readItems, all_eq_ok_iff, readItemsFrom_eq_map_ok_iff]

end Parts

def Field.Agrees (R : Json → Json → Prop) (members : List (String × Json)) (f : Field) : Prop :=
  (f.given = true ∧ ∃ v, Members.get? f.name members = some v ∧ R f.value v) ∨
    (f.given = false ∧ Members.get? f.name members = none ∧ f.default? = some f.value)

section JsonValues

theorem readText_json_eq_ok_iff {v : Json} {s : String} : readText v = .ok s ↔ v = .string s := by
  cases v <;> simp [readText, shape, Shape.ofJson, fail]

theorem readMessage_json (v : Json) : readMessage v = readText v := by
  cases v <;> rfl

theorem readOptionalMessage_json_eq_ok_iff {v : Json} {o : Option String} :
    readOptionalMessage v = .ok o ↔ v = (o.map Json.string).getD .null := by
  cases v <;> cases o <;> simp [readOptionalMessage, readMessage, readText, shape, Shape.ofJson, fail, Except.map]

theorem readKind_json_eq_ok_iff {kind : Kind} {v : Json} {u : Unit} :
    readKind kind v = .ok u ↔ v = .string kind.tag := by
  cases v with
  | string s => by_cases h : s = kind.tag <;> simp [readKind, shape, Shape.ofJson, fail, h]
  | _ => simp [readKind, shape, Shape.ofJson, fail]

theorem readOutcome_json_eq_ok_iff {kind : Kind} {members : List (String × Json)} {o : Outcome} :
    readOutcome kind members = .ok o ↔
      o.kind = kind ∧ o.Filled ∧ ∀ f ∈ outcomeFields o, f.Agrees Eq members := by
  cases kind <;> cases o <;>
    simp [readOutcome, map_eq_ok_iff, both_eq_ok_iff, required_eq_ok_iff, readFilledText_eq_ok_iff,
      readText_json_eq_ok_iff, readMessage_json, Outcome.kind, Outcome.Filled, outcomeFields, Field.Agrees,
      and_comm]

theorem readVariant_json_eq_ok_iff {kind : Kind} {v : Json} {w : Variant} :
    readVariant kind v = .ok w ↔
      w.kind = kind ∧ w.outcome.Filled ∧ ∃ members, v = .object members ∧
        (∀ f ∈ w.fields, f.Agrees Eq members) ∧
        ∀ name ∈ members.map Prod.fst, name ∈ (Model.variant kind).fieldNames := by
  have hkind {members : List (String × Json)} (h : w.kind = kind) :
      optional "kind" () (readKind kind) members = .ok ((), w.kindGiven) ↔
        Field.Agrees Eq members ⟨"kind", .string w.kind.tag, w.kindGiven, some (.string w.kind.tag)⟩ := by
    simp only [optional_eq_ok_iff, readKind_json_eq_ok_iff, Field.Agrees, h]
    cases w.kindGiven <;> simp
  constructor
  · intro h
    cases v with
    | object members =>
        obtain ⟨hk, ho, hn⟩ := readVariantMembers_eq_ok_iff.mp h
        obtain ⟨hok, hfilled, hfields⟩ := readOutcome_json_eq_ok_iff.mp ho
        refine ⟨hok, hfilled, members, rfl, ?_, hn⟩
        exact List.forall_mem_cons.mpr ⟨(hkind hok).mp hk, hfields⟩
    | _ => exact absurd h fail_ne_ok
  · rintro ⟨hok, hfilled, members, rfl, hfields, hn⟩
    obtain ⟨hk, ho⟩ := List.forall_mem_cons.mp hfields
    exact readVariantMembers_eq_ok_iff.mpr
      ⟨(hkind hok).mpr hk, readOutcome_json_eq_ok_iff.mpr ⟨hok, hfilled, ho⟩, hn⟩

theorem shape_json_eq_string_iff {v : Json} {s : String} : shape v = .string s ↔ v = .string s := by
  cases v <;> simp [shape, Shape.ofJson]

theorem readByTag_json_eq_ok_iff {tag : Json} {read : Kind → Checked Variant} {w : Variant} :
    readByTag tag read = .ok w ↔ ∃ kind : Kind, tag = .string kind.tag ∧ read kind = .ok w := by
  simp only [readByTag_eq_ok_iff, shape_json_eq_string_iff]

theorem readTagged_json_eq_ok_iff {v : Json} {w : Variant} :
    readTagged v = .ok w ↔ readVariant w.kind v = .ok w ∧ w.kindGiven = true := by
  cases v with
  | object members =>
      simp only [readTagged, readVariant, shape, Shape.ofJson]
      cases htag : Members.get? "kind" members with
      | none =>
          simp only [fail_ne_ok, false_iff, readVariantMembers_eq_ok_iff, optional_eq_ok_iff, htag]
          rintro ⟨⟨h, -⟩, hgiven⟩
          simp [hgiven] at h
      | some tag =>
          simp only [readByTag_json_eq_ok_iff]
          constructor
          · rintro ⟨kind, rfl, h⟩
            obtain ⟨hk, ho, -⟩ := readVariantMembers_eq_ok_iff.mp h
            obtain rfl : w.kind = kind := (readOutcome_eq_ok ho).1
            refine ⟨h, ?_⟩
            rcases optional_eq_ok_iff.mp hk with ⟨hnone, -⟩ | ⟨-, -, -, hgiven⟩
            · rw [htag] at hnone
              cases hnone
            · exact hgiven
          · rintro ⟨h, hgiven⟩
            obtain ⟨hk, -⟩ := readVariantMembers_eq_ok_iff.mp h
            rcases optional_eq_ok_iff.mp hk with ⟨hnone, -⟩ | ⟨v, hv, hread, -⟩
            · rw [htag] at hnone
              cases hnone
            · rw [htag] at hv
              cases hv
              exact ⟨w.kind, readKind_json_eq_ok_iff.mp hread, h⟩
  | _ => simp [readTagged, readVariant, shape, Shape.ofJson, fail]

theorem readResult_json_eq_ok_iff {v : Json} {r : Result} :
    readResult v = .ok r ↔
      r.path ≠ "" ∧ ∃ members outcome, v = .object members ∧
        Members.get? "path" members = some (.string r.path) ∧
        Members.get? "outcome" members = some outcome ∧ readTagged outcome = .ok r.variant ∧
        ∀ name ∈ members.map Prod.fst, name ∈ Model.projectResult.fieldNames := by
  constructor
  · intro h
    cases v with
    | object members =>
        obtain ⟨hpath, houtcome, hn⟩ := readResultMembers_eq_ok_iff.mp h
        obtain ⟨path, hget, hpath⟩ := required_eq_ok_iff.mp hpath
        obtain ⟨hpath, hne⟩ := readFilledText_eq_ok_iff.mp hpath
        obtain rfl := readText_json_eq_ok_iff.mp hpath
        obtain ⟨outcome, hout, hread⟩ := required_eq_ok_iff.mp houtcome
        exact ⟨hne, members, outcome, rfl, hget, hout, hread, hn⟩
    | _ => exact absurd h fail_ne_ok
  · rintro ⟨hne, members, outcome, rfl, hget, hout, hread, hn⟩
    have hpath : readFilledText (Json.string r.path) = .ok r.path :=
      readFilledText_eq_ok_iff.mpr ⟨readText_json_eq_ok_iff.mpr rfl, hne⟩
    exact readResultMembers_eq_ok_iff.mpr
      ⟨required_eq_ok_iff.mpr ⟨_, hget, hpath⟩, required_eq_ok_iff.mpr ⟨_, hout, hread⟩, hn⟩

theorem readResults_json_eq_ok_iff {v : Json} {rs : List Result} :
    readResults v = .ok rs ↔
      ∃ items, v = .array items ∧ List.Forall₂ (fun v r => readResult v = .ok r) items rs := by
  cases v <;> simp [readResults, shape, Shape.ofJson, readItems_eq_ok_iff, fail]

theorem readResponse_json_eq_ok_iff {v : Json} {r : Response (List Result)} :
    readResponse v = .ok r ↔
      ∃ members, v = .object members ∧
        optional "error" none readOptionalMessage members = .ok (r.error, r.given.error) ∧
        optional "failure" "" readText members = .ok (r.failure, r.given.failure) ∧
        optional "project_results" [] readResults members = .ok (r.results, r.given.results) ∧
        ∀ name ∈ members.map Prod.fst, name ∈ Model.commandResponse.fieldNames := by
  cases v <;> simp [readResponse, shape, Shape.ofJson, readResponseMembers_eq_ok_iff, fail]

end JsonValues

end Schema

end PullComment
