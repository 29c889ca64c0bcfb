import PullComment.Proofs.Schema.Composition
import PullComment.Proofs.Schema.Lossless

namespace PullComment.Schema

open Checked Readable

theorem ofMembers_eq_map (members : List (String × Json)) :
    Value.ofMembers members = members.map fun m => (m.1, Value.ofJson m.2) := by
  induction members with
  | nil => rfl
  | cons m members ih => rw [Value.ofMembers, ih, List.map_cons]

theorem mirrors_ofMembers (members : List (String × Json)) :
    Members.Mirrors Value.ofJson members (Members.normalize (Value.ofMembers members)) :=
  ofMembers_eq_map members ▸ Members.mirrors_normalize_map Value.ofJson members

namespace Described

mutual

def ofJson : Json → Described
  | .null => .null
  | .bool b => .bool b
  | .number n => .number n
  | .string s => .string s
  | .array items => .array (ofItems items)
  | .object members => .object (Members.normalize (ofMembers members))

def ofItems : List Json → List Described
  | [] => []
  | item :: items => ofJson item :: ofItems items

def ofMembers : List (String × Json) → List (String × Described)
  | [] => []
  | (name, v) :: members => (name, ofJson v) :: ofMembers members

end

theorem ofMembers_eq_map (members : List (String × Json)) :
    ofMembers members = members.map fun m => (m.1, ofJson m.2) := by
  induction members with
  | nil => rfl
  | cons m members ih => rw [ofMembers, ih, List.map_cons]

theorem buildMembers_map {members : List (String × Json)}
    (h : ∀ m ∈ members, (ofJson m.2).build = .ok (Value.ofJson m.2)) :
    buildMembers (members.map fun m => (m.1, ofJson m.2)) =
      .ok (members.map fun m => (m.1, Value.ofJson m.2)) := by
  induction members with
  | nil => rfl
  | cons m members ih =>
      obtain ⟨hm, hmembers⟩ := List.forall_mem_cons.mp h
      rw [List.map_cons, buildMembers, hm, ih hmembers]
      rfl

mutual

theorem build_ofJson : ∀ v : Json, (ofJson v).build = .ok (Value.ofJson v)
  | .null => rfl
  | .bool _ => rfl
  | .number _ => rfl
  | .string _ => rfl
  | .array items => by
      rw [ofJson, build, buildItems_ofItems items]
      rfl
  | .object members => by
      have hmembers : ∀ m ∈ Members.normalize members, (ofJson m.2).build = .ok (Value.ofJson m.2) := by
        intro m hm
        obtain ⟨before, after, rfl, -⟩ := Members.get?_eq_some_iff.mp (Members.mem_normalize.mp hm)
        exact build_of_mem (before ++ m :: after) m (by simp)
      rw [ofJson, ofMembers_eq_map, Members.normalize_map, build, buildMembers_map hmembers, Value.ofJson,
        Schema.ofMembers_eq_map, Members.normalize_map]
      rfl

theorem buildItems_ofItems : ∀ items : List Json, buildItems (ofItems items) = .ok (Value.ofItems items)
  | [] => rfl
  | item :: items => by
      rw [ofItems, buildItems, build_ofJson item, buildItems_ofItems items]
      rfl

theorem build_of_mem : ∀ members : List (String × Json), ∀ m ∈ members,
    (ofJson m.2).build = .ok (Value.ofJson m.2)
  | [] => by simp
  | (_, v) :: members => List.forall_mem_cons.mpr ⟨build_ofJson v, build_of_mem members⟩

end

end Described

section Shown

theorem quotedMembers_value (members : List (String × Value)) :
    Value.quotedMembers members = members.map fun m => (m.1, m.2.quoted) := by
  induction members with
  | nil => rfl
  | cons m members ih => rw [Value.quotedMembers, ih, List.map_cons]

mutual

theorem quoted_ofJson : ∀ v : Json, (Value.ofJson v).quoted = v.quoted
  | .null => rfl
  | .bool _ => rfl
  | .number _ => rfl
  | .string _ => rfl
  | .array items => congrArg listText (quotedItems_ofItems items)
  | .object members => by
      rw [Value.ofJson, Value.quoted, quotedMembers_value, ← Members.normalize_map, ← quotedMembers_value,
        quotedMembers_ofMembers members, Json.quoted]

theorem quotedItems_ofItems : ∀ items : List Json,
    Value.quotedItems (Value.ofItems items) = Json.quotedItems items
  | [] => rfl
  | item :: items => by
      rw [Value.ofItems, Value.quotedItems, quoted_ofJson item, quotedItems_ofItems items, Json.quotedItems]

theorem quotedMembers_ofMembers : ∀ members : List (String × Json),
    Value.quotedMembers (Value.ofMembers members) = Json.quotedMembers members
  | [] => rfl
  | (_, v) :: members => by
      rw [Value.ofMembers, Value.quotedMembers, quoted_ofJson v, quotedMembers_ofMembers members,
        Json.quotedMembers]

end

theorem shown_ofJson (v : Json) : (Value.ofJson v).shown = v.shown := by
  cases v with
  | string s => rfl
  | _ => exact quoted_ofJson _

end Shown

section Readers

variable {ι κ α : Type} {f : ι → κ} {read : ι → Checked α} {read' : κ → Checked α}

theorem required_mirrored {l : List (String × ι)} {r : List (String × κ)} (h : Members.Mirrors f l r)
    (hread : ∀ v, read' (f v) = read v) (name : String) : required name read' r = required name read l := by
  rw [required, required, h.get?_eq]
  cases Members.get? name l with
  | none => rfl
  | some v => exact congrArg (Checked.under (.field name)) (hread v)

theorem optional_mirrored {l : List (String × ι)} {r : List (String × κ)} (h : Members.Mirrors f l r)
    (hread : ∀ v, read' (f v) = read v) (name : String) (absent : α) :
    optional name absent read' r = optional name absent read l := by
  rw [optional, optional, h.get?_eq]
  cases Members.get? name l with
  | none => rfl
  | some v => simp only [Option.map_some, hread]

theorem noUnknown_mirrored {l : List (String × ι)} {r : List (String × κ)} (h : Members.Mirrors f l r)
    (declared : List String) : noUnknown declared r = noUnknown declared l := by
  simp only [noUnknown, unknownNames, h.names_eq]

end Readers

section Reading

theorem readText_ofJson (v : Json) : readText (Value.ofJson v) = readText v := by
  cases v <;> rfl

theorem readFilledText_ofJson (v : Json) : readFilledText (Value.ofJson v) = readFilledText v := by
  rw [readFilledText, readText_ofJson, readFilledText]

theorem readMessage_ofJson (v : Json) : readMessage (Value.ofJson v) = readMessage v := by
  cases v <;> rfl

theorem readOptionalMessage_ofJson (v : Json) :
    readOptionalMessage (Value.ofJson v) = readOptionalMessage v := by
  cases v <;> rfl

theorem readKind_ofJson (kind : Kind) (v : Json) : readKind kind (Value.ofJson v) = readKind kind v := by
  cases v <;> rfl

theorem readByTag_ofJson (tag : Json) (read : Kind → Checked Variant) :
    readByTag (Value.ofJson tag) read = readByTag tag read := by
  cases tag with
  | string s => rfl
  | _ => exact congrArg (fun text => fail (.tagUnknown text)) (shown_ofJson _)

variable {members : List (String × Json)} {held : List (String × Value)}

theorem readOutcome_mirrored (h : Members.Mirrors Value.ofJson members held) (kind : Kind) :
    readOutcome kind held = readOutcome kind members := by
  cases kind <;>
    simp only [readOutcome, required_mirrored h readText_ofJson, required_mirrored h readFilledText_ofJson,
      required_mirrored h readMessage_ofJson]

theorem readVariantMembers_mirrored (h : Members.Mirrors Value.ofJson members held) (kind : Kind) :
    readVariantMembers kind held = readVariantMembers kind members := by
  simp only [readVariantMembers, optional_mirrored h (readKind_ofJson kind), readOutcome_mirrored h,
    noUnknown_mirrored h]

theorem readVariant_ofJson (kind : Kind) (v : Json) :
    readVariant kind (Value.ofJson v) = readVariant kind v := by
  cases v with
  | object members => exact readVariantMembers_mirrored (mirrors_ofMembers members) kind
  | _ => rfl

theorem readTagged_ofJson (v : Json) : readTagged (Value.ofJson v) = readTagged v := by
  cases v with
  | object members =>
      have hm := mirrors_ofMembers members
      simp only [readTagged, shape, Shape.ofJson, Shape.ofValue, Value.ofJson, hm.get?_eq]
      cases Members.get? "kind" members with
      | none => rfl
      | some tag => simp only [Option.map_some, readByTag_ofJson, readVariantMembers_mirrored hm]
  | _ => rfl

theorem readResultMembers_mirrored (h : Members.Mirrors Value.ofJson members held) :
    readResultMembers held = readResultMembers members := by
  simp only [readResultMembers, required_mirrored h readFilledText_ofJson,
    required_mirrored h readTagged_ofJson, noUnknown_mirrored h]

theorem readResult_ofJson (v : Json) : readResult (Value.ofJson v) = readResult v := by
  cases v with
  | object members => exact readResultMembers_mirrored (mirrors_ofMembers members)
  | _ => rfl

theorem readItemsFrom_ofItems (i : Nat) (items : List Json) :
    readItemsFrom i (Value.ofItems items) = readItemsFrom i items := by
  induction items generalizing i with
  | nil => rfl
  | cons item items ih => rw [Value.ofItems, readItemsFrom, readResult_ofJson, ih, readItemsFrom]

theorem readResults_ofJson (v : Json) : readResults (Value.ofJson v) = readResults v := by
  cases v with
  | array items => exact congrArg all (readItemsFrom_ofItems 0 items)
  | _ => rfl

theorem readResponseMembers_mirrored (h : Members.Mirrors Value.ofJson members held) :
    readResponseMembers held = readResponseMembers members := by
  simp only [readResponseMembers, optional_mirrored h readOptionalMessage_ofJson,
    optional_mirrored h readText_ofJson, optional_mirrored h readResults_ofJson, noUnknown_mirrored h]

theorem readResponse_ofJson (v : Json) : readResponse (Value.ofJson v) = readResponse v := by
  cases v with
  | object members => exact readResponseMembers_mirrored (mirrors_ofMembers members)
  | _ => rfl

theorem readAs_ofJson (model : Model) (v : Json) : readAs model (Value.ofJson v) = readAs model v := by
  cases model with
  | variant kind => rw [readAs, readVariant_ofJson, readAs]
  | projectResult => rw [readAs, readResult_ofJson, readAs]
  | commandResponse => rw [readAs, readResponse_ofJson, readAs]

end Reading

section Wording

def ValidationError.entries (e : ValidationError) : List (List Segment × String) :=
  e.violations.map fun v => (v.place, v.cause.code e.medium)

def Violation.OutcomeInPlace (e : Violation) : Prop :=
  e.cause = .outcomeNotAnObject → e.place.getLast? = some (.field "outcome")

theorem Violation.OutcomeInPlace.under {e : Violation} (h : e.OutcomeInPlace) (segment : Segment) :
    (e.under segment).OutcomeInPlace := by
  intro hcause
  rw [Violation.under, List.getLast?_cons, h hcause]
  rfl

end Wording

theorem validate_memory_ofJson (model : Model) (v : Json) :
    (Input.memory (.ofJson v)).validate model = validated (reported .memory (readAs model v)) := by
  rw [Input.validate, Input.readWith, Described.build_ofJson, ← readAs_ofJson]
  rfl

theorem validate_json_of_withinLimits {model : Model} {v : Json} (h : v.WithinLimits) :
    (Input.json v).validate model = validated (reported .json (readAs model v)) := by
  rw [Input.validate, Input.readWith, readJsonValue, if_pos h]

end PullComment.Schema
