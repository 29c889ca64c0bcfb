import PullComment.Proofs.Schema.Reading
import PullComment.Schema.Input

namespace PullComment.Schema

open Checked Readable

def Result.Valid (r : Result) : Prop :=
  r.path ≠ "" ∧ r.variant.outcome.Filled

def Record.Valid : Record → Prop
  | .variant w => w.outcome.Filled
  | .result r => r.Valid
  | .response r => ∀ x ∈ r.results, x.Valid

theorem Response.isSome_outcome_content (r : Response (List Result)) :
    ∀ p ∈ r.content.results, p.outcome.isSome := by
  intro p hp
  obtain ⟨x, -, rfl⟩ := List.mem_map.mp hp
  rfl

def Shape.IsLeaf {ι : Type} : Shape ι → Prop
  | .array _ => False
  | .object _ => False
  | .tuple _ => False
  | .record _ => False
  | _ => True

inductive Sound {ι : Type} [Readable ι] : ι → Prop
  | intro {v : ι} (items : ∀ xs, shape v = .array xs → ∀ x ∈ xs, Sound x)
      (parts : ∀ xs, shape v = .tuple xs → ∀ x ∈ xs, Sound x)
      (members : ∀ ms, shape v = .object ms → ∀ m ∈ ms, Sound m.2)
      (record : ∀ r, shape v = .record r → r.Valid) : Sound v

namespace Sound

variable {ι : Type} [Readable ι] {v : ι}

theorem items (h : Sound v) : ∀ xs, shape v = .array xs → ∀ x ∈ xs, Sound x := by
  obtain ⟨hitems, -, -, -⟩ := h
  exact hitems

theorem parts (h : Sound v) : ∀ xs, shape v = .tuple xs → ∀ x ∈ xs, Sound x := by
  obtain ⟨-, hparts, -, -⟩ := h
  exact hparts

theorem members (h : Sound v) : ∀ ms, shape v = .object ms → ∀ m ∈ ms, Sound m.2 := by
  obtain ⟨-, -, hmembers, -⟩ := h
  exact hmembers

theorem record (h : Sound v) : ∀ r, shape v = .record r → r.Valid := by
  obtain ⟨-, -, -, hrecord⟩ := h
  exact hrecord

theorem of_array {xs : List ι} (hs : shape v = .array xs) (h : ∀ x ∈ xs, Sound x) : Sound v := by
  constructor <;> rw [hs] <;> rintro _ ⟨⟩
  exact h

theorem of_tuple {xs : List ι} (hs : shape v = .tuple xs) (h : ∀ x ∈ xs, Sound x) : Sound v := by
  constructor <;> rw [hs] <;> rintro _ ⟨⟩
  exact h

theorem of_object {ms : List (String × ι)} (hs : shape v = .object ms) (h : ∀ m ∈ ms, Sound m.2) :
    Sound v := by
  constructor <;> rw [hs] <;> rintro _ ⟨⟩
  exact h

theorem of_record {r : Record} (hs : shape v = .record r) (h : r.Valid) : Sound v := by
  constructor <;> rw [hs] <;> rintro _ ⟨⟩
  exact h

theorem of_leaf (hs : (shape v).IsLeaf) : Sound v := by
  constructor <;> intro _ h <;> rw [h] at hs <;> cases hs

end Sound

section Readers

variable {ι : Type} [Readable ι]

theorem get?_sound {name : String} {members : List (String × ι)} {v : ι}
    (h : Members.get? name members = some v) (hm : ∀ m ∈ members, Sound m.2) : Sound v := by
  obtain ⟨before, after, rfl, -⟩ := Members.get?_eq_some_iff.mp h
  exact hm (name, v) (by simp)

theorem readVariantMembers_eq_ok {kind : Kind} {members : List (String × ι)} {w : Variant}
    (h : readVariantMembers kind members = .ok w) : w.kind = kind ∧ w.outcome.Filled :=
  readOutcome_eq_ok (readVariantMembers_eq_ok_iff.mp h).2.1

theorem readVariant_valid {kind : Kind} {v : ι} {w : Variant} (hv : Sound v)
    (h : readVariant kind v = .ok w) : w.kind = kind ∧ w.outcome.Filled := by
  unfold readVariant at h
  split at h
  · exact readVariantMembers_eq_ok h
  · rename_i x hx
    split at h
    · rename_i hk
      cases h
      exact ⟨hk, hv.record _ hx⟩
    · cases h
  · cases h

theorem readOverlaid_ne_ok {r : Record} {members : List (String × ι)} {w : Variant} :
    readOverlaid r members ≠ .ok w := by
  intro h
  unfold readOverlaid at h
  split at h
  · obtain ⟨kind, -, hk⟩ := readByTag_eq_ok_iff.mp h
    cases hk
  · cases h
  · cases h

theorem readTagged_valid {v : ι} {w : Variant} (hv : Sound v) (h : readTagged v = .ok w) :
    w.outcome.Filled := by
  unfold readTagged at h
  split at h
  · split at h
    · obtain ⟨kind, -, hk⟩ := readByTag_eq_ok_iff.mp h
      exact (readVariantMembers_eq_ok hk).2
    · cases h
  · rename_i x hx
    cases h
    exact hv.record _ hx
  · cases h
  · split at h
    · exact absurd h readOverlaid_ne_ok
    · cases h
  · cases h

theorem readResult_valid {v : ι} {r : Result} (hv : Sound v) (h : readResult v = .ok r) : r.Valid := by
  unfold readResult at h
  split at h
  · rename_i members hm
    obtain ⟨hpath, houtcome, -⟩ := readResultMembers_eq_ok_iff.mp h
    obtain ⟨path, -, hpath⟩ := required_eq_ok_iff.mp hpath
    obtain ⟨outcome, hget, hread⟩ := required_eq_ok_iff.mp houtcome
    exact ⟨(readFilledText_eq_ok_iff.mp hpath).2,
      readTagged_valid (get?_sound hget (hv.members members hm)) hread⟩
  · rename_i x hx
    cases h
    exact hv.record _ hx
  · cases h

theorem readItems_valid {items : List ι} {rs : List Result} (hv : ∀ v ∈ items, Sound v)
    (h : readItems items = .ok rs) : ∀ r ∈ rs, r.Valid := by
  have hall := readItems_eq_ok_iff.mp h
  induction hall with
  | nil => intro r hr; cases hr
  | cons hread hrest ih =>
      obtain ⟨hv, hvs⟩ := List.forall_mem_cons.mp hv
      exact List.forall_mem_cons.mpr ⟨readResult_valid hv hread, ih hvs (readItems_eq_ok_iff.mpr hrest)⟩

theorem readResults_valid {v : ι} {rs : List Result} (hv : Sound v) (h : readResults v = .ok rs) :
    ∀ r ∈ rs, r.Valid := by
  unfold readResults at h
  split at h
  · exact readItems_valid (hv.items _ ‹_›) h
  · exact readItems_valid (hv.parts _ ‹_›) h
  · cases h
  · cases h

theorem readResponse_valid {v : ι} {r : Response (List Result)} (hv : Sound v)
    (h : readResponse v = .ok r) : ∀ x ∈ r.results, x.Valid := by
  unfold readResponse at h
  split at h
  · rename_i members hm
    obtain ⟨-, -, hresults, -⟩ := readResponseMembers_eq_ok_iff.mp h
    rcases optional_eq_ok_iff.mp hresults with ⟨-, hnil, -⟩ | ⟨results, hget, hread, -⟩
    · rw [hnil]
      intro x hx
      cases hx
    · exact readResults_valid (get?_sound hget (hv.members members hm)) hread
  · rename_i x hx
    cases h
    exact hv.record _ hx
  · cases h

theorem readAs_valid {model : Model} {v : ι} {r : Record} (hv : Sound v) (h : readAs model v = .ok r) :
    r.model = model ∧ r.Valid := by
  cases model with
  | variant kind =>
      obtain ⟨w, hw, rfl⟩ := map_eq_ok_iff.mp h
      obtain ⟨hkind, hfilled⟩ := readVariant_valid hv hw
      exact ⟨congrArg Model.variant hkind, hfilled⟩
  | projectResult =>
      obtain ⟨x, hx, rfl⟩ := map_eq_ok_iff.mp h
      exact ⟨rfl, readResult_valid hv hx⟩
  | commandResponse =>
      obtain ⟨x, hx, rfl⟩ := map_eq_ok_iff.mp h
      exact ⟨rfl, readResponse_valid hv hx⟩

end Readers

mutual

theorem sound_json : ∀ v : Json, Sound v
  | .null => .of_leaf trivial
  | .bool _ => .of_leaf trivial
  | .number _ => .of_leaf trivial
  | .string _ => .of_leaf trivial
  | .array items => .of_array rfl (sound_items items)
  | .object members => .of_object rfl (sound_members members)

theorem sound_items : ∀ items : List Json, ∀ x ∈ items, Sound x
  | [] => by simp
  | item :: items => List.forall_mem_cons.mpr ⟨sound_json item, sound_items items⟩

theorem sound_members : ∀ members : List (String × Json), ∀ m ∈ members, Sound m.2
  | [] => by simp
  | (_, v) :: members => List.forall_mem_cons.mpr ⟨sound_json v, sound_members members⟩

end

theorem sound_normalize {members : List (String × Value)} (h : ∀ m ∈ members, Sound m.2) :
    ∀ m ∈ Members.normalize members, Sound m.2 := by
  rintro ⟨name, v⟩ hm
  exact get?_sound (Members.mem_normalize.mp hm) h

mutual

theorem sound_ofJson : ∀ v : Json, Sound (Value.ofJson v)
  | .null => .of_leaf trivial
  | .bool _ => .of_leaf trivial
  | .number _ => .of_leaf trivial
  | .string _ => .of_leaf trivial
  | .array items => .of_array rfl (sound_ofItems items)
  | .object members => .of_object rfl (sound_normalize (sound_ofMembers members))

theorem sound_ofItems : ∀ items : List Json, ∀ x ∈ Value.ofItems items, Sound x
  | [] => by simp [Value.ofItems]
  | item :: items => List.forall_mem_cons.mpr ⟨sound_ofJson item, sound_ofItems items⟩

theorem sound_ofMembers : ∀ members : List (String × Json), ∀ m ∈ Value.ofMembers members, Sound m.2
  | [] => by simp [Value.ofMembers]
  | (_, v) :: members => List.forall_mem_cons.mpr ⟨sound_ofJson v, sound_ofMembers members⟩

end

theorem reported_eq_ok_iff {α : Type} {m : Medium} {c : Checked α} {a : α} :
    reported m c = .ok a ↔ c = .ok a := by
  cases c <;> simp [reported]

theorem validateMemory_valid {model : Model} {v : Value} {r : Record} (hv : Sound v)
    (h : validateMemory model v = .ok r) : r.model = model ∧ r.Valid :=
  readAs_valid hv (reported_eq_ok_iff.mp h)

theorem validated_eq_ok_iff {α : Type} {e : Except ValidationError α} {a : α} :
    validated e = .ok a ↔ e = .ok a := by
  cases e <;> simp [validated]

theorem bind_eq_ok_iff {ε α β : Type} {x : Except ε α} {f : α → Except ε β} {b : β} :
    (x >>= f) = .ok b ↔ ∃ a, x = .ok a ∧ f a = .ok b := by
  cases x <;> simp [bind, Except.bind]

namespace Described

theorem buildTuple_sound {whole : Json} {v : Value} (h : buildTuple whole = .ok v) : Sound v := by
  unfold buildTuple at h
  split at h
  · cases h
    refine .of_tuple rfl fun x hx => ?_
    obtain ⟨item, -, rfl⟩ := List.mem_map.mp hx
    exact sound_ofJson item
  · cases h

theorem buildOctets_sound {digits : Json} {v : Value} (h : buildOctets digits = .ok v) : Sound v := by
  unfold buildOctets at h
  split at h
  · split at h
    · cases h
      exact .of_leaf trivial
    · cases h
  · cases h

mutual

theorem build_sound : ∀ (d : Described) {v : Value}, d.build = .ok v → Sound v
  | .null, v, h => by cases h; exact .of_leaf trivial
  | .bool _, v, h => by cases h; exact .of_leaf trivial
  | .number _, v, h => by cases h; exact .of_leaf trivial
  | .string _, v, h => by cases h; exact .of_leaf trivial
  | .array items, v, h => by
      obtain ⟨vs, hvs, rfl⟩ := map_eq_ok_iff.mp h
      exact .of_array rfl (buildItems_sound items hvs)
  | .object members, v, h => by
      obtain ⟨vs, hvs, rfl⟩ := map_eq_ok_iff.mp h
      exact .of_object rfl (buildMembers_sound members hvs)
  | .tuple items, v, h => by
      obtain ⟨vs, hvs, rfl⟩ := map_eq_ok_iff.mp h
      exact .of_tuple rfl (buildItems_sound items hvs)
  | .tupleOf _, v, h => buildTuple_sound h
  | .octets _, v, h => buildOctets_sound h
  | .raised e, v, h => by
      rw [build] at h
      split at h
      · cases h
      · cases h
        exact .of_leaf trivial
  | .record name source, v, h => by
      rw [build] at h
      split at h
      · cases h
      · obtain ⟨inner, hinner, h⟩ := bind_eq_ok_iff.mp h
        obtain ⟨r, hr, rfl⟩ := map_eq_ok_iff.mp h
        exact .of_record rfl
          (validateMemory_valid (build_sound source hinner) (validated_eq_ok_iff.mp hr)).2

theorem buildItems_sound : ∀ (items : List Described) {vs : List Value},
    buildItems items = .ok vs → ∀ x ∈ vs, Sound x
  | [], vs, h => by cases h; simp
  | item :: items, vs, h => by
      obtain ⟨w, hw, h⟩ := bind_eq_ok_iff.mp h
      obtain ⟨ws, hws, h⟩ := bind_eq_ok_iff.mp h
      cases h
      exact List.forall_mem_cons.mpr ⟨build_sound item hw, buildItems_sound items hws⟩

theorem buildMembers_sound : ∀ (members : List (String × Described)) {vs : List (String × Value)},
    buildMembers members = .ok vs → ∀ m ∈ vs, Sound m.2
  | [], vs, h => by cases h; simp
  | (_, d) :: members, vs, h => by
      obtain ⟨w, hw, h⟩ := bind_eq_ok_iff.mp h
      obtain ⟨ws, hws, h⟩ := bind_eq_ok_iff.mp h
      cases h
      exact List.forall_mem_cons.mpr ⟨build_sound d hw, buildMembers_sound members hws⟩

end

end Described

theorem Input.validate_valid {model : Model} {input : Input} {r : Record}
    (h : input.validate model = .ok r) : r.model = model ∧ r.Valid := by
  cases input with
  | text s =>
      have hread := validated_eq_ok_iff.mp h
      unfold readJsonText at hread
      split at hread
      · exact readAs_valid (sound_json _) (reported_eq_ok_iff.mp hread)
      · cases hread
  | json v =>
      have hread := validated_eq_ok_iff.mp h
      unfold readJsonValue at hread
      split at hread
      · exact readAs_valid (sound_json v) (reported_eq_ok_iff.mp hread)
      · cases hread
  | memory d =>
      obtain ⟨v, hv, hread⟩ := bind_eq_ok_iff.mp h
      exact validateMemory_valid (Described.build_sound d hv) (validated_eq_ok_iff.mp hread)

end PullComment.Schema
