import PullComment.Proofs.Json.RoundTrip
import PullComment.Proofs.Json.SameValue
import PullComment.Proofs.Schema.Reading

namespace PullComment.Schema

section Forms

def IsText (v : Json) : Prop :=
  ∃ s, v = .string s

def IsFilledText (v : Json) : Prop :=
  ∃ s, v = .string s ∧ s ≠ ""

def IsTextOrNull (v : Json) : Prop :=
  v = .null ∨ IsText v

def Given (name : String) (form : Json → Prop) (members : List (String × Json)) : Prop :=
  ∃ v, Members.get? name members = some v ∧ form v

def IfGiven (name : String) (form : Json → Prop) (members : List (String × Json)) : Prop :=
  ∀ v, Members.get? name members = some v → form v

def OnlyDeclared (model : Model) (members : List (String × Json)) : Prop :=
  ∀ name ∈ members.map Prod.fst, name ∈ model.fieldNames

def HasTexts : Kind → List (String × Json) → Prop
  | .error, members => Given "message" IsText members
  | .failure, members => Given "message" IsFilledText members
  | .planSuccess, members => Given "terraform_output" IsText members ∧ Given "lock_url" IsText members
  | .applySuccess, members => Given "output" IsFilledText members

def IsVariant (kind : Kind) (v : Json) : Prop :=
  ∃ members, v = .object members ∧ IfGiven "kind" (· = .string kind.tag) members ∧
    HasTexts kind members ∧ OnlyDeclared (.variant kind) members

def IsOutcome (v : Json) : Prop :=
  ∃ kind : Kind, (∃ members, v = .object members ∧ Given "kind" (· = .string kind.tag) members) ∧
    IsVariant kind v

def IsResult (v : Json) : Prop :=
  ∃ members, v = .object members ∧ Given "path" IsFilledText members ∧
    Given "outcome" IsOutcome members ∧ OnlyDeclared .projectResult members

def IsResults (v : Json) : Prop :=
  ∃ items, v = .array items ∧ ∀ item ∈ items, IsResult item

def IsResponse (v : Json) : Prop :=
  ∃ members, v = .object members ∧ IfGiven "error" IsTextOrNull members ∧
    IfGiven "failure" IsText members ∧ IfGiven "project_results" IsResults members ∧
    OnlyDeclared .commandResponse members

def InGrammar : Model → Json → Prop
  | .variant kind => IsVariant kind
  | .projectResult => IsResult
  | .commandResponse => IsResponse

end Forms

def Checked.Accepted {α : Type} (c : Checked α) : Prop :=
  ∃ a, c = .ok a

namespace Checked

variable {α β : Type}

theorem not_accepted_fail {cause : Cause} : ¬ (fail cause : Checked α).Accepted := by
  rintro ⟨a, h⟩
  exact fail_ne_ok h

theorem accepted_map {f : α → β} {c : Checked α} : Accepted (c.map f) ↔ c.Accepted := by
  constructor
  · rintro ⟨b, h⟩
    obtain ⟨a, ha, -⟩ := map_eq_ok_iff.mp h
    exact ⟨a, ha⟩
  · rintro ⟨a, ha⟩
    exact ⟨f a, map_eq_ok_iff.mpr ⟨a, ha, rfl⟩⟩

theorem accepted_both {a : Checked α} {b : Checked β} : (both a b).Accepted ↔ a.Accepted ∧ b.Accepted := by
  constructor
  · rintro ⟨p, h⟩
    obtain ⟨ha, hb⟩ := both_eq_ok_iff.mp h
    exact ⟨⟨p.1, ha⟩, ⟨p.2, hb⟩⟩
  · rintro ⟨⟨x, ha⟩, ⟨y, hb⟩⟩
    exact ⟨(x, y), both_eq_ok_iff.mpr ⟨ha, hb⟩⟩

theorem accepted_under {segment : Segment} {c : Checked α} : (c.under segment).Accepted ↔ c.Accepted :=
  exists_congr fun _ => under_eq_ok_iff

theorem accepted_all {cs : List (Checked α)} : (all cs).Accepted ↔ ∀ c ∈ cs, c.Accepted := by
  induction cs with
  | nil => simp [all, Accepted]
  | cons c cs ih => rw [all, accepted_map, accepted_both, ih, List.forall_mem_cons]

end Checked

open Checked Readable

section Acceptance

variable {α : Type} {members : List (String × Json)}

theorem accepted_required {name : String} {read : Json → Checked α} :
    (required name read members).Accepted ↔ Given name (fun v => (read v).Accepted) members := by
  unfold required Given
  cases Members.get? name members with
  | none => simp [accepted_under, not_accepted_fail]
  | some v => simp [accepted_under]

theorem accepted_optional {name : String} {absent : α} {read : Json → Checked α} :
    (optional name absent read members).Accepted ↔ IfGiven name (fun v => (read v).Accepted) members := by
  unfold optional IfGiven
  cases Members.get? name members with
  | none => simp [Accepted]
  | some v => simp [accepted_map, accepted_under]

theorem accepted_noUnknown {model : Model} :
    (noUnknown model.fieldNames members).Accepted ↔ OnlyDeclared model members := by
  constructor
  · rintro ⟨u, h⟩
    exact noUnknown_eq_ok_iff.mp h
  · intro h
    exact ⟨(), noUnknown_eq_ok_iff.mpr h⟩

theorem accepted_readText {v : Json} : (readText v).Accepted ↔ IsText v :=
  exists_congr fun _ => readText_json_eq_ok_iff

theorem accepted_readFilledText {v : Json} : (readFilledText v).Accepted ↔ IsFilledText v :=
  exists_congr fun _ => by rw [readFilledText_eq_ok_iff, readText_json_eq_ok_iff]

theorem accepted_readOptionalMessage {v : Json} : (readOptionalMessage v).Accepted ↔ IsTextOrNull v := by
  simp only [Accepted, readOptionalMessage_json_eq_ok_iff, Option.exists]
  rfl

theorem accepted_readKind {kind : Kind} {v : Json} :
    (readKind kind v).Accepted ↔ v = .string kind.tag := by
  simp [Accepted, readKind_json_eq_ok_iff]

theorem accepted_readOutcome {kind : Kind} : (readOutcome kind members).Accepted ↔ HasTexts kind members := by
  cases kind <;>
    simp only [readOutcome, HasTexts, accepted_map, accepted_both, accepted_required, readMessage_json,
      accepted_readText, accepted_readFilledText]

theorem accepted_readVariantMembers {kind : Kind} :
    (readVariantMembers kind members).Accepted ↔ IsVariant kind (.object members) := by
  rw [readVariantMembers, accepted_map, accepted_both, accepted_both, accepted_optional,
    accepted_readOutcome, accepted_noUnknown]
  simp only [accepted_readKind, IsVariant, Json.object.injEq, exists_eq_left']

theorem accepted_readVariant {kind : Kind} {v : Json} : (readVariant kind v).Accepted ↔ IsVariant kind v := by
  cases v with
  | object members => exact accepted_readVariantMembers
  | _ => exact iff_of_false not_accepted_fail (by simp [IsVariant])

theorem accepted_readByTag {tag : Json} {read : Kind → Checked Variant} :
    (readByTag tag read).Accepted ↔ ∃ kind : Kind, tag = .string kind.tag ∧ (read kind).Accepted := by
  simp only [Accepted, readByTag_json_eq_ok_iff]
  exact ⟨fun ⟨w, kind, ht, hw⟩ => ⟨kind, ht, w, hw⟩, fun ⟨kind, ht, w, hw⟩ => ⟨w, kind, ht, hw⟩⟩

theorem accepted_readTagged {v : Json} : (readTagged v).Accepted ↔ IsOutcome v := by
  cases v with
  | object members =>
      simp only [readTagged, shape, Shape.ofJson, IsOutcome, Given, Json.object.injEq, exists_eq_left']
      cases Members.get? "kind" members with
      | none => simp [not_accepted_fail]
      | some tag => simp [accepted_readByTag, accepted_readVariantMembers]
  | _ => exact iff_of_false not_accepted_fail (by simp [IsOutcome])

theorem accepted_readResult {v : Json} : (readResult v).Accepted ↔ IsResult v := by
  cases v with
  | object members =>
      show (readResultMembers members).Accepted ↔ _
      rw [readResultMembers, accepted_map, accepted_both, accepted_both, accepted_required,
        accepted_required, accepted_noUnknown]
      simp only [accepted_readFilledText, accepted_readTagged, IsResult, Json.object.injEq, exists_eq_left']
  | _ => exact iff_of_false not_accepted_fail (by simp [IsResult])

theorem accepted_readItemsFrom {i : Nat} {items : List Json} :
    (∀ c ∈ readItemsFrom i items, c.Accepted) ↔ ∀ item ∈ items, IsResult item := by
  induction items generalizing i with
  | nil => simp [readItemsFrom]
  | cons item items ih =>
      rw [readItemsFrom, List.forall_mem_cons, List.forall_mem_cons, accepted_under, accepted_readResult, ih]

theorem accepted_readResults {v : Json} : (readResults v).Accepted ↔ IsResults v := by
  cases v with
  | array items =>
      show (all (readItemsFrom 0 items)).Accepted ↔ _
      rw [accepted_all, accepted_readItemsFrom]
      simp only [IsResults, Json.array.injEq, exists_eq_left']
  | _ => exact iff_of_false not_accepted_fail (by simp [IsResults])

theorem accepted_readResponse {v : Json} : (readResponse v).Accepted ↔ IsResponse v := by
  cases v with
  | object members =>
      show (readResponseMembers members).Accepted ↔ _
      rw [readResponseMembers, accepted_map, accepted_both, accepted_both, accepted_both,
        accepted_optional, accepted_optional, accepted_optional, accepted_noUnknown]
      simp only [accepted_readOptionalMessage, accepted_readText, accepted_readResults, IsResponse,
        Json.object.injEq, exists_eq_left']
  | _ => exact iff_of_false not_accepted_fail (by simp [IsResponse])

theorem accepted_readAs {model : Model} {v : Json} : (readAs model v).Accepted ↔ InGrammar model v := by
  cases model with
  | variant kind => exact accepted_map.trans accepted_readVariant
  | projectResult => exact accepted_map.trans accepted_readResult
  | commandResponse => exact accepted_map.trans accepted_readResponse

end Acceptance

section Limits

theorem Given.ifGiven {name : String} {form : Json → Prop} {members : List (String × Json)}
    (h : Given name form members) : IfGiven name form members := by
  obtain ⟨v, hv, hform⟩ := h
  intro w hw
  rw [hv] at hw
  exact Option.some.inj hw ▸ hform

theorem IfGiven.imp {name : String} {form other : Json → Prop} {members : List (String × Json)}
    (h : IfGiven name form members) (himp : ∀ v, form v → other v) : IfGiven name other members :=
  fun v hv => himp v (h v hv)

theorem IsText.plain {v : Json} (h : IsText v) : v.Plain 1 := by
  obtain ⟨s, rfl⟩ := h
  exact .string s

theorem IsFilledText.isText {v : Json} (h : IsFilledText v) : IsText v := by
  obtain ⟨s, rfl, -⟩ := h
  exact ⟨s, rfl⟩

theorem IsTextOrNull.plain {v : Json} (h : IsTextOrNull v) : v.Plain 1 := by
  rcases h with rfl | h
  · exact .null
  · exact h.plain

theorem plain_object {model : Model} {members : List (String × Json)} {n : Nat}
    (hr : (Json.object members).NoRepeats) (hn : OnlyDeclared model members)
    (h : ∀ name ∈ model.fieldNames, IfGiven name (fun v => v.NoRepeats → v.Plain n) members) :
    (Json.object members).Plain (n + 1) := by
  cases hr with
  | object names values =>
      refine .object fun m hm => ?_
      exact h m.1 (hn m.1 (List.mem_map_of_mem hm)) m.2 (Members.get?_of_mem names hm) (values m hm)

theorem IfGiven.plain {name : String} {form : Json → Prop} {members : List (String × Json)} {n : Nat}
    (h : IfGiven name form members) (hform : ∀ v, form v → v.Plain 1) (hn : 1 ≤ n) :
    IfGiven name (fun v => v.NoRepeats → v.Plain n) members :=
  h.imp fun v hv _ => (hform v hv).mono hn

theorem IsVariant.plain {kind : Kind} {v : Json} (h : IsVariant kind v) (hr : v.NoRepeats) : v.Plain 2 := by
  obtain ⟨members, rfl, hkind, htexts, hn⟩ := h
  have hfields : ∀ name ∈ (Model.variant kind).fieldNames, IfGiven name (fun v => v.Plain 1) members := by
    have hk : IfGiven "kind" (fun v => v.Plain 1) members := hkind.imp fun v hv => hv ▸ .string kind.tag
    cases kind with
    | error => simpa [Model.fieldNames] using ⟨hk, htexts.ifGiven.imp fun _ => IsText.plain⟩
    | failure => simpa [Model.fieldNames] using ⟨hk, htexts.ifGiven.imp fun _ hv => hv.isText.plain⟩
    | planSuccess =>
        simpa [Model.fieldNames] using ⟨hk, htexts.1.ifGiven.imp fun _ => IsText.plain,
          htexts.2.ifGiven.imp fun _ => IsText.plain⟩
    | applySuccess => simpa [Model.fieldNames] using ⟨hk, htexts.ifGiven.imp fun _ hv => hv.isText.plain⟩
  exact plain_object hr hn fun name hname => (hfields name hname).plain (fun _ => id) (Nat.le_refl 1)

theorem IsResult.plain {v : Json} (h : IsResult v) (hr : v.NoRepeats) : v.Plain 3 := by
  obtain ⟨members, rfl, hpath, houtcome, hn⟩ := h
  refine plain_object hr hn (List.forall_mem_cons.mpr ⟨?_, List.forall_mem_singleton.mpr ?_⟩)
  · exact hpath.ifGiven.plain (fun _ hv => hv.isText.plain) (by decide)
  · refine houtcome.ifGiven.imp fun v hv hr => ?_
    obtain ⟨kind, -, hvariant⟩ := hv
    exact hvariant.plain hr

theorem IsResults.plain {v : Json} (h : IsResults v) (hr : v.NoRepeats) : v.Plain 4 := by
  obtain ⟨items, rfl, hitems⟩ := h
  cases hr with
  | array hr => exact .array fun item hitem => (hitems item hitem).plain (hr item hitem)

theorem IsResponse.plain {v : Json} (h : IsResponse v) (hr : v.NoRepeats) : v.Plain 5 := by
  obtain ⟨members, rfl, herror, hfailure, hresults, hn⟩ := h
  refine plain_object hr hn (List.forall_mem_cons.mpr ⟨?_, List.forall_mem_cons.mpr
    ⟨?_, List.forall_mem_singleton.mpr ?_⟩⟩)
  · exact herror.plain (fun _ => IsTextOrNull.plain) (by decide)
  · exact hfailure.plain (fun _ => IsText.plain) (by decide)
  · exact hresults.imp fun v hv hr => hv.plain hr

theorem InGrammar.withinLimits {model : Model} {v : Json} (h : InGrammar model v) (hr : v.NoRepeats) :
    v.WithinLimits := by
  have hplain : v.Plain Json.Reading.levelLimit := by
    cases model with
    | variant kind => exact (IsVariant.plain h hr).mono (by decide)
    | projectResult => exact (IsResult.plain h hr).mono (by decide)
    | commandResponse => exact (IsResponse.plain h hr).mono (by decide)
  exact hplain.withinLimits

end Limits

end PullComment.Schema
