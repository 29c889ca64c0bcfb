import Mathlib.Logic.Relation
import PullComment.Proofs.Json.RoundTrip
import PullComment.Proofs.Members
import PullComment.Schema.Validation

/-!
Ways to write the same objects: their members in another order, and with earlier values for names that are given
again later. Whether a name is declared depends on what its object is read as.
-/

namespace PullComment.Members

variable {α : Type}

theorem filter_distinct (p : String → Bool) (l : List String) :
    (distinct l).filter p = distinct (l.filter p) := by
  induction l with
  | nil => rfl
  | cons a l ih =>
      by_cases ha : p a = true
      · rw [List.filter_cons_of_pos ha, distinct, distinct, List.filter_cons_of_pos ha, ← ih, List.filter_filter,
          List.filter_filter]
        simp only [Bool.and_comm]
      · rw [List.filter_cons_of_neg ha, distinct, List.filter_cons_of_neg ha, ← ih, List.filter_filter]
        refine List.filter_congr fun b _ => ?_
        by_cases hb : b = a
        · simp [hb, ha]
        · simp [hb]

theorem get?_exchange {m n : String} (hne : m ≠ n) (a b : α) (pre post : List (String × α)) (name : String) :
    get? name (pre ++ (n, b) :: (m, a) :: post) = get? name (pre ++ (m, a) :: (n, b) :: post) := by
  rw [get?_append, get?_append]
  congr 1
  by_cases hm : m = name
  · have hn : n ≠ name := fun hn => hne (hm.trans hn.symm)
    rw [get?_cons_of_ne b _ hn, get?, get?, get?_cons_of_ne b _ hn]
  · rw [get?_cons_of_ne a _ hm, get?, get?_cons_of_ne a _ hm, get?]

theorem get?_superseded {n : String} {post : List (String × α)} (hn : n ∈ post.map Prod.fst) (earlier : α)
    (pre : List (String × α)) (name : String) :
    get? name (pre ++ (n, earlier) :: post) = get? name (pre ++ post) := by
  rw [get?_append, get?_append]
  congr 1
  by_cases hname : n = name
  · subst hname
    obtain ⟨later, hlater⟩ := Option.isSome_iff_exists.mp (get?_isSome.mpr hn)
    simp only [get?, hlater]
  · exact get?_cons_of_ne earlier post hname

theorem perm_names {l r : List (String × α)} (h : ∀ name, name ∈ l.map Prod.fst ↔ name ∈ r.map Prod.fst) :
    (names l).Perm (names r) := by
  refine (List.perm_ext_iff_of_nodup (nodup_names l) (nodup_names r)).mpr fun name => ?_
  rw [names, names, mem_distinct, mem_distinct, h]

end PullComment.Members

namespace PullComment.Schema

open Relation

inductive Role where
  | model (model : Model)
  | outcome
  | results
  | other

namespace Role

def ofMember : Role → String → Role
  | .model .projectResult, name => if name = "outcome" then .outcome else .other
  | .model .commandResponse, name => if name = "project_results" then .results else .other
  | _, _ => .other

def ofItem : Role → Role
  | .results => .model .projectResult
  | _ => .other

def taggedKind? (members : List (String × Json)) : Option Kind :=
  match Members.get? "kind" members with
  | some (.string s) => Kind.ofTag? s
  | _ => none

/-- The names that an object may have. As long as its kind is unknown, an outcome has those of every variant. -/
def declared (members : List (String × Json)) : Role → List String
  | .model m => m.fieldNames
  | .outcome =>
      match taggedKind? members with
      | some kind => (Model.variant kind).fieldNames
      | none => Kind.all.flatMap fun kind => (Model.variant kind).fieldNames
  | .results | .other => []

end Role

abbrev Touch := Role → List (String × Json) → String → Prop

def anyName : Touch := fun _ _ _ => True

/-- One object is written in another way, at any depth. Members of one name keep their order. -/
inductive Rewrite (may : Touch) : Role → Json → Json → Prop
  | exchange {role : Role} {m n : String} (a b : Json) (pre post : List (String × Json)) (hne : m ≠ n)
      (hmay : may role (pre ++ (m, a) :: (n, b) :: post) m ∨ may role (pre ++ (m, a) :: (n, b) :: post) n) :
      Rewrite may role (.object (pre ++ (m, a) :: (n, b) :: post)) (.object (pre ++ (n, b) :: (m, a) :: post))
  | superseded {role : Role} {name : String} (earlier : Json) (pre post : List (String × Json))
      (hname : name ∈ post.map Prod.fst) (hmay : may role (pre ++ post) name) :
      Rewrite may role (.object (pre ++ post)) (.object (pre ++ (name, earlier) :: post))
  | member {role : Role} {v w : Json} (name : String) (pre post : List (String × Json))
      (h : Rewrite may (role.ofMember name) v w) :
      Rewrite may role (.object (pre ++ (name, v) :: post)) (.object (pre ++ (name, w) :: post))
  | item {role : Role} {v w : Json} (pre post : List Json) (h : Rewrite may role.ofItem v w) :
      Rewrite may role (.array (pre ++ v :: post)) (.array (pre ++ w :: post))

variable {may : Touch} {role : Role} {v w : Json} {ms ns : List (String × Json)}

section Reach

theorem rewrites_of_moved {m : String × Json} {l : List (String × Json)} (pre post : List (String × Json))
    (h : ∀ x ∈ l, x.1 ≠ m.1) :
    ReflTransGen (Rewrite anyName role) (.object (pre ++ m :: (l ++ post))) (.object (pre ++ (l ++ m :: post))) := by
  induction l generalizing pre with
  | nil => exact .refl
  | cons x l ih =>
      obtain ⟨hx, hl⟩ := List.forall_mem_cons.mp h
      have hfirst : Rewrite anyName role (.object (pre ++ m :: x :: (l ++ post))) (.object (pre ++ x :: m :: (l ++ post))) :=
        .exchange m.2 x.2 pre (l ++ post) hx.symm (.inl trivial)
      have hrest := ih (pre ++ [x]) hl
      simp only [List.append_assoc, List.singleton_append] at hrest
      exact hrest.head hfirst

theorem rewrites_of_filter_eq (pre : List (String × Json))
    (h : ∀ name, ms.filter (fun m => m.1 = name) = ns.filter (fun m => m.1 = name)) :
    ReflTransGen (Rewrite anyName role) (.object (pre ++ ms)) (.object (pre ++ ns)) := by
  induction ms generalizing pre ns with
  | nil =>
      cases ns with
      | nil => exact .refl
      | cons n ns => simpa using h n.1
  | cons m ms ih =>
      have hm := h m.1
      rw [List.filter_cons_of_pos (by simp)] at hm
      -- the first of the members of its name stays the first of them, so it can be put where it stands in the end
      obtain ⟨before, after, rfl, hbefore, -⟩ := List.filter_eq_cons_iff.mp hm.symm
      have hothers : ∀ name, ms.filter (fun x => x.1 = name) = (before ++ after).filter (fun x => x.1 = name) := by
        intro name
        have hname := h name
        rw [List.filter_append] at hname ⊢
        by_cases hne : m.1 = name
        · subst hne
          have hnil : before.filter (fun x => x.1 = m.1) = [] := List.filter_eq_nil_iff.mpr hbefore
          rw [hnil] at hname ⊢
          simpa using hname
        · rw [List.filter_cons_of_neg (by simpa using hne), List.filter_cons_of_neg (by simpa using hne)] at hname
          exact hname
      have hrest := ih (pre ++ [m]) hothers
      simp only [List.append_assoc, List.singleton_append] at hrest
      exact hrest.trans (rewrites_of_moved pre after fun x hx => by simpa using hbefore x hx)

end Reach

section Levels

theorem levelsMembers_le_of_mem (h : ∀ m ∈ ms, ∃ n ∈ ns, m.2.levels ≤ n.2.levels) :
    Json.levelsMembers ms ≤ Json.levelsMembers ns := by
  refine Json.levelsMembers_le_iff.mpr fun m hm => ?_
  obtain ⟨n, hn, hle⟩ := h m hm
  exact Nat.le_trans hle (Json.levelsMembers_le_iff.mp (Nat.le_refl _) n hn)

theorem levelsItems_le_of_mem {vs ws : List Json} (h : ∀ v ∈ vs, ∃ w ∈ ws, v.levels ≤ w.levels) :
    Json.levelsItems vs ≤ Json.levelsItems ws := by
  refine Json.levelsItems_le_iff.mpr fun v hv => ?_
  obtain ⟨w, hw, hle⟩ := h v hv
  exact Nat.le_trans hle (Json.levelsItems_le_iff.mp (Nat.le_refl _) w hw)

theorem Rewrite.levels_le (h : Rewrite may role v w) : v.levels ≤ w.levels := by
  induction h with
  | exchange a b pre post =>
      refine Nat.succ_le_succ (levelsMembers_le_of_mem fun x hx => ⟨x, ?_, Nat.le_refl _⟩)
      simp only [List.mem_append, List.mem_cons] at hx ⊢
      tauto
  | superseded earlier pre post =>
      refine Nat.succ_le_succ (levelsMembers_le_of_mem fun x hx => ⟨x, ?_, Nat.le_refl _⟩)
      simp only [List.mem_append, List.mem_cons] at hx ⊢
      tauto
  | @member role v w name pre post _ ih =>
      refine Nat.succ_le_succ (levelsMembers_le_of_mem fun x hx => ?_)
      rcases List.mem_append.mp hx with hx | hx
      · exact ⟨x, List.mem_append_left _ hx, Nat.le_refl _⟩
      · rcases List.mem_cons.mp hx with rfl | hx
        · exact ⟨(name, w), by simp, ih⟩
        · exact ⟨x, by simp [hx], Nat.le_refl _⟩
  | @item role v w pre post _ ih =>
      refine Nat.succ_le_succ (levelsItems_le_of_mem fun x hx => ?_)
      rcases List.mem_append.mp hx with hx | hx
      · exact ⟨x, List.mem_append_left _ hx, Nat.le_refl _⟩
      · rcases List.mem_cons.mp hx with rfl | hx
        · exact ⟨w, by simp, ih⟩
        · exact ⟨x, by simp [hx], Nat.le_refl _⟩

end Levels

structure SameLookups (may : Touch) (role : Role) (ms ns : List (String × Json)) : Prop where
  get? : ∀ name,
    Option.Rel (ReflGen (Rewrite may (role.ofMember name))) (Members.get? name ms) (Members.get? name ns)
  names : (Members.names ms).Perm (Members.names ns)
  order : ∀ p : String → Bool, (∀ name, may role ms name → p name = false) →
    (Members.names ms).filter p = (Members.names ns).filter p

theorem rel_of_eq {r : Json → Json → Prop} {a b : Option Json} (h : a = b) : Option.Rel (ReflGen r) a b := by
  subst h
  cases a with
  | none => exact .none
  | some v => exact .some .refl

theorem SameLookups.exchange {m n : String} (a b : Json) (pre post : List (String × Json)) (hne : m ≠ n)
    (hmay : may role (pre ++ (m, a) :: (n, b) :: post) m ∨ may role (pre ++ (m, a) :: (n, b) :: post) n) :
    SameLookups may role (pre ++ (m, a) :: (n, b) :: post) (pre ++ (n, b) :: (m, a) :: post) where
  get? name := rel_of_eq (Members.get?_exchange hne a b pre post name).symm
  names := Members.perm_names fun name => by
    simp only [List.map_append, List.map_cons, List.mem_append, List.mem_cons]
    tauto
  order p hp := by
    rw [Members.names, Members.names, Members.filter_distinct, Members.filter_distinct]
    rcases hmay with hm | hn
    · simp [List.filter_append, List.filter_cons, hp m hm]
    · simp [List.filter_append, List.filter_cons, hp n hn]

theorem SameLookups.superseded {name : String} (earlier : Json) (pre post : List (String × Json))
    (hname : name ∈ post.map Prod.fst) (hmay : may role (pre ++ post) name) :
    SameLookups may role (pre ++ post) (pre ++ (name, earlier) :: post) where
  get? n := rel_of_eq (Members.get?_superseded hname earlier pre n).symm
  names := Members.perm_names fun n => by
    simp only [List.map_append, List.map_cons, List.mem_append, List.mem_cons]
    constructor
    · tauto
    · rintro (h | rfl | h)
      · exact .inl h
      · exact .inr hname
      · exact .inr h
  order p hp := by
    rw [Members.names, Members.names, Members.filter_distinct, Members.filter_distinct]
    simp [List.filter_append, hp name hmay]

theorem SameLookups.member (name : String) (pre post : List (String × Json))
    (h : Rewrite may (role.ofMember name) v w) :
    SameLookups may role (pre ++ (name, v) :: post) (pre ++ (name, w) :: post) where
  get? n := by
    by_cases hn : name = n
    · subst hn
      rw [Members.get?_append, Members.get?_append]
      cases hlater : Members.get? name post with
      | some later => exact rel_of_eq (by simp [Members.get?, hlater])
      | none => simpa [Members.get?, hlater] using Option.Rel.some (ReflGen.single h)
    · refine rel_of_eq ?_
      rw [Members.get?_append, Members.get?_append, Members.get?_cons_of_ne _ _ hn, Members.get?_cons_of_ne _ _ hn]
  names := by simp [Members.names]
  order _ _ := by simp [Members.names]

inductive Rewritten (may : Touch) (role : Role) : Json → Json → Prop
  | object {ms ns : List (String × Json)} (h : SameLookups may role ms ns) :
      Rewritten may role (.object ms) (.object ns)
  | array {v w : Json} (pre post : List Json) (h : Rewrite may role.ofItem v w) :
      Rewritten may role (.array (pre ++ v :: post)) (.array (pre ++ w :: post))

theorem Rewrite.rewritten (h : Rewrite may role v w) : Rewritten may role v w := by
  cases h with
  | exchange a b pre post hne hmay => exact .object (.exchange a b pre post hne hmay)
  | superseded earlier pre post hname hmay => exact .object (.superseded earlier pre post hname hmay)
  | member name pre post h => exact .object (.member name pre post h)
  | item pre post h => exact .array pre post h

end PullComment.Schema
