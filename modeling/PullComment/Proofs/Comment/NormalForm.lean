import Mathlib.Data.List.Induction
import PullComment.Proofs.Comment.Paths
import PullComment.Proofs.Members
import PullComment.Proofs.Text.StandsIn

namespace PullComment

def ProjectResult.member (p : ProjectResult String) : String × Option Outcome :=
  (p.path, p.outcome)

def ProjectResult.ofMember (m : String × Option Outcome) : ProjectResult String :=
  ⟨m.1, m.2⟩

def normalForm (results : List (ProjectResult String)) : List (ProjectResult String) :=
  (Members.normalize (results.map ProjectResult.member)).map ProjectResult.ofMember

theorem map_member_normalForm (results : List (ProjectResult String)) :
    (normalForm results).map ProjectResult.member =
      Members.normalize (results.map ProjectResult.member) := by
  simp [normalForm, ProjectResult.member, ProjectResult.ofMember, Function.comp_def]

theorem map_path_normalForm (results : List (ProjectResult String)) :
    (normalForm results).map ProjectResult.path = Members.distinct (results.map ProjectResult.path) := by
  have h := Members.map_fst_normalize (results.map ProjectResult.member)
  simpa [normalForm, Members.names, ProjectResult.member, ProjectResult.ofMember, Function.comp_def] using h

theorem normalForm_normalForm (results : List (ProjectResult String)) :
    normalForm (normalForm results) = normalForm results := by
  rw [normalForm, map_member_normalForm, Members.normalize_normalize, normalForm]

theorem mem_normalForm {p : ProjectResult String} {results : List (ProjectResult String)} :
    p ∈ normalForm results ↔
      ∃ before after, results = before ++ p :: after ∧ ∀ q ∈ after, q.path ≠ p.path := by
  have hp : p ∈ normalForm results ↔
      (p.path, p.outcome) ∈ Members.normalize (results.map ProjectResult.member) := by
    rw [← map_member_normalForm]
    constructor
    · exact List.mem_map_of_mem (f := ProjectResult.member)
    · intro h
      obtain ⟨q, hq, he⟩ := List.mem_map.mp h
      cases p
      cases q
      cases he
      exact hq
  rw [hp, Members.mem_normalize, Members.get?_eq_some_iff]
  constructor
  · rintro ⟨before, after, he, hn⟩
    obtain ⟨pre, rest, rfl, rfl, hrest⟩ := List.map_eq_append_iff.mp he
    obtain ⟨q, post, rfl, hq, rfl⟩ := List.map_eq_cons_iff.mp hrest
    have hqp : q = p := by
      cases p
      cases q
      cases hq
      rfl
    refine ⟨pre, post, by rw [hqp], ?_⟩
    intro x hx hxp
    exact hn (List.mem_map.mpr ⟨x.member, List.mem_map_of_mem hx, hxp⟩)
  · rintro ⟨before, after, rfl, hn⟩
    refine ⟨before.map ProjectResult.member, after.map ProjectResult.member, by simp [ProjectResult.member], ?_⟩
    intro h
    obtain ⟨m, hm, he⟩ := List.mem_map.mp h
    obtain ⟨q, hq, rfl⟩ := List.mem_map.mp hm
    exact hn q hq he

namespace Comment

theorem map_fst_put (path text : String) (l : List (String × String)) :
    (put path text l).map Prod.fst =
      if path ∈ l.map Prod.fst then l.map Prod.fst else l.map Prod.fst ++ [path] := by
  induction l with
  | nil => rfl
  | cons s l ih =>
      obtain ⟨p, t⟩ := s
      by_cases hp : p = path
      · simp [put, Label.alike, hp]
      · simp only [put, Label.alike, beq_iff_eq, if_neg hp, List.map_cons, ih, List.mem_cons,
          Ne.symm hp, false_or]
        split <;> rfl

theorem get?_put (name path text : String) {l : List (String × String)} (h : (l.map Prod.fst).Nodup) :
    Members.get? name (put path text l) = if path = name then some text else Members.get? name l := by
  induction l with
  | nil => rfl
  | cons s l ih =>
      obtain ⟨p, t⟩ := s
      obtain ⟨hp, hl⟩ := List.nodup_cons.mp h
      by_cases hpath : p = path
      · subst hpath
        simp only [put, Label.alike, beq_self_eq_true, ↓reduceIte]
        by_cases hname : p = name
        · subst hname
          rw [Members.get?_cons_self text hp, if_pos rfl]
        · rw [Members.get?_cons_of_ne _ _ hname, Members.get?_cons_of_ne _ _ hname, if_neg hname]
      · simp only [put, Label.alike, beq_iff_eq, if_neg hpath, Members.get?, ih hl]
        by_cases hname : path = name
        · subst hname
          simp
        · simp [hname]

theorem put_normalize (path text : String) (l : List (String × String)) :
    put path text (Members.normalize l) = Members.normalize (l ++ [(path, text)]) := by
  have hl := Members.nodup_map_fst_normalize l
  have hnames : (put path text (Members.normalize l)).map Prod.fst =
      (Members.normalize (l ++ [(path, text)])).map Prod.fst := by
    simp only [map_fst_put, Members.map_fst_normalize, Members.names, List.map_append, List.map_singleton,
      Members.distinct_concat, Members.mem_distinct]
  refine Members.ext_of_nodup ?_ hnames fun name => ?_
  · rw [hnames]
    exact Members.nodup_map_fst_normalize _
  · rw [get?_put name path text hl, Members.get?_normalize, Members.get?_normalize, Members.get?_concat]

theorem placed_eq_normalize (r : Request) (results : List (ProjectResult String)) :
    placed r results = Members.normalize (results.map fun p => (p.path, (ofResult r p).markdown)) := by
  induction results using List.reverseRecOn with
  | nil => rfl
  | append_singleton results p ih =>
      have hp : placed r (results ++ [p]) = put p.path (ofResult r p).markdown (placed r results) := by
        simp [placed]
      rw [hp, ih, put_normalize, List.map_append, List.map_singleton]

end Comment

end PullComment
