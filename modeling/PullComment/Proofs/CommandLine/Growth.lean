import Mathlib.Data.List.Basic
import PullComment.CommandLine.FileTree

namespace PullComment.CommandLine

def lead (names : List String) : List String → List String
  | [] => names
  | part :: rest => lead (if part = ".." then names.dropLast else names ++ [part]) rest

theorem nodeAt?_cons (names : List String) (e : List String × Node) (entries : List (List String × Node)) :
    nodeAt? names (e :: entries) = if e.1 = names then some e.2 else nodeAt? names entries := by
  rw [nodeAt?, List.find?_cons]
  by_cases h : e.1 = names
  · rw [if_pos h, beq_iff_eq.mpr h, Option.map_some]
  · rw [if_neg h, beq_eq_false_iff_ne.mpr h, nodeAt?]

section

variable {names : List String} {entries : List (List String × Node)} (node : Node) (other : List String)

theorem nodeAt?_append_of_not_any (h : ¬ (entries.any fun e => e.1 == names) = true) :
    nodeAt? other (entries ++ [(names, node)]) = if other = names then some node else nodeAt? other entries := by
  induction entries with
  | nil =>
      rw [List.nil_append, nodeAt?_cons]
      simp only [eq_comm]
  | cons e entries ih =>
      rw [List.any_cons, Bool.or_eq_true, not_or, beq_iff_eq] at h
      rw [List.cons_append, nodeAt?_cons, nodeAt?_cons, ih h.2]
      by_cases he : e.1 = other
      · rw [if_pos he, if_neg (he ▸ h.1), if_pos he]
      · rw [if_neg he, if_neg he]

theorem nodeAt?_map_of_any (h : (entries.any fun e => e.1 == names) = true) :
    nodeAt? other (entries.map fun e => if e.1 = names then (names, node) else e) =
      if other = names then some node else nodeAt? other entries := by
  have elsewhere (entries : List (List String × Node)) (hother : other ≠ names) :
      nodeAt? other (entries.map fun e => if e.1 = names then (names, node) else e) = nodeAt? other entries := by
    induction entries with
    | nil => rfl
    | cons e entries ih =>
        rw [List.map_cons, nodeAt?_cons, nodeAt?_cons, ih]
        by_cases he : e.1 = names
        · rw [if_pos he, if_neg (Ne.symm hother), if_neg (he ▸ Ne.symm hother)]
        · rw [if_neg he]
  by_cases hother : other = names
  · subst hother
    rw [if_pos rfl]
    induction entries with
    | nil => cases h
    | cons e entries ih =>
        rw [List.map_cons, nodeAt?_cons]
        by_cases he : e.1 = other
        · rw [if_pos he, if_pos rfl]
        · rw [List.any_cons, Bool.or_eq_true, beq_iff_eq] at h
          rw [if_neg he, if_neg he, ih (h.resolve_left he)]
  · rw [if_neg hother, elsewhere entries hother]

end

namespace FileTree

theorem get?_set (names other : List String) (node : Node) (t : FileTree) :
    (t.set names node).get? other = if other = names then some node else t.get? other := by
  unfold set
  split
  · rename_i h
    exact nodeAt?_map_of_any node other h
  · rename_i h
    exact nodeAt?_append_of_not_any node other h

@[simp]
theorem working_set (names : List String) (node : Node) (t : FileTree) : (t.set names node).working = t.working := by
  unfold set
  split <;> rfl

def ensure (t : FileTree) (names : List String) : FileTree :=
  match t.get? names with
  | some _ => t
  | none => t.set names .directory

theorem ensure_of_some {t : FileTree} {names : List String} {node : Node} (h : t.get? names = some node) :
    t.ensure names = t := by
  rw [ensure, h]

theorem ensure_of_none {t : FileTree} {names : List String} (h : t.get? names = none) :
    t.ensure names = t.set names .directory := by
  rw [ensure, h]

@[simp]
theorem working_ensure (t : FileTree) (names : List String) : (t.ensure names).working = t.working := by
  cases h : t.get? names with
  | none => rw [ensure_of_none h, working_set]
  | some node => rw [ensure_of_some h]

theorem get?_ensure (t : FileTree) (names other : List String) :
    (t.ensure names).get? other =
      if other = names ∧ t.get? other = none then some .directory else t.get? other := by
  cases h : t.get? names with
  | none =>
      rw [ensure_of_none h, get?_set]
      by_cases hother : other = names
      · rw [if_pos hother, if_pos ⟨hother, hother ▸ h⟩]
      · rw [if_neg hother, if_neg fun hboth => hother hboth.1]
  | some node =>
      rw [ensure_of_some h, if_neg]
      rintro ⟨rfl, hnone⟩
      cases hnone.symm.trans h

def grow (t : FileTree) (names : List String) : List String → FileTree
  | [] => t
  | part :: rest =>
      if part = ".." then t.grow names.dropLast rest
      else (t.ensure (names ++ [part])).grow (names ++ [part]) rest

def entered (names : List String) : List String → List (List String)
  | [] => []
  | part :: rest =>
      if part = ".." then entered names.dropLast rest
      else (names ++ [part]) :: entered (names ++ [part]) rest

@[simp]
theorem working_grow (t : FileTree) (names parts : List String) : (t.grow names parts).working = t.working := by
  fun_induction grow t names parts with
  | case1 => rfl
  | case2 t names rest ih => exact ih
  | case3 t names part rest hup ih => exact ih.trans (t.working_ensure _)

theorem start_grow (t : FileTree) (names parts : List String) (anchor : Anchor) :
    (t.grow names parts).start anchor = t.start anchor := by
  cases anchor with
  | working => exact t.working_grow names parts
  | root | doubleRoot => rfl

theorem get?_grow (t : FileTree) (names parts other : List String) :
    (t.grow names parts).get? other =
      if other ∈ entered names parts ∧ t.get? other = none then some .directory else t.get? other := by
  induction parts generalizing t names with
  | nil => simp [grow, entered]
  | cons part parts ih =>
      rw [grow, entered]
      by_cases hup : part = ".."
      · rw [if_pos hup, if_pos hup, ih]
      · rw [if_neg hup, if_neg hup, ih, get?_ensure]
        rcases eq_or_ne other (names ++ [part]) with rfl | hother
        · by_cases hnone : t.get? (names ++ [part]) = none <;> simp [hnone]
        · simp [hother]

theorem get?_grow_of_some {t : FileTree} {other : List String} {node : Node} (h : t.get? other = some node)
    (names parts : List String) : (t.grow names parts).get? other = some node := by
  rw [get?_grow, if_neg, h]
  rintro ⟨-, hnone⟩
  cases hnone.symm.trans h

theorem get?_grow_eq_file_iff {t : FileTree} {names parts other : List String} {contents : List UInt8} :
    (t.grow names parts).get? other = some (.file contents) ↔ t.get? other = some (.file contents) := by
  rw [get?_grow]
  split_ifs with h
  · simp [h.2]
  · rfl

theorem exists_get?_ensure (t : FileTree) (names : List String) : ∃ node, (t.ensure names).get? names = some node := by
  cases h : t.get? names with
  | none => exact ⟨.directory, by rw [get?_ensure, if_pos ⟨rfl, h⟩]⟩
  | some node => exact ⟨node, by rw [ensure_of_some h, h]⟩

theorem grow_append (t : FileTree) (names parts rest : List String) :
    t.grow names (parts ++ rest) = (t.grow names parts).grow (lead names parts) rest := by
  induction parts generalizing t names with
  | nil => rfl
  | cons part parts ih =>
      rw [List.cons_append, grow, grow, lead]
      split_ifs
      · exact ih t names.dropLast
      · exact ih (t.ensure (names ++ [part])) (names ++ [part])

theorem grow_grow (t : FileTree) (names parts : List String) :
    (t.grow names parts).grow names parts = t.grow names parts := by
  induction parts generalizing t names with
  | nil => rfl
  | cons part parts ih =>
      rw [grow]
      split_ifs with hup
      · rw [grow, if_pos hup, ih]
      · obtain ⟨node, hnode⟩ := t.exists_get?_ensure (names ++ [part])
        rw [grow, if_neg hup, ensure_of_some (get?_grow_of_some hnode _ _), ih]

def Clear (t : FileTree) (names : List String) : List String → Prop
  | [] => True
  | part :: rest =>
      if part = ".." then t.Clear names.dropLast rest
      else part.utf8ByteSize ≤ nameLimit ∧ (∀ contents, t.get? (names ++ [part]) ≠ some (.file contents)) ∧
        t.Clear (names ++ [part]) rest

theorem clear_cons {t : FileTree} {names : List String} {part : String} (hup : part ≠ "..") {rest : List String} :
    t.Clear names (part :: rest) ↔
      part.utf8ByteSize ≤ nameLimit ∧ (∀ contents, t.get? (names ++ [part]) ≠ some (.file contents)) ∧
        t.Clear (names ++ [part]) rest := by
  rw [Clear, if_neg hup]

theorem Clear.of_append {t : FileTree} {names parts rest : List String} (h : t.Clear names (parts ++ rest)) :
    t.Clear names parts := by
  induction parts generalizing names with
  | nil => trivial
  | cons part parts ih =>
      rw [List.cons_append] at h
      by_cases hup : part = ".."
      · rw [Clear, if_pos hup] at h ⊢
        exact ih h
      · obtain ⟨hshort, hfile, hrest⟩ := (clear_cons hup).mp h
        exact (clear_cons hup).mpr ⟨hshort, hfile, ih hrest⟩

theorem clear_grow_iff {t : FileTree} {above made names parts : List String} :
    (t.grow above made).Clear names parts ↔ t.Clear names parts := by
  induction parts generalizing names with
  | nil => rfl
  | cons part parts ih =>
      by_cases hup : part = ".."
      · rw [Clear, if_pos hup, Clear, if_pos hup]
        exact ih
      · rw [clear_cons hup, clear_cons hup]
        simp only [ne_eq, get?_grow_eq_file_iff, ih]

theorem follow_of_clear {t : FileTree} {names parts : List String} (h : t.Clear names parts) :
    (∃ found, t.follow names parts = .ok (.directory found) ∧ t.grow names parts = t) ∨
      (∃ found, t.follow names parts = .ok (.absent found) ∧ t.grow names parts = t.set found .directory) ∨
      t.follow names parts = .error .noEntry := by
  fun_induction follow t names parts with
  | case1 names => exact .inl ⟨names, rfl, rfl⟩
  | case2 names rest ih =>
      rw [Clear, if_pos rfl] at h
      rw [grow, if_pos rfl]
      exact ih h
  | case3 names part rest hup hlong => exact absurd ((clear_cons hup).mp h).1 (Nat.not_le.mpr hlong)
  | case4 names part rest hup hlong hthere ih =>
      rw [grow, if_neg hup, ensure_of_some hthere]
      exact ih ((clear_cons hup).mp h).2.2
  | case5 names part rest hup hlong contents hthere => exact absurd hthere (((clear_cons hup).mp h).2.1 contents)
  | case6 names part rest hup hlong contents hthere => exact absurd hthere (((clear_cons hup).mp h).2.1 contents)
  | case7 names part rest hup hlong hmissing hlast =>
      refine .inr (.inl ⟨names ++ [part], rfl, ?_⟩)
      rw [grow, if_neg hup, List.isEmpty_iff.mp hlast, grow, ensure_of_none hmissing]
  | case8 => exact .inr (.inr rfl)

theorem clear_of_follow {t : FileTree} {names parts : List String} {target : Target}
    (h : t.follow names parts = .ok target) (hfile : ∀ found contents, target ≠ .file found contents) :
    t.Clear names parts := by
  fun_induction follow t names parts with
  | case1 => trivial
  | case2 names rest ih =>
      rw [Clear, if_pos rfl]
      exact ih h
  | case3 => cases h
  | case4 names part rest hup hlong hthere ih =>
      refine (clear_cons hup).mpr ⟨Nat.not_lt.mp hlong, ?_, ih h⟩
      rw [hthere]
      simp
  | case5 names part rest hup hlong contents hthere hlast =>
      cases h
      exact absurd rfl (hfile _ contents)
  | case6 => cases h
  | case7 names part rest hup hlong hmissing hlast =>
      refine (clear_cons hup).mpr ⟨Nat.not_lt.mp hlong, ?_, ?_⟩
      · rw [hmissing]
        simp
      · rw [List.isEmpty_iff.mp hlast]
        trivial
  | case8 => cases h

theorem grown_cons {t : FileTree} {names : List String} {part : String} {parts : List String} (hup : part ≠ "..")
    (h : t.grow names (part :: parts) = t) :
    t.get? (names ++ [part]) ≠ none ∧ t.grow (names ++ [part]) parts = t := by
  rw [grow, if_neg hup] at h
  obtain ⟨node, hnode⟩ := t.exists_get?_ensure (names ++ [part])
  have hthere := get?_grow_of_some hnode (names ++ [part]) parts
  rw [h] at hthere
  rw [ensure_of_some hthere] at h
  exact ⟨hthere ▸ Option.some_ne_none node, h⟩

theorem follow_ne_noEntry {t : FileTree} {names parts : List String} (h : t.grow names parts = t) (name : String) :
    t.follow names (parts ++ [name]) ≠ .error .noEntry := by
  generalize hpath : parts ++ [name] = path
  fun_induction follow t names path generalizing parts with
  | case1 => simp
  | case2 names rest ih =>
      cases parts with
      | nil =>
          cases hpath
          simp [follow]
      | cons part parts =>
          cases hpath
          rw [grow, if_pos rfl] at h
          exact ih h rfl
  | case3 => simp
  | case4 names part rest hup hlong hthere ih =>
      cases parts with
      | nil =>
          cases hpath
          simp [follow]
      | cons part' parts =>
          cases hpath
          exact ih (grown_cons hup h).2 rfl
  | case5 => simp
  | case6 => simp
  | case7 => simp
  | case8 names part rest hup hlong hmissing hlast =>
      cases parts with
      | nil =>
          cases hpath
          exact absurd rfl hlast
      | cons part' parts =>
          cases hpath
          exact absurd hmissing (grown_cons hup h).1

end FileTree

def Target.slot? : Target → Option (List String)
  | .directory _ => none
  | .file names _ => some names
  | .absent names => some names

theorem FileTree.slot_of_follow {t : FileTree} {names parts found : List String} {target : Target}
    (h : t.follow names parts = .ok target) (hslot : target.slot? = some found) : found = lead names parts := by
  fun_induction follow t names parts with
  | case1 =>
      cases h
      cases hslot
  | case2 names rest ih =>
      rw [lead, if_pos rfl]
      exact ih h
  | case3 => cases h
  | case4 names part rest hup hlong hthere ih =>
      rw [lead, if_neg hup]
      exact ih h
  | case5 names part rest hup hlong contents hthere hlast =>
      cases h
      cases hslot
      rw [List.isEmpty_iff.mp hlast, lead, if_neg hup, lead]
  | case6 => cases h
  | case7 names part rest hup hlong hmissing hlast =>
      cases h
      cases hslot
      rw [List.isEmpty_iff.mp hlast, lead, if_neg hup, lead]
  | case8 => cases h

end PullComment.CommandLine
