import Mathlib.Data.List.Basic
import PullComment.Json.Basic

namespace PullComment.Members

variable {α β : Type}

theorem get?_append (name : String) (l r : List (String × α)) :
    get? name (l ++ r) = (get? name r).or (get? name l) := by
  induction l with
  | nil => cases h : get? name r <;> simp [get?, h]
  | cons m l ih =>
      obtain ⟨n, v⟩ := m
      simp only [List.cons_append, get?, ih]
      cases get? name r <;> rfl

theorem get?_concat (name n : String) (v : α) (l : List (String × α)) :
    get? name (l ++ [(n, v)]) = if n = name then some v else get? name l := by
  rw [get?_append]
  by_cases h : n = name <;> simp [get?, h]

theorem get?_eq_none_iff {name : String} {members : List (String × α)} :
    get? name members = none ↔ name ∉ members.map Prod.fst := by
  rw [← get?_isSome, Bool.not_eq_true, Option.isSome_eq_false_iff, Option.isNone_iff_eq_none]

theorem get?_cons_of_ne {name n : String} (v : α) (l : List (String × α)) (h : n ≠ name) :
    get? name ((n, v) :: l) = get? name l := by
  simp only [get?, if_neg h]
  cases get? name l <;> rfl

theorem get?_cons_self {n : String} (v : α) {l : List (String × α)} (h : n ∉ l.map Prod.fst) :
    get? n ((n, v) :: l) = some v := by
  simp [get?, get?_eq_none_iff.mpr h]

theorem get?_eq_some_iff {name : String} {v : α} {members : List (String × α)} :
    get? name members = some v ↔
      ∃ before after, members = before ++ (name, v) :: after ∧ name ∉ after.map Prod.fst := by
  constructor
  · intro h
    induction members with
    | nil => simp [get?] at h
    | cons m members ih =>
        obtain ⟨n, w⟩ := m
        cases hr : get? name members with
        | some later =>
            simp only [get?, hr] at h
            obtain ⟨before, after, rfl, hn⟩ := ih (hr.trans h)
            exact ⟨(n, w) :: before, after, rfl, hn⟩
        | none =>
            simp only [get?, hr] at h
            split at h
            · rename_i hn
              cases h
              exact ⟨[], members, by rw [hn]; rfl, get?_eq_none_iff.mp hr⟩
            · cases h
  · rintro ⟨before, after, rfl, hn⟩
    rw [get?_append, get?_cons_self v hn, Option.some_or]

theorem get?_of_mem {members : List (String × α)} {m : String × α}
    (h : (members.map Prod.fst).Nodup) (hm : m ∈ members) : get? m.1 members = some m.2 := by
  obtain ⟨before, after, rfl⟩ := List.append_of_mem hm
  refine get?_eq_some_iff.mpr ⟨before, after, rfl, ?_⟩
  rw [List.map_append, List.map_cons] at h
  exact (List.nodup_cons.mp (List.nodup_append.mp h).2.1).1

theorem ext_of_nodup : ∀ {l r : List (String × α)}, (l.map Prod.fst).Nodup →
    l.map Prod.fst = r.map Prod.fst → (∀ name, get? name l = get? name r) → l = r
  | [], [], _, _, _ => rfl
  | [], _ :: _, _, h, _ => by simp at h
  | _ :: _, [], _, h, _ => by simp at h
  | (n, v) :: l, (m, w) :: r, hd, hn, hg => by
      simp only [List.map_cons, List.cons.injEq] at hn
      obtain ⟨rfl, hn⟩ := hn
      obtain ⟨hl, hd⟩ := List.nodup_cons.mp hd
      have hr : n ∉ r.map Prod.fst := hn ▸ hl
      have hv := hg n
      rw [get?_cons_self v hl, get?_cons_self w hr] at hv
      have ht : l = r := ext_of_nodup hd hn fun name => by
        by_cases hne : n = name
        · subst hne
          rw [get?_eq_none_iff.mpr hl, get?_eq_none_iff.mpr hr]
        · simpa only [get?_cons_of_ne _ _ hne] using hg name
      rw [Option.some.inj hv, ht]

theorem distinct_concat (l : List String) (x : String) :
    distinct (l ++ [x]) = if x ∈ l then distinct l else distinct l ++ [x] := by
  induction l with
  | nil => rfl
  | cons a l ih =>
      simp only [List.cons_append, distinct, ih, List.mem_cons]
      by_cases hx : x ∈ l
      · simp [hx]
      · by_cases ha : x = a
        · subst ha
          simp [hx, List.filter_append]
        · simp [hx, ha, List.filter_append]

theorem distinct_of_nodup {l : List String} (h : l.Nodup) : distinct l = l := by
  induction l with
  | nil => rfl
  | cons a l ih =>
      obtain ⟨ha, hl⟩ := List.nodup_cons.mp h
      rw [distinct, ih hl, List.filter_eq_self.mpr]
      intro b hb
      exact decide_eq_true fun hba => ha (hba ▸ hb)

theorem nodup_names (members : List (String × α)) : (names members).Nodup :=
  nodup_distinct _

theorem mem_names {name : String} {members : List (String × α)} :
    name ∈ names members ↔ (get? name members).isSome := by
  rw [names, mem_distinct, get?_isSome]

theorem map_fst_normalize (members : List (String × α)) :
    (normalize members).map Prod.fst = names members := by
  have main : ∀ ns : List String, (∀ n ∈ ns, (get? n members).isSome) →
      (ns.filterMap fun n => (get? n members).map fun v => (n, v)).map Prod.fst = ns := by
    intro ns
    induction ns with
    | nil => intro _; rfl
    | cons n ns ih =>
        intro h
        obtain ⟨v, hv⟩ := Option.isSome_iff_exists.mp (h n (by simp))
        simp [hv, ih fun m hm => h m (by simp [hm])]
  exact main _ fun n hn => mem_names.mp hn

theorem get?_normalize (name : String) (members : List (String × α)) :
    get? name (normalize members) = get? name members := by
  have main : ∀ ns : List String, ns.Nodup →
      get? name (ns.filterMap fun n => (get? n members).map fun v => (n, v)) =
        if name ∈ ns then get? name members else none := by
    intro ns
    induction ns with
    | nil => intro _; rfl
    | cons n ns ih =>
        intro h
        obtain ⟨hn, hd⟩ := List.nodup_cons.mp h
        have ht := ih hd
        by_cases hne : n = name
        · subst hne
          rw [if_neg hn] at ht
          cases hv : get? n members with
          | none => simpa [hv] using ht
          | some v => simp [hv, get?, ht]
        · cases hv : get? n members with
          | none => simp [hv, ht, Ne.symm hne]
          | some v => simp [hv, get?_cons_of_ne _ _ hne, ht, Ne.symm hne]
  rw [normalize, main _ (nodup_names members)]
  split
  · rfl
  · rename_i h
    rw [mem_names, Option.not_isSome_iff_eq_none] at h
    exact h.symm

theorem nodup_map_fst_normalize (members : List (String × α)) :
    ((normalize members).map Prod.fst).Nodup :=
  map_fst_normalize members ▸ nodup_names members

theorem mem_normalize {name : String} {v : α} {members : List (String × α)} :
    (name, v) ∈ normalize members ↔ get? name members = some v := by
  simp only [normalize, List.mem_filterMap, Option.map_eq_some_iff, Prod.mk.injEq]
  constructor
  · rintro ⟨n, -, w, hw, rfl, rfl⟩
    exact hw
  · intro h
    exact ⟨name, mem_names.mpr (Option.isSome_iff_exists.mpr ⟨v, h⟩), v, h, rfl, rfl⟩

theorem normalize_of_nodup {members : List (String × α)} (h : (members.map Prod.fst).Nodup) :
    normalize members = members := by
  refine ext_of_nodup (nodup_map_fst_normalize members) ?_ fun name => get?_normalize name members
  rw [map_fst_normalize, names, distinct_of_nodup h]

theorem normalize_normalize (members : List (String × α)) :
    normalize (normalize members) = normalize members :=
  normalize_of_nodup (nodup_map_fst_normalize members)

theorem get?_map (f : α → β) (name : String) (members : List (String × α)) :
    get? name (members.map fun m => (m.1, f m.2)) = (get? name members).map f := by
  induction members with
  | nil => rfl
  | cons m members ih =>
      obtain ⟨n, v⟩ := m
      simp only [List.map_cons, get?, ih]
      cases get? name members with
      | some later => rfl
      | none => by_cases h : n = name <;> simp [h]

theorem normalize_map (f : α → β) (members : List (String × α)) :
    normalize (members.map fun m => (m.1, f m.2)) = (normalize members).map fun m => (m.1, f m.2) := by
  simp only [normalize, names, List.map_map, List.map_filterMap, get?_map, Option.map_map]
  rfl

theorem names_normalize (members : List (String × α)) : names (normalize members) = names members := by
  rw [names, map_fst_normalize, distinct_of_nodup (nodup_names members)]

structure Mirrors (f : α → β) (l : List (String × α)) (r : List (String × β)) : Prop where
  names_eq : names r = names l
  get?_eq : ∀ name, get? name r = (get? name l).map f

theorem mirrors_normalize_map (f : α → β) (l : List (String × α)) :
    Mirrors f l (normalize (l.map fun m => (m.1, f m.2))) where
  names_eq := by
    rw [names_normalize, names, names, List.map_map]
    rfl
  get?_eq name := by rw [get?_normalize, get?_map]

end PullComment.Members
