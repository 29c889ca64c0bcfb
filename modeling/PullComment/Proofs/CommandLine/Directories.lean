import Mathlib.Data.List.Induction
import PullComment.Proofs.CommandLine.Growth

namespace PullComment.CommandLine

namespace FileTree

theorem locate_of_short {t : FileTree} {p : Path} (h : p.text.utf8ByteSize ≤ pathLimit) :
    t.locate p = t.follow (t.start p.anchor) p.parts :=
  if_neg (Nat.not_lt.mpr h)

theorem locate_eq_ok_iff {t : FileTree} {p : Path} {target : Target} :
    t.locate p = .ok target ↔
      p.text.utf8ByteSize ≤ pathLimit ∧ t.follow (t.start p.anchor) p.parts = .ok target := by
  unfold locate
  split_ifs with hlong
  · simp only [false_iff, not_and]
    omega
  · exact (and_iff_right (Nat.not_lt.mp hlong)).symm

theorem locate_grow_eq_ok_iff {t : FileTree} {names parts : List String} {p : Path} {target : Target} :
    (t.grow names parts).locate p = .ok target ↔
      p.text.utf8ByteSize ≤ pathLimit ∧ (t.grow names parts).follow (t.start p.anchor) p.parts = .ok target := by
  rw [locate_eq_ok_iff, start_grow]

theorem settle_of_clear {t : FileTree} {p : Path} (hshort : p.text.utf8ByteSize ≤ pathLimit)
    (hclear : t.Clear (t.start p.anchor) p.parts) (hthere : t.follow (t.start p.anchor) p.parts ≠ .error .noEntry) :
    t.settle p (t.makeDirectory p) = ⟨t.grow (t.start p.anchor) p.parts, none⟩ := by
  rcases follow_of_clear hclear with ⟨found, hfollow, hgrow⟩ | ⟨found, hfollow, hgrow⟩ | hmissing
  · rw [hgrow, makeDirectory, locate_of_short hshort, hfollow]
    dsimp only [settle]
    rw [if_pos]
    rw [isDirectory, locate_of_short hshort, hfollow]
  · rw [hgrow, makeDirectory, locate_of_short hshort, hfollow]
    rfl
  · exact absurd hmissing hthere

theorem clear_of_locate {t : FileTree} {p : Path} {target : Target} (h : t.locate p = .ok target)
    (hfile : ∀ found contents, target ≠ .file found contents) :
    p.text.utf8ByteSize ≤ pathLimit ∧ t.Clear (t.start p.anchor) p.parts := by
  obtain ⟨hshort, hfollow⟩ := locate_eq_ok_iff.mp h
  exact ⟨hshort, clear_of_follow hfollow hfile⟩

theorem clear_of_settle {t : FileTree} {p : Path} (h : (t.settle p (t.makeDirectory p)).fault = none) :
    p.text.utf8ByteSize ≤ pathLimit ∧ t.Clear (t.start p.anchor) p.parts := by
  cases hlocate : t.locate p with
  | error kind => simp [settle, makeDirectory, isDirectory, hlocate] at h
  | ok target =>
      cases target with
      | directory found => exact clear_of_locate hlocate (by simp)
      | file found contents => simp [settle, makeDirectory, isDirectory, hlocate] at h
      | absent found => exact clear_of_locate hlocate (by simp)

theorem makeDirectory_eq_noEntry_iff {t : FileTree} {p : Path} (hshort : p.text.utf8ByteSize ≤ pathLimit) :
    t.makeDirectory p = .error .noEntry ↔ t.follow (t.start p.anchor) p.parts = .error .noEntry := by
  rw [makeDirectory, locate_of_short hshort]
  cases t.follow (t.start p.anchor) p.parts with
  | error kind => simp
  | ok target => cases target <;> simp

end FileTree

theorem Path.text_of_ne_nil {anchor : Anchor} {parts : List String} (h : parts ≠ []) :
    (Path.mk anchor parts).text = Path.anchorText anchor ++ "/".intercalate parts :=
  if_neg fun hdot => h hdot.2

theorem Path.short_of_append {anchor : Anchor} {parts : List String} {name : String}
    (h : (Path.mk anchor (parts ++ [name])).text.utf8ByteSize ≤ FileTree.pathLimit) :
    (Path.mk anchor parts).text.utf8ByteSize ≤ FileTree.pathLimit := by
  by_cases hparts : parts = []
  · subst hparts
    cases anchor <;> decide
  · rw [Path.text_of_ne_nil (by simp), String.intercalate_append_of_ne_nil hparts (by simp)] at h
    rw [Path.text_of_ne_nil hparts]
    simp only [String.utf8ByteSize_append] at h ⊢
    omega

namespace FileTree

theorem makeDirectories_concat (t : FileTree) (anchor : Anchor) (parts : List String) (name : String) :
    t.makeDirectories anchor (parts ++ [name]).reverse =
      let p : Path := ⟨anchor, parts ++ [name]⟩
      if t.makeDirectory p = .error .noEntry then
        let up := t.makeDirectories anchor parts.reverse
        match up.fault with
        | some fault => ⟨up.tree, some fault⟩
        | none => up.tree.settle p (up.tree.makeDirectory p)
      else t.settle p (t.makeDirectory p) := by
  rw [List.reverse_append, List.reverse_singleton, List.singleton_append, makeDirectories, List.reverse_reverse]
  dsimp only
  split
  · rename_i hmade
    exact (if_pos hmade).symm
  · rename_i hmade
    exact (if_neg hmade).symm

theorem makeDirectories_of_clear {t : FileTree} {anchor : Anchor} {parts : List String}
    (hshort : (Path.mk anchor parts).text.utf8ByteSize ≤ pathLimit) (hclear : t.Clear (t.start anchor) parts) :
    t.makeDirectories anchor parts.reverse = ⟨t.grow (t.start anchor) parts, none⟩ := by
  -- from the last part up, as the directories are asked for; once those above are made, none is missing
  induction parts using List.reverseRecOn with
  | nil => exact settle_of_clear hshort hclear (by simp [follow])
  | append_singleton parts name ih =>
      rw [makeDirectories_concat]
      dsimp only
      split_ifs with hmissing
      · have hgrown := t.grow_grow (t.start anchor) parts
        rw [ih (Path.short_of_append hshort) hclear.of_append]
        dsimp only
        have hstart := t.start_grow (t.start anchor) parts anchor
        rw [settle_of_clear hshort] <;> dsimp only <;> rw [hstart]
        · rw [grow_append, hgrown, ← grow_append]
        · exact clear_grow_iff.mpr hclear
        · exact follow_ne_noEntry hgrown name
      · exact settle_of_clear hshort hclear ((makeDirectory_eq_noEntry_iff hshort).not.mp hmissing)

theorem clear_of_makeDirectories {t : FileTree} {anchor : Anchor} {parts : List String}
    (h : (t.makeDirectories anchor parts.reverse).fault = none) :
    (Path.mk anchor parts).text.utf8ByteSize ≤ pathLimit ∧ t.Clear (t.start anchor) parts := by
  induction parts using List.reverseRecOn with
  | nil => exact clear_of_settle (p := ⟨anchor, []⟩) h
  | append_singleton parts name ih =>
      rw [makeDirectories_concat] at h
      dsimp only at h
      split_ifs at h with hmissing
      · split at h
        · cases h
        · rename_i hup
          obtain ⟨hshort, hclear⟩ := ih hup
          rw [makeDirectories_of_clear hshort hclear] at h
          obtain ⟨hlong, hgrown⟩ := clear_of_settle h
          rw [start_grow] at hgrown
          exact ⟨hlong, clear_grow_iff.mp hgrown⟩
      · exact clear_of_settle h

/-- A file can be put where the path leads: nothing is in the way of the directories above, and once these are
there, the path leads to a file or to nothing yet. -/
structure CanHold (t : FileTree) (p : Path) : Prop where
  short : p.text.utf8ByteSize ≤ pathLimit
  clear : t.Clear (t.start p.anchor) p.parent.parts
  free : ∃ target, (t.grow (t.start p.anchor) p.parent.parts).follow (t.start p.anchor) p.parts = .ok target ∧
    target.slot?.isSome

theorem CanHold.parts_eq {t : FileTree} {p : Path} (h : t.CanHold p) :
    ∃ name, p.parts = p.parent.parts ++ [name] := by
  obtain ⟨target, hfollow, hslot⟩ := h.free
  rcases List.eq_nil_or_concat p.parts with hnil | ⟨above, name, hconcat⟩
  · rw [hnil, follow] at hfollow
    cases hfollow
    cases hslot
  · refine ⟨name, ?_⟩
    rw [Path.parent, hconcat, List.concat_eq_append, List.dropLast_concat]

theorem writeFile_of_slot {t : FileTree} {p : Path} {target : Target} {names : List String}
    (hlocate : t.locate p = .ok target) (hslot : target.slot? = some names) (contents : List UInt8) :
    t.writeFile p contents = ⟨t.set names (.file contents), none⟩ := by
  rw [writeFile, hlocate]
  cases target with
  | directory found => cases hslot
  | file found old | absent found =>
      cases hslot
      rfl

theorem writeFile_fault_eq_none_iff {t : FileTree} {p : Path} {contents : List UInt8} :
    (t.writeFile p contents).fault = none ↔ ∃ target, t.locate p = .ok target ∧ target.slot?.isSome := by
  rw [writeFile]
  cases t.locate p with
  | error kind => simp
  | ok target => cases target <;> simp [Target.slot?]

theorem CanHold.makeDirectories_eq {t : FileTree} {p : Path} (h : t.CanHold p) :
    t.makeDirectories p.anchor p.parent.parts.reverse = ⟨t.grow (t.start p.anchor) p.parent.parts, none⟩ := by
  obtain ⟨name, hname⟩ := h.parts_eq
  have hshort : (Path.mk p.anchor (p.parent.parts ++ [name])).text.utf8ByteSize ≤ pathLimit := by
    rw [← hname]
    exact h.short
  exact makeDirectories_of_clear (Path.short_of_append hshort) h.clear

theorem writeWithParents_fault_eq_none_iff {t : FileTree} {p : Path} {contents : List UInt8} :
    (t.writeWithParents p contents).fault = none ↔ t.CanHold p := by
  constructor
  · intro h
    unfold writeWithParents at h
    dsimp only at h
    split at h
    · cases h
    · rename_i hmade
      obtain ⟨hshort, hclear⟩ := clear_of_makeDirectories hmade
      rw [makeDirectories_of_clear hshort hclear, writeFile_fault_eq_none_iff] at h
      obtain ⟨target, hlocate, hslot⟩ := h
      obtain ⟨hshort, hfollow⟩ := locate_grow_eq_ok_iff.mp hlocate
      exact ⟨hshort, hclear, target, hfollow, hslot⟩
  · intro h
    obtain ⟨target, hfollow, hslot⟩ := h.free
    rw [writeWithParents, h.makeDirectories_eq]
    exact writeFile_fault_eq_none_iff.mpr ⟨target, locate_grow_eq_ok_iff.mpr ⟨h.short, hfollow⟩, hslot⟩

theorem CanHold.writeWithParents_eq {t : FileTree} {p : Path} (h : t.CanHold p) (contents : List UInt8) :
    (t.writeWithParents p contents).tree =
      (t.grow (t.start p.anchor) p.parent.parts).set (lead (t.start p.anchor) p.parts) (.file contents) := by
  obtain ⟨target, hfollow, hslot⟩ := h.free
  obtain ⟨names, hslot⟩ := Option.isSome_iff_exists.mp hslot
  have hlocate : (t.grow (t.start p.anchor) p.parent.parts).locate p = .ok target :=
    locate_grow_eq_ok_iff.mpr ⟨h.short, hfollow⟩
  rw [writeWithParents, h.makeDirectories_eq]
  dsimp only
  rw [writeFile_of_slot hlocate hslot, slot_of_follow hfollow hslot]

theorem get?_writeWithParents {t : FileTree} {p : Path} (h : t.CanHold p) (contents : List UInt8)
    (names : List String) :
    (t.writeWithParents p contents).tree.get? names =
      if names = lead (t.start p.anchor) p.parts then some (.file contents)
      else if names ∈ entered (t.start p.anchor) p.parent.parts ∧ t.get? names = none then some .directory
      else t.get? names := by
  rw [h.writeWithParents_eq, get?_set, get?_grow]

theorem working_writeWithParents {t : FileTree} {p : Path} (h : t.CanHold p) (contents : List UInt8) :
    (t.writeWithParents p contents).tree.working = t.working := by
  rw [h.writeWithParents_eq, working_set, working_grow]

end FileTree

end PullComment.CommandLine
