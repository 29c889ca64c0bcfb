namespace PullComment.Index

def limit : Int :=
  Int.pow 2 63

def fits (i : Int) : Bool :=
  decide (-limit ≤ i ∧ i < limit)

def tooLargeText : String :=
  "cannot fit 'int' into an index-sized integer"

def resolve (length : Nat) (i : Int) : Option Nat :=
  if 0 ≤ i ∧ i < length then some i.toNat
  else if i < 0 ∧ -(length : Int) ≤ i then some (i + length).toNat
  else none

theorem lt_of_resolve {length place : Nat} {i : Int} (h : resolve length i = some place) :
    place < length := by
  unfold resolve at h
  split at h
  · cases h; omega
  · split at h
    · cases h; omega
    · cases h

theorem resolve_natCast (length place : Nat) (h : place < length) :
    resolve length place = some place := by
  unfold resolve
  split
  · simp
  · omega

end PullComment.Index
