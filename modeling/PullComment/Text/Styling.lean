namespace PullComment.Text

def isParameter (c : Char) : Bool :=
  (decide ('0' ≤ c) && decide (c ≤ '9')) || c == ';' || c == '?'

def afterParameters : List Char → Option (List Char)
  | [] => none
  | c :: rest =>
      if isParameter c then afterParameters rest
      else if c.isAlpha then some rest
      else none

theorem length_afterParameters {s rest : List Char} (h : afterParameters s = some rest) :
    rest.length < s.length := by
  induction s with
  | nil => simp [afterParameters] at h
  | cons c s ih =>
      simp only [afterParameters] at h
      split at h
      · have := ih h
        simp only [List.length_cons]
        omega
      · split at h
        · simp only [Option.some.injEq] at h
          simp [h]
        · simp at h

def afterStyling (c : Char) (rest : List Char) : Option (List Char) :=
  if c = '\x1b' then
    match rest with
    | '[' :: tail => afterParameters tail
    | _ => none
  else none

theorem length_afterStyling {c : Char} {s rest : List Char} (h : afterStyling c s = some rest) :
    rest.length ≤ s.length := by
  unfold afterStyling at h
  split at h
  · split at h
    · have := length_afterParameters h
      simp only [List.length_cons]
      omega
    · simp at h
  · simp at h

def dropStyling (s : List Char) : List Char :=
  match s with
  | [] => []
  | c :: rest =>
      match _h : afterStyling c rest with
      | some tail => dropStyling tail
      | none => c :: dropStyling rest
termination_by s.length
decreasing_by
  · have := length_afterStyling _h
    simp only [List.length_cons]
    omega
  · simp

theorem dropStyling_of_not_mem {s : List Char} (h : '\x1b' ∉ s) : dropStyling s = s := by
  induction s with
  | nil => rw [dropStyling]
  | cons c s ih =>
      simp only [List.mem_cons, not_or] at h
      have hn : afterStyling c s = none := if_neg (Ne.symm h.1)
      rw [dropStyling]
      split
      · rename_i he
        rw [hn] at he
        exact absurd he (by simp)
      · rw [ih h.2]

end PullComment.Text
