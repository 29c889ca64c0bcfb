namespace PullComment.Text

def joinLineEnds : List Char → List Char
  | [] => []
  | '\r' :: '\n' :: rest => '\n' :: joinLineEnds rest
  | '\r' :: rest => '\n' :: joinLineEnds rest
  | c :: rest => c :: joinLineEnds rest

theorem not_mem_joinLineEnds (s : List Char) : '\r' ∉ joinLineEnds s := by
  induction s using joinLineEnds.induct with
  | case1 => simp [joinLineEnds]
  | case2 rest ih => simp [joinLineEnds, ih]
  | case3 rest h ih => simp [joinLineEnds, ih]
  | case4 c rest h1 h2 ih =>
      have hc : c ≠ '\r' := fun h => h2 h
      rw [joinLineEnds]
      · simp [ih, Ne.symm hc]
      · exact h1
      · exact h2

end PullComment.Text
