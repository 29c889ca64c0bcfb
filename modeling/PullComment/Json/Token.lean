import PullComment.Json.Basic
import PullComment.Text.Hex

namespace PullComment.Json

inductive Token where
  | openBrace
  | closeBrace
  | openBracket
  | closeBracket
  | colon
  | comma
  | null
  | bool (b : Bool)
  | number (n : Number)
  | string (s : String)
  deriving DecidableEq, Repr

def isBlank (c : Char) : Bool :=
  c = ' ' ∨ c = '\t' ∨ c = '\n' ∨ c = '\r'

def isDigit (c : Char) : Bool :=
  decide ('0' ≤ c) && decide (c ≤ '9')

def readUnit : List Char → Option (Nat × List Char)
  | a :: b :: c :: d :: rest => do
      let w ← Text.hexValue a
      let x ← Text.hexValue b
      let y ← Text.hexValue c
      let z ← Text.hexValue d
      some (((w * 16 + x) * 16 + y) * 16 + z, rest)
  | _ => none

theorem length_readUnit {s : List Char} {n : Nat} {rest : List Char}
    (h : readUnit s = some (n, rest)) : rest.length ≤ s.length := by
  unfold readUnit at h
  split at h
  · simp only [Option.bind_eq_bind, Option.bind_eq_some_iff] at h
    obtain ⟨_, _, _, _, _, _, _, _, h⟩ := h
    simp only [Option.some.injEq, Prod.mk.injEq] at h
    simp only [← h.2, List.length_cons]
    omega
  · simp at h

def readCodePoint (s : List Char) : Option (Char × List Char) :=
  match readUnit s with
  | none => none
  | some (high, rest) =>
      if 0xD800 ≤ high ∧ high < 0xDC00 then
        match rest with
        | '\\' :: 'u' :: tail =>
            match readUnit tail with
            | some (low, rest') =>
                if 0xDC00 ≤ low ∧ low < 0xE000 then
                  some (Char.ofNat (0x10000 + (high - 0xD800) * 0x400 + (low - 0xDC00)), rest')
                else none
            | none => none
        | _ => none
      else if 0xDC00 ≤ high ∧ high < 0xE000 then none
      else some (Char.ofNat high, rest)

theorem length_readCodePoint {s : List Char} {c : Char} {rest : List Char}
    (h : readCodePoint s = some (c, rest)) : rest.length ≤ s.length := by
  unfold readCodePoint at h
  split at h
  · simp at h
  · rename_i high tail hu
    have hl := length_readUnit hu
    split at h
    · split at h
      · split at h
        · rename_i hv
          have hl' := length_readUnit hv
          split at h
          · simp only [Option.some.injEq, Prod.mk.injEq] at h
            simp only [List.length_cons] at hl
            rw [← h.2]
            omega
          · simp at h
        · simp at h
      · simp at h
    · split at h
      · simp at h
      · simp only [Option.some.injEq, Prod.mk.injEq] at h
        rw [← h.2]
        exact hl

def readEscape : List Char → Option (Char × List Char)
  | '"' :: rest => some ('"', rest)
  | '\\' :: rest => some ('\\', rest)
  | '/' :: rest => some ('/', rest)
  | 'b' :: rest => some ('\x08', rest)
  | 'f' :: rest => some ('\x0c', rest)
  | 'n' :: rest => some ('\n', rest)
  | 'r' :: rest => some ('\r', rest)
  | 't' :: rest => some ('\t', rest)
  | 'u' :: rest => readCodePoint rest
  | _ => none

theorem length_readEscape {s : List Char} {c : Char} {rest : List Char}
    (h : readEscape s = some (c, rest)) : rest.length ≤ s.length := by
  unfold readEscape at h
  split at h
  case h_9 tail =>
    have := length_readCodePoint h
    simp only [List.length_cons]
    omega
  case h_10 => simp at h
  all_goals
    simp only [Option.some.injEq, Prod.mk.injEq] at h
    simp [← h.2]

def readString (done : List Char) (s : List Char) : Option (List Char × List Char) :=
  match s with
  | [] => none
  | '"' :: rest => some (done.reverse, rest)
  | '\\' :: rest =>
      match _h : readEscape rest with
      | some (c, rest') => readString (c :: done) rest'
      | none => none
  | c :: rest => if c.toNat < 0x20 then none else readString (c :: done) rest
termination_by s.length
decreasing_by
  · have := length_readEscape _h
    simp only [List.length_cons]
    omega
  · simp

theorem length_readString {done s text rest : List Char}
    (h : readString done s = some (text, rest)) : rest.length ≤ s.length := by
  fun_induction readString done s with
  | case1 => simp at h
  | case2 done tail =>
      simp only [Option.some.injEq, Prod.mk.injEq] at h
      simp [← h.2]
  | case3 done tail c rest' he ih =>
      have := length_readEscape he
      have := ih h
      simp only [List.length_cons]
      omega
  | case4 => simp at h
  | case5 => simp at h
  | case6 done c tail _ _ _ ih =>
      have := ih h
      simp only [List.length_cons]
      omega

def digitsValue (digits : List Char) : Nat :=
  digits.foldl (fun n c => n * 10 + (c.toNat - 48)) 0

def readFraction : List Char → Option (List Char × List Char)
  | '.' :: rest =>
      let digits := rest.takeWhile isDigit
      if digits.isEmpty then none else some (digits, rest.dropWhile isDigit)
  | rest => some ([], rest)

def readSign : List Char → Bool × List Char
  | '-' :: rest => (true, rest)
  | '+' :: rest => (false, rest)
  | rest => (false, rest)

def readExponent : List Char → Option (Option Int × List Char)
  | c :: rest =>
      if c = 'e' ∨ c = 'E' then
        let digits := (readSign rest).2.takeWhile isDigit
        let value : Int := digitsValue digits
        if digits.isEmpty then none
        else some (some (if (readSign rest).1 then -value else value), (readSign rest).2.dropWhile isDigit)
      else some (none, c :: rest)
  | [] => some (none, [])

def readWhole : List Char → Option (List Char × List Char)
  | '0' :: rest => some (['0'], rest)
  | s =>
      let digits := s.takeWhile isDigit
      if digits.isEmpty then none else some (digits, s.dropWhile isDigit)

def wholeLimit : Nat := 4300

/-- With a fraction or an exponent every number can be written with a short whole part. -/
def fitsWhole : Number → Bool
  | .integer n => (Nat.toDigits 10 n.natAbs).length ≤ wholeLimit
  | _ => true

def readUnsigned (negative : Bool) (s : List Char) : Option (Number × List Char) :=
  match readWhole s with
  | none => none
  | some (whole, rest) =>
      if wholeLimit < whole.length then none
      else match readFraction rest with
      | none => none
      | some (fraction, rest') =>
          match readExponent rest' with
          | none => none
          | some (none, tail) =>
              if fraction.isEmpty then
                let n : Int := digitsValue whole
                some (.integer (if negative then -n else n), tail)
              else some (.decimal negative (digitsValue (whole ++ fraction)) (-fraction.length), tail)
          | some (some e, tail) =>
              some (.decimal negative (digitsValue (whole ++ fraction)) (e - fraction.length), tail)

def readWord (token : Token) : List Char → List Char → Option (Token × List Char)
  | [], rest => some (token, rest)
  | w :: word, c :: rest => if w = c then readWord token word rest else none
  | _ :: _, [] => none

def nextToken (c : Char) (rest : List Char) : Option (Token × List Char) :=
  match c with
  | '{' => some (.openBrace, rest)
  | '}' => some (.closeBrace, rest)
  | '[' => some (.openBracket, rest)
  | ']' => some (.closeBracket, rest)
  | ':' => some (.colon, rest)
  | ',' => some (.comma, rest)
  | '"' => (readString [] rest).map fun (text, tail) => (.string (String.ofList text), tail)
  | 'n' => readWord .null ['u', 'l', 'l'] rest
  | 't' => readWord (.bool true) ['r', 'u', 'e'] rest
  | 'f' => readWord (.bool false) ['a', 'l', 's', 'e'] rest
  | 'N' => readWord (.number .nan) ['a', 'N'] rest
  | 'I' => readWord (.number (.infinity false)) ['n', 'f', 'i', 'n', 'i', 't', 'y'] rest
  | '-' =>
      match readWord (.number (.infinity true)) ['I', 'n', 'f', 'i', 'n', 'i', 't', 'y'] rest with
      | some found => some found
      | none => (readUnsigned true rest).map fun (n, tail) => (.number n, tail)
  | c => (readUnsigned false (c :: rest)).map fun (n, tail) => (.number n, tail)

theorem length_readFraction {s digits rest : List Char} (h : readFraction s = some (digits, rest)) :
    rest.length ≤ s.length := by
  unfold readFraction at h
  split at h
  · rename_i tail
    have := (List.dropWhile_suffix isDigit (l := tail)).length_le
    dsimp only at h
    split at h
    · simp at h
    · simp only [Option.some.injEq, Prod.mk.injEq] at h
      rw [← h.2, List.length_cons]
      omega
  · simp only [Option.some.injEq, Prod.mk.injEq] at h
    obtain ⟨-, rfl⟩ := h
    exact Nat.le_refl _

theorem length_readSign (s : List Char) : (readSign s).2.length ≤ s.length := by
  unfold readSign
  split <;> simp

theorem length_readExponent {s rest : List Char} {e : Option Int}
    (h : readExponent s = some (e, rest)) : rest.length ≤ s.length := by
  unfold readExponent at h
  split at h
  · rename_i c tail
    split at h
    · dsimp only at h
      split at h
      · simp at h
      · simp only [Option.some.injEq, Prod.mk.injEq] at h
        have := length_readSign tail
        have := (List.dropWhile_suffix isDigit (l := (readSign tail).2)).length_le
        rw [← h.2, List.length_cons]
        omega
    · simp only [Option.some.injEq, Prod.mk.injEq] at h
      obtain ⟨-, rfl⟩ := h
      exact Nat.le_refl _
  · simp only [Option.some.injEq, Prod.mk.injEq] at h
    obtain ⟨-, rfl⟩ := h
    exact Nat.le_refl _

theorem length_readWhole {s digits rest : List Char} (h : readWhole s = some (digits, rest)) :
    rest.length < s.length := by
  unfold readWhole at h
  split at h
  · simp only [Option.some.injEq, Prod.mk.injEq] at h
    simp [← h.2]
  · dsimp only at h
    split at h
    · simp at h
    · rename_i hd
      simp only [Option.some.injEq, Prod.mk.injEq] at h
      rw [← h.2]
      have hs := congrArg List.length (List.takeWhile_append_dropWhile (p := isDigit) (l := s))
      have hp : 0 < (s.takeWhile isDigit).length := by
        rw [List.length_pos_iff]
        simpa using hd
      rw [List.length_append] at hs
      omega

theorem length_readUnsigned {negative : Bool} {s rest : List Char} {n : Number}
    (h : readUnsigned negative s = some (n, rest)) : rest.length < s.length := by
  unfold readUnsigned at h
  split at h
  · simp at h
  · rename_i hw
    have := length_readWhole hw
    split at h
    · simp at h
    split at h
    · simp at h
    · rename_i hf
      have := length_readFraction hf
      split at h
      · simp at h
      · rename_i he
        have := length_readExponent he
        split at h <;>
        · simp only [Option.some.injEq, Prod.mk.injEq] at h
          rw [← h.2]
          omega
      · rename_i he
        have := length_readExponent he
        simp only [Option.some.injEq, Prod.mk.injEq] at h
        rw [← h.2]
        omega

theorem length_readWord {word s rest : List Char} {token found : Token}
    (h : readWord token word s = some (found, rest)) : rest.length ≤ s.length := by
  fun_induction readWord token word s with
  | case1 => simp_all
  | case2 word c tail ih =>
      have := ih h
      simp only [List.length_cons]
      omega
  | case3 => simp at h
  | case4 => simp at h

theorem length_nextToken {c : Char} {s rest : List Char} {token : Token}
    (h : nextToken c s = some (token, rest)) : rest.length ≤ s.length := by
  unfold nextToken at h
  split at h
  case h_7 =>
    simp only [Option.map_eq_some_iff, Prod.mk.injEq] at h
    obtain ⟨found, hf, _, rfl⟩ := h
    exact length_readString hf
  case h_13 =>
    split at h
    · rename_i found hw
      simp only [Option.some.injEq] at h
      subst h
      exact length_readWord hw
    · simp only [Option.map_eq_some_iff, Prod.mk.injEq] at h
      obtain ⟨found, hf, _, rfl⟩ := h
      exact Nat.le_of_lt (length_readUnsigned hf)
  case h_14 =>
    simp only [Option.map_eq_some_iff, Prod.mk.injEq] at h
    obtain ⟨found, hf, _, rfl⟩ := h
    have := length_readUnsigned hf
    simp only [List.length_cons] at this
    omega
  all_goals first
    | exact length_readWord h
    | (simp only [Option.some.injEq, Prod.mk.injEq] at h; obtain ⟨-, rfl⟩ := h; exact Nat.le_refl _)

def tokens (s : List Char) : Option (List Token) :=
  match s with
  | [] => some []
  | c :: rest =>
      if isBlank c then tokens rest
      else
        match _h : nextToken c rest with
        | some (token, tail) => (tokens tail).map (token :: ·)
        | none => none
termination_by s.length
decreasing_by
  · simp
  · have := length_nextToken _h
    simp only [List.length_cons]
    omega

end PullComment.Json
