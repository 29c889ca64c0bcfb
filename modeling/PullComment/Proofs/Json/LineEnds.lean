import Mathlib.Data.List.TakeWhile
import PullComment.Proofs.Json.Written
import PullComment.Schema.Validation
import PullComment.Text.Newline

namespace PullComment

namespace Text

theorem joinLineEnds_cons {c : Char} (hc : c ≠ '\r') (s : List Char) :
    joinLineEnds (c :: s) = c :: joinLineEnds s := by
  rw [joinLineEnds]
  · exact fun _ h => absurd h hc
  · exact fun h => absurd h hc

theorem joinLineEnds_return (s : List Char) :
    joinLineEnds ('\r' :: s) = '\n' :: joinLineEnds s ∨ joinLineEnds ('\r' :: s) = joinLineEnds s := by
  by_cases h : ∃ rest, s = '\n' :: rest
  · obtain ⟨rest, rfl⟩ := h
    right
    rw [joinLineEnds, joinLineEnds_cons (by decide)]
  · left
    rw [joinLineEnds]
    exact fun rest hs => h ⟨rest, hs⟩

theorem exists_joinLineEnds_return (s : List Char) : ∃ rest, joinLineEnds ('\r' :: s) = '\n' :: rest := by
  by_cases h : ∃ rest, s = '\n' :: rest
  · obtain ⟨rest, rfl⟩ := h
    exact ⟨_, by rw [joinLineEnds]⟩
  · refine ⟨joinLineEnds s, ?_⟩
    rw [joinLineEnds]
    exact fun rest hs => h ⟨rest, hs⟩

theorem exists_of_joinLineEnds_eq_cons {s rest' : List Char} {c : Char} (hc : c ≠ '\n')
    (h : joinLineEnds s = c :: rest') : ∃ rest, s = c :: rest := by
  cases s with
  | nil => cases h
  | cons d rest =>
      by_cases hd : d = '\r'
      · subst hd
        obtain ⟨rest'', hrest''⟩ := exists_joinLineEnds_return rest
        rw [hrest''] at h
        exact absurd (List.cons.inj h).1.symm hc
      · rw [joinLineEnds_cons hd] at h
        exact ⟨rest, by rw [(List.cons.inj h).1]⟩

section Span

variable {p : Char → Bool} (hreturn : p '\r' = false) (hfeed : p '\n' = false)

include hreturn hfeed

theorem takeWhile_joinLineEnds (s : List Char) : (joinLineEnds s).takeWhile p = s.takeWhile p := by
  induction s with
  | nil => rfl
  | cons c s ih =>
      by_cases hc : c = '\r'
      · subst hc
        obtain ⟨rest, hrest⟩ := exists_joinLineEnds_return s
        rw [hrest, List.takeWhile_cons, List.takeWhile_cons, hreturn, hfeed]
        rfl
      · rw [joinLineEnds_cons hc, List.takeWhile_cons, List.takeWhile_cons, ih]

theorem dropWhile_joinLineEnds (s : List Char) :
    (joinLineEnds s).dropWhile p = joinLineEnds (s.dropWhile p) := by
  induction s with
  | nil => rfl
  | cons c s ih =>
      by_cases hc : c = '\r'
      · subst hc
        obtain ⟨rest, hrest⟩ := exists_joinLineEnds_return s
        rw [List.dropWhile_cons, hreturn, hrest, List.dropWhile_cons, hfeed]
        exact hrest.symm
      · rw [joinLineEnds_cons hc, List.dropWhile_cons, List.dropWhile_cons, ih]
        split
        · rfl
        · exact (joinLineEnds_cons hc s).symm

end Span

end Text

namespace Json

open Text

variable {α β : Type}

/-- What a reader reads from the front of a text holds no line end. -/
def Blind (read : List Char → Option (α × List Char)) : Prop :=
  ∀ s, read (joinLineEnds s) = (read s).map fun p => (p.1, joinLineEnds p.2)

namespace Blind

theorem bind {f : List Char → Option (α × List Char)} {g : α → List Char → Option (β × List Char)}
    (hf : Blind f) (hg : ∀ a, Blind (g a)) : Blind fun s => (f s).bind fun p => g p.1 p.2 := by
  intro s
  dsimp only
  rw [hf s]
  cases f s with
  | none => rfl
  | some p => exact hg p.1 p.2

theorem pure (a : α) : Blind fun s => some (a, s) :=
  fun _ => rfl

theorem none : Blind fun _ => (Option.none : Option (α × List Char)) :=
  fun _ => rfl

theorem of_head {read : List Char → Option (α × List Char)} (hnil : read [] = Option.none)
    (hreturn : ∀ rest, read ('\r' :: rest) = Option.none) (hfeed : ∀ rest, read ('\n' :: rest) = Option.none)
    (hcons : ∀ c, c ≠ '\r' → ∀ rest,
      read (c :: joinLineEnds rest) = (read (c :: rest)).map fun p => (p.1, joinLineEnds p.2)) :
    Blind read := by
  intro s
  cases s with
  | nil => rw [joinLineEnds, hnil, Option.map_none]
  | cons c rest =>
      by_cases hc : c = '\r'
      · subst hc
        obtain ⟨rest', hrest'⟩ := exists_joinLineEnds_return rest
        rw [hrest', hfeed, hreturn, Option.map_none]
      · rw [joinLineEnds_cons hc, hcons c hc]

end Blind

def readBy (value? : Char → Option α) : List Char → Option (α × List Char)
  | c :: rest => (value? c).map (·, rest)
  | [] => none

theorem blind_readBy {value? : Char → Option α} (hreturn : value? '\r' = none) (hfeed : value? '\n' = none) :
    Blind (readBy value?) := by
  refine .of_head rfl (fun rest => ?_) (fun rest => ?_) fun c _ rest => ?_
  · rw [readBy, hreturn, Option.map_none]
  · rw [readBy, hfeed, Option.map_none]
  · rw [readBy, readBy, Option.map_map]
    rfl

theorem readBy_nil (value? : Char → Option α) : readBy value? [] = none :=
  rfl

theorem bind_readBy {β : Type} (value? : Char → Option α) (c : Char) (rest : List Char)
    (f : α × List Char → Option β) : (readBy value? (c :: rest)).bind f = (value? c).bind fun a => f (a, rest) := by
  rw [readBy, Option.bind_map]
  rfl

theorem readUnit_eq (s : List Char) :
    readUnit s = (readBy hexValue s).bind fun w => (readBy hexValue w.2).bind fun x =>
      (readBy hexValue x.2).bind fun y => (readBy hexValue y.2).bind fun z =>
        some (((w.1 * 16 + x.1) * 16 + y.1) * 16 + z.1, z.2) := by
  rcases s with _ | ⟨a, _ | ⟨b, _ | ⟨c, _ | ⟨d, rest⟩⟩⟩⟩ <;> simp [readUnit, bind_readBy, readBy_nil]

theorem blind_readUnit : Blind readUnit := by
  have hdigit : Blind (readBy hexValue) := blind_readBy (by decide) (by decide)
  have h : Blind fun s => (readBy hexValue s).bind fun w => (readBy hexValue w.2).bind fun x =>
      (readBy hexValue x.2).bind fun y => (readBy hexValue y.2).bind fun z =>
        some (((w.1 * 16 + x.1) * 16 + y.1) * 16 + z.1, z.2) :=
    hdigit.bind fun w => hdigit.bind fun x => hdigit.bind fun y => hdigit.bind fun z =>
      .pure (((w * 16 + x) * 16 + y) * 16 + z)
  simpa only [← readUnit_eq] using h

def only (c d : Char) : Option Unit :=
  if d = c then some () else none

theorem blind_readBy_only {c : Char} (hreturn : '\r' ≠ c) (hfeed : '\n' ≠ c) : Blind (readBy (only c)) :=
  blind_readBy (if_neg hreturn) (if_neg hfeed)

def readLowUnit (s : List Char) : Option (Nat × List Char) :=
  (readBy (only '\\') s).bind fun p => (readBy (only 'u') p.2).bind fun p => readUnit p.2

theorem readLowUnit_of_escape (tail : List Char) : readLowUnit ('\\' :: 'u' :: tail) = readUnit tail := by
  simp [readLowUnit, readBy, only]

theorem readLowUnit_of_no_escape {s : List Char} (h : ∀ tail, s = '\\' :: 'u' :: tail → False) :
    readLowUnit s = none := by
  rcases s with _ | ⟨a, _ | ⟨b, tail⟩⟩
  · rfl
  · by_cases ha : a = '\\' <;> simp [readLowUnit, readBy, only, ha]
  · by_cases ha : a = '\\'
    · by_cases hb : b = 'u'
      · exact (h tail (by rw [ha, hb])).elim
      · simp [readLowUnit, readBy, only, ha, hb]
    · simp [readLowUnit, readBy, only, ha]

theorem blind_readLowUnit : Blind readLowUnit :=
  (blind_readBy_only (by decide) (by decide)).bind fun _ =>
    (blind_readBy_only (by decide) (by decide)).bind (g := fun _ => readUnit) fun _ => blind_readUnit

def readAfterUnit (high : Nat) (rest : List Char) : Option (Char × List Char) :=
  if 0xD800 ≤ high ∧ high < 0xDC00 then
    (readLowUnit rest).bind fun low =>
      if 0xDC00 ≤ low.1 ∧ low.1 < 0xE000 then
        some (Char.ofNat (0x10000 + (high - 0xD800) * 0x400 + (low.1 - 0xDC00)), low.2)
      else none
  else if 0xDC00 ≤ high ∧ high < 0xE000 then none
  else some (Char.ofNat high, rest)

theorem readCodePoint_eq (s : List Char) :
    readCodePoint s = (readUnit s).bind fun high => readAfterUnit high.1 high.2 := by
  unfold readCodePoint readAfterUnit
  cases readUnit s with
  | none => rfl
  | some p =>
      obtain ⟨high, rest⟩ := p
      dsimp only [Option.bind_some]
      split_ifs
      · split
        · rw [readLowUnit_of_escape]
          split
          · rename_i hlow
            rw [hlow, Option.bind_some]
          · rename_i hlow
            rw [hlow, Option.bind_none]
        · rename_i hescape
          rw [readLowUnit_of_no_escape hescape, Option.bind_none]
      · rfl
      · rfl

theorem blind_readAfterUnit (high : Nat) : Blind (readAfterUnit high) := by
  unfold readAfterUnit
  split_ifs
  · refine blind_readLowUnit.bind (g := fun low rest => if 0xDC00 ≤ low ∧ low < 0xE000 then
      some (Char.ofNat (0x10000 + (high - 0xD800) * 0x400 + (low - 0xDC00)), rest) else none) fun low => ?_
    split_ifs
    · exact .pure _
    · exact .none
  · exact .none
  · exact .pure _

theorem blind_readCodePoint : Blind readCodePoint := by
  simpa only [← readCodePoint_eq] using blind_readUnit.bind blind_readAfterUnit

theorem blind_readEscape : Blind readEscape := by
  refine .of_head rfl (fun _ => rfl) (fun _ => rfl) fun c hc rest => ?_
  by_cases hu : c = 'u'
  · subst hu
    exact blind_readCodePoint rest
  · unfold readEscape
    split <;> simp_all

theorem readString_of_no_escape {s : List Char} (done : List Char) (h : readEscape s = none) :
    readString done ('\\' :: s) = none := by
  rw [readString]
  split
  · rename_i heq
    rw [h] at heq
    cases heq
  · rfl

theorem readString_of_control {c : Char} (done s : List Char) (h : c.toNat < 0x20) :
    readString done (c :: s) = none := by
  have hquote : c ≠ '"' := by
    rintro rfl
    exact absurd h (by decide)
  have hslash : c ≠ '\\' := by
    rintro rfl
    exact absurd h (by decide)
  rw [readString]
  · rw [if_pos h]
  · exact hquote
  · exact hslash

theorem blind_readString (done : List Char) : Blind (readString done) := by
  intro s
  fun_induction readString done s with
  | case1 => rw [joinLineEnds, readString, Option.map_none]
  | case2 done rest =>
      rw [joinLineEnds_cons (by decide), readString]
      rfl
  | case3 done rest c rest' hescape ih =>
      rw [joinLineEnds_cons (by decide), ← ih]
      exact readString_escape done (by rw [blind_readEscape, hescape, Option.map_some])
  | case4 done rest hescape =>
      rw [joinLineEnds_cons (by decide)]
      exact readString_of_no_escape done (by rw [blind_readEscape, hescape, Option.map_none])
  | case5 done c rest hquote hslash hcontrol =>
      rw [Option.map_none]
      by_cases hc : c = '\r'
      · subst hc
        obtain ⟨rest', hrest'⟩ := exists_joinLineEnds_return rest
        rw [hrest']
        exact readString_of_control done rest' (by decide)
      · rw [joinLineEnds_cons hc]
        exact readString_of_control done _ hcontrol
  | case6 done c rest hquote hslash hcontrol ih =>
      have hc : c ≠ '\r' := by
        rintro rfl
        exact hcontrol (by decide)
      rw [joinLineEnds_cons hc, readString_plain done _ hquote hslash hcontrol, ih]

theorem takeWhile_isDigit_joinLineEnds (s : List Char) :
    (joinLineEnds s).takeWhile isDigit = s.takeWhile isDigit :=
  takeWhile_joinLineEnds (by decide) (by decide) s

theorem dropWhile_isDigit_joinLineEnds (s : List Char) :
    (joinLineEnds s).dropWhile isDigit = joinLineEnds (s.dropWhile isDigit) :=
  dropWhile_joinLineEnds (by decide) (by decide) s

def readDigits (s : List Char) : Option (List Char × List Char) :=
  if (s.takeWhile isDigit).isEmpty then none else some (s.takeWhile isDigit, s.dropWhile isDigit)

theorem blind_readDigits : Blind readDigits := by
  intro s
  rw [readDigits, takeWhile_isDigit_joinLineEnds, dropWhile_isDigit_joinLineEnds, readDigits]
  split <;> rfl

theorem readWhole_of_ne_zero {c : Char} (hc : c ≠ '0') (rest : List Char) :
    readWhole (c :: rest) = readDigits (c :: rest) := by
  rw [readWhole]
  · rfl
  · simpa using hc

theorem blind_readWhole : Blind readWhole := by
  refine .of_head rfl (fun _ => rfl) (fun _ => rfl) fun c hc rest => ?_
  by_cases hzero : c = '0'
  · subst hzero
    rfl
  · rw [readWhole_of_ne_zero hzero, readWhole_of_ne_zero hzero, ← joinLineEnds_cons hc, blind_readDigits]

theorem readFraction_of_ne_point {s : List Char} (h : ¬ ∃ rest, s = '.' :: rest) :
    readFraction s = some ([], s) := by
  rw [readFraction]
  exact fun rest hs => h ⟨rest, hs⟩

theorem blind_readFraction : Blind readFraction := by
  intro s
  by_cases h : ∃ rest, s = '.' :: rest
  · obtain ⟨rest, rfl⟩ := h
    rw [joinLineEnds_cons (by decide)]
    exact blind_readDigits rest
  · have hjoin : ¬ ∃ rest, joinLineEnds s = '.' :: rest :=
      fun ⟨_, hrest⟩ => h (exists_of_joinLineEnds_eq_cons (by decide) hrest)
    rw [readFraction_of_ne_point hjoin, readFraction_of_ne_point h, Option.map_some]

theorem readSign_of_no_sign {s : List Char} (hminus : ¬ ∃ rest, s = '-' :: rest)
    (hplus : ¬ ∃ rest, s = '+' :: rest) : readSign s = (false, s) := by
  rw [readSign]
  · exact fun rest hs => hminus ⟨rest, hs⟩
  · exact fun rest hs => hplus ⟨rest, hs⟩

theorem readSign_joinLineEnds (s : List Char) :
    readSign (joinLineEnds s) = ((readSign s).1, joinLineEnds (readSign s).2) := by
  by_cases hminus : ∃ rest, s = '-' :: rest
  · obtain ⟨rest, rfl⟩ := hminus
    rw [joinLineEnds_cons (by decide)]
    rfl
  by_cases hplus : ∃ rest, s = '+' :: rest
  · obtain ⟨rest, rfl⟩ := hplus
    rw [joinLineEnds_cons (by decide)]
    rfl
  rw [readSign_of_no_sign hminus hplus]
  exact readSign_of_no_sign (fun ⟨_, h⟩ => hminus (exists_of_joinLineEnds_eq_cons (by decide) h))
    fun ⟨_, h⟩ => hplus (exists_of_joinLineEnds_eq_cons (by decide) h)

def readPower (s : List Char) : Option (Option Int × List Char) :=
  (readDigits (readSign s).2).map fun p =>
    (some (if (readSign s).1 then -(digitsValue p.1 : Int) else digitsValue p.1), p.2)

theorem readExponent_cons (c : Char) (rest : List Char) :
    readExponent (c :: rest) = if c = 'e' ∨ c = 'E' then readPower rest else some (none, c :: rest) := by
  rw [readExponent]
  split
  · dsimp only [readPower, readDigits]
    split <;> rfl
  · rfl

theorem blind_readPower : Blind readPower := by
  intro s
  rw [readPower, readSign_joinLineEnds, blind_readDigits, readPower, Option.map_map, Option.map_map]
  rfl

theorem blind_readExponent : Blind readExponent := by
  intro s
  cases s with
  | nil => rfl
  | cons c rest =>
      by_cases hc : c = '\r'
      · subst hc
        obtain ⟨rest', hrest'⟩ := exists_joinLineEnds_return rest
        rw [readExponent_cons, if_neg (by decide), hrest', readExponent_cons, if_neg (by decide), ← hrest']
        rfl
      · rw [joinLineEnds_cons hc, readExponent_cons, readExponent_cons]
        split
        · exact blind_readPower rest
        · rw [Option.map_some, joinLineEnds_cons hc]

def numberOf (negative : Bool) (whole fraction : List Char) : Option Int → Number
  | none =>
      if fraction.isEmpty then .integer (if negative then -(digitsValue whole : Int) else digitsValue whole)
      else .decimal negative (digitsValue (whole ++ fraction)) (-fraction.length)
  | some e => .decimal negative (digitsValue (whole ++ fraction)) (e - fraction.length)

def readAfterWhole (negative : Bool) (whole s : List Char) : Option (Number × List Char) :=
  if wholeLimit < whole.length then none
  else (readFraction s).bind fun fraction => (readExponent fraction.2).bind fun e =>
    some (numberOf negative whole fraction.1 e.1, e.2)

theorem readUnsigned_eq (negative : Bool) (s : List Char) :
    readUnsigned negative s = (readWhole s).bind fun whole => readAfterWhole negative whole.1 whole.2 := by
  unfold readUnsigned
  cases readWhole s with
  | none => rfl
  | some p =>
      dsimp only [Option.bind_some, readAfterWhole]
      split
      · rfl
      · cases readFraction p.2 with
        | none => rfl
        | some q =>
            dsimp only [Option.bind_some]
            rcases readExponent q.2 with _ | ⟨_ | e, rest⟩
            · rfl
            · dsimp only [Option.bind_some, numberOf]
              split <;> rfl
            · rfl

theorem blind_readAfterWhole (negative : Bool) (whole : List Char) : Blind (readAfterWhole negative whole) := by
  unfold readAfterWhole
  split
  · exact .none
  · exact blind_readFraction.bind
      (g := fun fraction s => (readExponent s).bind fun e => some (numberOf negative whole fraction e.1, e.2))
      fun fraction => blind_readExponent.bind fun e => .pure (numberOf negative whole fraction e)

theorem blind_readUnsigned (negative : Bool) : Blind (readUnsigned negative) := by
  simpa only [← readUnsigned_eq] using blind_readWhole.bind (blind_readAfterWhole negative)

theorem blind_readWord (token : Token) {word : List Char} (hreturn : '\r' ∉ word) (hfeed : '\n' ∉ word) :
    Blind (readWord token word) := by
  induction word with
  | nil => exact fun _ => rfl
  | cons w word ih =>
      obtain ⟨hr, hreturn⟩ := not_or.mp (mt List.mem_cons.mpr hreturn)
      obtain ⟨hf, hfeed⟩ := not_or.mp (mt List.mem_cons.mpr hfeed)
      refine .of_head rfl (fun _ => if_neg (Ne.symm hr)) (fun _ => if_neg (Ne.symm hf)) fun c _ rest => ?_
      rw [readWord, readWord]
      split
      · exact ih hreturn hfeed rest
      · rfl

theorem nextToken_joinLineEnds {c : Char} (hc : c ≠ '\r') (rest : List Char) :
    nextToken c (joinLineEnds rest) = (nextToken c rest).map fun p => (p.1, joinLineEnds p.2) := by
  have hnumber : ∀ negative s, (readUnsigned negative (joinLineEnds s)).map (fun p => (Token.number p.1, p.2)) =
      ((readUnsigned negative s).map fun p => (Token.number p.1, p.2)).map fun p => (p.1, joinLineEnds p.2) := by
    intro negative s
    rw [blind_readUnsigned, Option.map_map, Option.map_map]
    rfl
  unfold nextToken
  split
  case h_7 =>
    rw [blind_readString, Option.map_map, Option.map_map]
    rfl
  case h_8 | h_9 | h_10 | h_11 | h_12 => exact blind_readWord _ (by decide) (by decide) rest
  case h_13 =>
    rw [blind_readWord _ (by decide) (by decide)]
    cases readWord (.number (.infinity true)) ['I', 'n', 'f', 'i', 'n', 'i', 't', 'y'] rest with
    | none => exact hnumber true rest
    | some found => rfl
  case h_14 =>
    rw [← joinLineEnds_cons hc]
    exact hnumber false (c :: rest)
  all_goals rfl

theorem tokens_joinLineEnds (s : List Char) : tokens (joinLineEnds s) = tokens s := by
  have notReturn {c : Char} (hc : ¬ isBlank c = true) : c ≠ '\r' := by
    rintro rfl
    exact hc (by decide)
  fun_induction tokens s with
  | case1 => rw [joinLineEnds, tokens]
  | case2 c rest hblank ih =>
      -- between tokens a return is a blank like the feed that it becomes, or is dropped before one
      by_cases hc : c = '\r'
      · subst hc
        rcases joinLineEnds_return rest with h | h
        · rw [h, tokens_of_blank (by decide), ih]
        · rw [h, ih]
      · rw [joinLineEnds_cons hc, tokens_of_blank hblank, ih]
  | case3 c rest hblank token tail hnext ih =>
      have hc := notReturn hblank
      have hjoined := nextToken_joinLineEnds hc rest
      rw [hnext, Option.map_some] at hjoined
      rw [joinLineEnds_cons hc, tokens_of_not_blank hblank, hjoined, Option.bind_some, ih]
  | case4 c rest hblank hnext =>
      have hc := notReturn hblank
      have hjoined := nextToken_joinLineEnds hc rest
      rw [hnext, Option.map_none] at hjoined
      rw [joinLineEnds_cons hc, tokens_of_not_blank hblank, hjoined, Option.bind_none]

theorem parse_joinLineEnds (s : List Char) :
    parse (String.ofList (joinLineEnds s)) = parse (String.ofList s) := by
  rw [parse, parseWithin, String.toList_ofList, tokens_joinLineEnds, parse, parseWithin, String.toList_ofList]

end Json

theorem Schema.readJsonText_joinLineEnds {α : Type} (read : Json → Checked α) (text : String) :
    readJsonText read (String.ofList (Text.joinLineEnds text.toList)) = readJsonText read text := by
  rw [readJsonText, Json.parse_joinLineEnds, String.ofList_toList, readJsonText]

end PullComment
