import PullComment.Json.Parser
import PullComment.Json.Printer

namespace PullComment.Json

mutual

def tokensOf : Json → List Token
  | .null => [.null]
  | .bool b => [.bool b]
  | .number n => [.number n]
  | .string s => [.string s]
  | .array [] => [.openBracket, .closeBracket]
  | .array (item :: items) => .openBracket :: tokensOf item ++ itemTokens items ++ [.closeBracket]
  | .object [] => [.openBrace, .closeBrace]
  | .object ((name, v) :: members) =>
      .openBrace :: .string name :: .colon :: tokensOf v ++ memberTokens members ++ [.closeBrace]

def itemTokens : List Json → List Token
  | [] => []
  | item :: items => .comma :: tokensOf item ++ itemTokens items

def memberTokens : List (String × Json) → List Token
  | [] => []
  | (name, v) :: members => .comma :: .string name :: .colon :: tokensOf v ++ memberTokens members

end

inductive NumberFree : Json → Prop
  | null : NumberFree .null
  | bool (b : Bool) : NumberFree (.bool b)
  | string (s : String) : NumberFree (.string s)
  | array {items : List Json} : (∀ item ∈ items, NumberFree item) → NumberFree (.array items)
  | object {members : List (String × Json)} : (∀ m ∈ members, NumberFree m.2) → NumberFree (.object members)

theorem readUnit_hexDigits {n : Nat} (h : n < 0x10000) (rest : List Char) :
    readUnit (Text.hexDigits 4 n ++ rest) = some (n, rest) := by
  have hd : Text.hexDigits 4 n ++ rest = Text.hexDigit (n / 16 / 16 / 16 % 16) ::
      Text.hexDigit (n / 16 / 16 % 16) :: Text.hexDigit (n / 16 % 16) :: Text.hexDigit (n % 16) :: rest := rfl
  have hv (m : Nat) : Text.hexValue (Text.hexDigit (m % 16)) = some (m % 16) :=
    Text.hexValue_hexDigit (Nat.mod_lt m (by decide))
  simp only [hd, readUnit, hv, Option.bind_eq_bind, Option.bind_some, Option.some.injEq, Prod.mk.injEq,
    and_true]
  omega

theorem readCodePoint_hexDigits {c : Char} (h : c.toNat < 0x20) (rest : List Char) :
    readCodePoint (Text.hexDigits 4 c.toNat ++ rest) = some (c, rest) := by
  rw [readCodePoint, readUnit_hexDigits (by omega)]
  simp only
  rw [if_neg (by omega), if_neg (by omega), Char.ofNat_toNat]

theorem readString_escape {s rest : List Char} {c : Char} (done : List Char)
    (h : readEscape s = some (c, rest)) : readString done ('\\' :: s) = readString (c :: done) rest := by
  rw [readString]
  split
  · rename_i heq
    rw [h] at heq
    cases heq
    rfl
  · rename_i heq
    rw [h] at heq
    cases heq

theorem readString_plain {c : Char} (done rest : List Char) (hquote : c ≠ '"') (hslash : c ≠ '\\')
    (hcontrol : ¬ c.toNat < 0x20) : readString done (c :: rest) = readString (c :: done) rest := by
  rw [readString]
  · rw [if_neg hcontrol]
  · exact hquote
  · exact hslash

theorem readString_escapeChar (c : Char) (done rest : List Char) :
    readString done (escapeChar c ++ rest) = readString (c :: done) rest := by
  unfold escapeChar
  iterate 7
    split
    · subst_vars
      exact readString_escape done rfl
  split
  · rename_i hcontrol
    exact readString_escape done (readCodePoint_hexDigits hcontrol rest)
  · rename_i hquote hslash _ _ _ _ _ hcontrol
    exact readString_plain done rest hquote hslash hcontrol

theorem readString_flatMap (s done rest : List Char) :
    readString done (s.flatMap escapeChar ++ '"' :: rest) = some (done.reverse ++ s, rest) := by
  induction s generalizing done with
  | nil => rw [List.flatMap_nil, List.nil_append, readString, List.append_nil]
  | cons c s ih =>
      rw [List.flatMap_cons, List.append_assoc, readString_escapeChar, ih, List.reverse_cons,
        List.append_assoc, List.singleton_append]

theorem tokens_of_blank {c : Char} (hc : isBlank c = true) (rest : List Char) :
    tokens (c :: rest) = tokens rest := by
  rw [tokens, if_pos hc]

theorem tokens_of_not_blank {c : Char} (hc : ¬ isBlank c = true) (rest : List Char) :
    tokens (c :: rest) = (nextToken c rest).bind fun p => (tokens p.2).map (p.1 :: ·) := by
  rw [tokens, if_neg hc]
  split
  · rename_i heq
    rw [heq, Option.bind_some]
  · rename_i heq
    rw [heq, Option.bind_none]

def Lexes (text : List Char) (ts : List Token) : Prop :=
  ∀ rest, tokens (text ++ rest) = (tokens rest).map (ts ++ ·)

namespace Lexes

theorem nil : Lexes [] [] := by
  intro rest
  cases h : tokens rest <;> simp [h]

theorem append {a b : List Char} {s t : List Token} (ha : Lexes a s) (hb : Lexes b t) :
    Lexes (a ++ b) (s ++ t) := by
  intro rest
  rw [List.append_assoc, ha, hb, Option.map_map]
  simp only [Function.comp_def, List.append_assoc]

theorem blank {c : Char} {text : List Char} {ts : List Token} (hc : isBlank c = true) (h : Lexes text ts) :
    Lexes (c :: text) ts := by
  intro rest
  rw [List.cons_append, tokens_of_blank hc, h]

theorem token {c : Char} {text : List Char} {t : Token} (hc : isBlank c = false)
    (h : ∀ rest, nextToken c (text ++ rest) = some (t, rest)) : Lexes (c :: text) [t] := by
  intro rest
  rw [List.cons_append, tokens_of_not_blank (by simp [hc]), h, Option.bind_some]
  rfl

theorem gap (layout : Layout) (level : Nat) : Lexes (layout.gap level) [] := by
  cases layout with
  | compact => exact nil
  | indented width =>
      have spaces : ∀ n, Lexes (List.replicate n ' ') [] := by
        intro n
        induction n with
        | zero => exact nil
        | succ n ih => exact blank rfl ih
      exact blank rfl (spaces _)

theorem colon (layout : Layout) : Lexes layout.colon [.colon] := by
  have h : Lexes [':'] [.colon] := token rfl fun _ => rfl
  cases layout with
  | compact => exact h
  | indented width => exact h.append (blank rfl nil)

theorem writeString (s : String) : Lexes (writeString s) [.string s] := by
  refine token rfl fun rest => ?_
  show (readString [] (s.toList.flatMap escapeChar ++ ['"'] ++ rest)).map _ = _
  rw [List.append_assoc, List.singleton_append, readString_flatMap]
  simp

theorem writeItems {layout : Layout} {level : Nat} {items : List Json}
    (h : ∀ item ∈ items, Lexes (write layout level item) (tokensOf item)) :
    Lexes (writeItems layout level items) (itemTokens items) := by
  induction items with
  | nil => exact nil
  | cons item items ih =>
      have hcomma : Lexes [','] [.comma] := token rfl fun _ => rfl
      have hitem := h item (by simp)
      have hitems := ih fun x hx => h x (by simp [hx])
      exact ((hcomma.append (gap layout level)).append hitem).append hitems

theorem writeMembers {layout : Layout} {level : Nat} {members : List (String × Json)}
    (h : ∀ m ∈ members, Lexes (write layout level m.2) (tokensOf m.2)) :
    Lexes (writeMembers layout level members) (memberTokens members) := by
  induction members with
  | nil => exact nil
  | cons m members ih =>
      have hcomma : Lexes [','] [.comma] := token rfl fun _ => rfl
      have hvalue := h m (by simp)
      have hmembers := ih fun x hx => h x (by simp [hx])
      exact ((((hcomma.append (gap layout level)).append (writeString m.1)).append (colon layout)).append
        hvalue).append hmembers

end Lexes

theorem lexes_write {v : Json} (h : NumberFree v) (layout : Layout) (level : Nat) :
    Lexes (write layout level v) (tokensOf v) := by
  induction h generalizing level with
  | null => exact .token rfl fun _ => rfl
  | bool b => cases b <;> exact .token rfl fun _ => rfl
  | string s => exact .writeString s
  | @array items _ ih =>
      have hopen : Lexes ['['] [.openBracket] := .token rfl fun _ => rfl
      have hclose : Lexes [']'] [.closeBracket] := .token rfl fun _ => rfl
      cases items with
      | nil => exact hopen.append hclose
      | cons item items =>
          have hitem := ih item (by simp) (level + 1)
          have hitems : Lexes (writeItems layout (level + 1) items) (itemTokens items) :=
            .writeItems fun x hx => ih x (by simp [hx]) (level + 1)
          have h := ((((hopen.append (.gap layout (level + 1))).append hitem).append hitems).append
            (.gap layout level)).append hclose
          simpa [write, tokensOf] using h
  | @object members _ ih =>
      have hopen : Lexes ['\x7b'] [.openBrace] := .token rfl fun _ => rfl
      have hclose : Lexes ['\x7d'] [.closeBrace] := .token rfl fun _ => rfl
      cases members with
      | nil => exact hopen.append hclose
      | cons m members =>
          obtain ⟨name, v⟩ := m
          have hvalue := ih (name, v) (by simp) (level + 1)
          have hmembers : Lexes (writeMembers layout (level + 1) members) (memberTokens members) :=
            .writeMembers fun x hx => ih x (by simp [hx]) (level + 1)
          have h := ((((((hopen.append (.gap layout (level + 1))).append (.writeString name)).append
            (.colon layout)).append hvalue).append hmembers).append (.gap layout level)).append hclose
          simpa [write, tokensOf] using h

theorem tokens_print {v : Json} (h : NumberFree v) (layout : Layout) :
    tokens (print layout v).toList = some (tokensOf v) := by
  have hv := lexes_write h layout 0 []
  rw [List.append_nil, tokens] at hv
  rw [print, String.toList_ofList, hv, Option.map_some, List.append_nil]

end PullComment.Json
