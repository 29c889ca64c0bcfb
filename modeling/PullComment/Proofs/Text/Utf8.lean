import Mathlib.Data.List.Basic
import PullComment.Text.Utf8

namespace PullComment.Text

theorem eq_toUInt8_iff {o : UInt8} {n : Nat} (h : n < 256) : o = n.toUInt8 ↔ o.toNat = n := by
  rw [← UInt8.toNat_inj, Nat.toUInt8_eq, UInt8.toNat_ofNat', Nat.mod_eq_of_lt h]

theorem toNat_toUInt8 {n : Nat} (h : n < 256) : n.toUInt8.toNat = n :=
  (eq_toUInt8_iff h).mp rfl

theorem exists_char {n : Nat} (h : n < 0xD800 ∨ (0xDFFF < n ∧ n < 0x110000)) : ∃ c : Char, c.toNat = n := by
  refine ⟨Char.ofNat n, ?_⟩
  rw [Char.ofNat, dif_pos h]
  rfl

theorem secondOctetBounds_iff {lead o : Nat} :
    ((secondOctetBounds lead).1 ≤ o ∧ o ≤ (secondOctetBounds lead).2) ↔
      0x80 ≤ o ∧ o ≤ 0xBF ∧ (lead = 0xE0 → 0xA0 ≤ o) ∧ (lead = 0xED → o ≤ 0x9F) ∧
        (lead = 0xF0 → 0x90 ≤ o) ∧ (lead = 0xF4 → o ≤ 0x8F) := by
  unfold secondOctetBounds
  split_ifs <;> dsimp only <;> omega

theorem continuation_zero_eq_ok_iff {value taken n : Nat} {bounds : Nat × Nat} {octets tail : List UInt8} :
    continuation 0 bounds value taken octets = .ok (n, tail) ↔ n = value ∧ octets = tail := by
  rw [continuation, Except.ok.injEq, Prod.mk.injEq, eq_comm]

theorem continuation_succ_eq_ok_iff {count value taken n : Nat} {bounds : Nat × Nat} {octets tail : List UInt8} :
    continuation (count + 1) bounds value taken octets = .ok (n, tail) ↔
      ∃ o rest, octets = o :: rest ∧ (bounds.1 ≤ o.toNat ∧ o.toNat ≤ bounds.2) ∧
        continuation count (0x80, 0xBF) (value * 64 + (o.toNat - 0x80)) (taken + 1) rest = .ok (n, tail) := by
  cases octets with
  | nil => simp [continuation]
  | cons o rest =>
      rw [continuation]
      split
      · rename_i hbounds
        constructor
        · intro hrest
          exact ⟨o, rest, rfl, hbounds, hrest⟩
        · rintro ⟨_, _, ⟨⟩, -, hrest⟩
          exact hrest
      · rename_i hbounds
        constructor
        · intro hrest
          cases hrest
        · rintro ⟨_, _, ⟨⟩, hwithin, -⟩
          exact absurd hwithin hbounds

theorem encodeChar_of_nextChar {lead : UInt8} {rest tail : List UInt8} {n : Nat}
    (h : nextChar lead rest = .ok (n, tail)) :
    ∃ c : Char, c.toNat = n ∧ lead :: rest = encodeChar c ++ tail := by
  unfold nextChar leadOctet at h
  split at h
  · cases h
  · rename_i count value hcount
    split_ifs at hcount with hone hlow htwo hthree hfour
    · cases hcount
      obtain ⟨rfl, rfl⟩ := continuation_zero_eq_ok_iff.mp h
      obtain ⟨c, hc⟩ := exists_char (n := lead.toNat) (by omega)
      have hlead : lead = lead.toNat.toUInt8 := (eq_toUInt8_iff lead.toNat_lt).mpr rfl
      refine ⟨c, hc, ?_⟩
      rw [encodeChar, hc, if_pos hone, ← hlead, List.singleton_append]
    · cases hcount
      obtain ⟨o, rest, rfl, ho, h⟩ := continuation_succ_eq_ok_iff.mp h
      obtain ⟨hn, rfl⟩ := continuation_zero_eq_ok_iff.mp h
      obtain ⟨ho, ho', -⟩ := secondOctetBounds_iff.mp ho
      obtain ⟨c, rfl⟩ := exists_char (n := n) (by omega)
      have hlead : lead = (0xC0 + c.toNat / 64).toUInt8 := (eq_toUInt8_iff (by omega)).mpr (by omega)
      have hsecond : o = (0x80 + c.toNat % 64).toUInt8 := (eq_toUInt8_iff (by omega)).mpr (by omega)
      refine ⟨c, rfl, ?_⟩
      rw [encodeChar, if_neg (by omega), if_pos (by omega), ← hlead, ← hsecond]
      rfl
    · cases hcount
      obtain ⟨o, rest, rfl, ho, h⟩ := continuation_succ_eq_ok_iff.mp h
      obtain ⟨p, rest, rfl, ⟨hp, hp'⟩, h⟩ := continuation_succ_eq_ok_iff.mp h
      obtain ⟨hn, rfl⟩ := continuation_zero_eq_ok_iff.mp h
      obtain ⟨ho, ho', hlong, hsurrogate, -⟩ := secondOctetBounds_iff.mp ho
      dsimp only at hp hp'
      obtain ⟨c, rfl⟩ := exists_char (n := n) (by omega)
      have hlead : lead = (0xE0 + c.toNat / 4096).toUInt8 := (eq_toUInt8_iff (by omega)).mpr (by omega)
      have hsecond : o = (0x80 + c.toNat / 64 % 64).toUInt8 := (eq_toUInt8_iff (by omega)).mpr (by omega)
      have hthird : p = (0x80 + c.toNat % 64).toUInt8 := (eq_toUInt8_iff (by omega)).mpr (by omega)
      refine ⟨c, rfl, ?_⟩
      rw [encodeChar, if_neg (by omega), if_neg (by omega), if_pos (by omega), ← hlead, ← hsecond, ← hthird]
      rfl
    · cases hcount
      obtain ⟨o, rest, rfl, ho, h⟩ := continuation_succ_eq_ok_iff.mp h
      obtain ⟨p, rest, rfl, ⟨hp, hp'⟩, h⟩ := continuation_succ_eq_ok_iff.mp h
      obtain ⟨q, rest, rfl, ⟨hq, hq'⟩, h⟩ := continuation_succ_eq_ok_iff.mp h
      obtain ⟨hn, rfl⟩ := continuation_zero_eq_ok_iff.mp h
      obtain ⟨ho, ho', -, -, hlong, hbeyond⟩ := secondOctetBounds_iff.mp ho
      dsimp only at hp hp' hq hq'
      obtain ⟨c, rfl⟩ := exists_char (n := n) (by omega)
      have hlead : lead = (0xF0 + c.toNat / 262144).toUInt8 := (eq_toUInt8_iff (by omega)).mpr (by omega)
      have hsecond : o = (0x80 + c.toNat / 4096 % 64).toUInt8 := (eq_toUInt8_iff (by omega)).mpr (by omega)
      have hthird : p = (0x80 + c.toNat / 64 % 64).toUInt8 := (eq_toUInt8_iff (by omega)).mpr (by omega)
      have hfourth : q = (0x80 + c.toNat % 64).toUInt8 := (eq_toUInt8_iff (by omega)).mpr (by omega)
      refine ⟨c, rfl, ?_⟩
      rw [encodeChar, if_neg (by omega), if_neg (by omega), if_neg (by omega), ← hlead, ← hsecond, ← hthird,
        ← hfourth]
      rfl

theorem toNat_lt (c : Char) : c.toNat < 0xD800 ∨ (0xDFFF < c.toNat ∧ c.toNat < 0x110000) :=
  c.valid

theorem nextChar_of_encodeChar {c : Char} {lead : UInt8} {rest tail : List UInt8}
    (h : lead :: rest = encodeChar c ++ tail) : nextChar lead rest = .ok (c.toNat, tail) := by
  have hc := toNat_lt c
  unfold encodeChar at h
  dsimp only at h
  split_ifs at h with hone htwo hthree
  · obtain ⟨rfl, rfl⟩ := List.cons.inj h
    have hlead := toNat_toUInt8 (n := c.toNat) (by omega)
    rw [nextChar, hlead, leadOctet, if_pos hone]
    exact continuation_zero_eq_ok_iff.mpr ⟨rfl, rfl⟩
  · obtain ⟨rfl, rfl⟩ := List.cons.inj h
    have hlead := toNat_toUInt8 (n := 0xC0 + c.toNat / 64) (by omega)
    have hsecond := toNat_toUInt8 (n := 0x80 + c.toNat % 64) (by omega)
    rw [nextChar, hlead, leadOctet, if_neg (by omega), if_neg (by omega), if_pos (by omega)]
    refine continuation_succ_eq_ok_iff.mpr ⟨_, _, rfl, ?_, continuation_zero_eq_ok_iff.mpr ⟨?_, rfl⟩⟩
    · rw [hsecond, secondOctetBounds_iff]
      omega
    · rw [hsecond]
      omega
  · obtain ⟨rfl, rfl⟩ := List.cons.inj h
    have hlead := toNat_toUInt8 (n := 0xE0 + c.toNat / 4096) (by omega)
    have hsecond := toNat_toUInt8 (n := 0x80 + c.toNat / 64 % 64) (by omega)
    have hthird := toNat_toUInt8 (n := 0x80 + c.toNat % 64) (by omega)
    rw [nextChar, hlead, leadOctet, if_neg (by omega), if_neg (by omega), if_neg (by omega),
      if_pos (by omega)]
    refine continuation_succ_eq_ok_iff.mpr ⟨_, _, rfl, ?_,
      continuation_succ_eq_ok_iff.mpr ⟨_, _, rfl, ?_, continuation_zero_eq_ok_iff.mpr ⟨?_, rfl⟩⟩⟩
    · rw [hsecond, secondOctetBounds_iff]
      omega
    · rw [hthird]
      dsimp only
      omega
    · rw [hsecond, hthird]
      omega
  · obtain ⟨rfl, rfl⟩ := List.cons.inj h
    have hlead := toNat_toUInt8 (n := 0xF0 + c.toNat / 262144) (by omega)
    have hsecond := toNat_toUInt8 (n := 0x80 + c.toNat / 4096 % 64) (by omega)
    have hthird := toNat_toUInt8 (n := 0x80 + c.toNat / 64 % 64) (by omega)
    have hfourth := toNat_toUInt8 (n := 0x80 + c.toNat % 64) (by omega)
    rw [nextChar, hlead, leadOctet, if_neg (by omega), if_neg (by omega), if_neg (by omega),
      if_neg (by omega), if_pos (by omega)]
    refine continuation_succ_eq_ok_iff.mpr ⟨_, _, rfl, ?_,
      continuation_succ_eq_ok_iff.mpr ⟨_, _, rfl, ?_,
        continuation_succ_eq_ok_iff.mpr ⟨_, _, rfl, ?_, continuation_zero_eq_ok_iff.mpr ⟨?_, rfl⟩⟩⟩⟩
    · rw [hsecond, secondOctetBounds_iff]
      omega
    · rw [hthird]
      dsimp only
      omega
    · rw [hfourth]
      dsimp only
      omega
    · rw [hsecond, hthird, hfourth]
      omega

theorem encodeChar_ne_nil (c : Char) : encodeChar c ≠ [] := by
  unfold encodeChar
  dsimp only
  split_ifs <;> simp

theorem decodeFrom_eq_ok_iff {position : Nat} {done cs : List Char} {octets : List UInt8} :
    decodeFrom position done octets = .ok cs ↔
      ∃ more, cs = done.reverse ++ more ∧ octets = more.flatMap encodeChar := by
  fun_induction decodeFrom position done octets with
  | case1 position done =>
      constructor
      · rintro ⟨⟩
        exact ⟨[], by simp, rfl⟩
      · rintro ⟨more, rfl, hmore⟩
        cases more with
        | nil => simp
        | cons c more => simp [encodeChar_ne_nil] at hmore
  | case2 position done lead rest n tail hnext ih =>
      obtain ⟨c, rfl, hc⟩ := encodeChar_of_nextChar hnext
      rw [ih, Char.ofNat_toNat]
      constructor
      · rintro ⟨more, rfl, rfl⟩
        exact ⟨c :: more, by simp, by rw [hc, List.flatMap_cons]⟩
      · rintro ⟨more, rfl, hmore⟩
        cases more with
        | nil => cases hmore
        | cons d more =>
            rw [List.flatMap_cons] at hmore
            -- The same octets are read as `c` and as `d`.
            have hsame := hnext.symm.trans (nextChar_of_encodeChar hmore)
            simp only [Except.ok.injEq, Prod.mk.injEq] at hsame
            obtain ⟨hd, rfl⟩ := hsame
            have hcd : c = d := by rw [← Char.ofNat_toNat c, hd, Char.ofNat_toNat]
            exact ⟨more, by simp [hcd], rfl⟩
  | case3 position done lead rest count fault hnext =>
      constructor
      · rintro ⟨⟩
      · rintro ⟨more, -, hmore⟩
        cases more with
        | nil => cases hmore
        | cons d more =>
            rw [List.flatMap_cons] at hmore
            cases hnext.symm.trans (nextChar_of_encodeChar hmore)

theorem decodeText_eq_ok_iff {octets : List UInt8} {cs : List Char} :
    decodeText octets = .ok cs ↔ octets = encodeText (String.ofList cs) := by
  rw [decodeText, decodeFrom_eq_ok_iff, encodeText, String.toList_ofList]
  simp

theorem decodeText_encodeText (s : String) : decodeText (encodeText s) = .ok s.toList := by
  rw [decodeText_eq_ok_iff, String.ofList_toList]

end PullComment.Text
