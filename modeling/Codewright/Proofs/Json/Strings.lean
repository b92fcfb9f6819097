import Codewright.Json.Basic
import Codewright.Json.Scan

/-!
# Strings as they are written

A written string is read as the text that it stands for. A character is written in one of three ways:
behind a backslash with a letter of its own, by its number in four hexadecimal digits, or as it is.
-/

namespace Codewright.Json

open Text (Symbol)

variable {s rest r : List Symbol} {cs : List Char}

/-! ## Escapes -/

theorem escapeChar_cases (c : Char) :
    (∃ e, escapeChar c = ['\\', e] ∧ simpleEscape? e = some c ∧ 0x20 ≤ e.toNat ∧ e ≠ 'u') ∨
      (c.toNat < 0x20 ∧ escapeChar c =
        ['\\', 'u', '0', '0', hexDigit (c.toNat / 16), hexDigit (c.toNat % 16)]) ∨
      (c ≠ '"' ∧ c ≠ '\\' ∧ 0x20 ≤ c.toNat ∧ escapeChar c = [c]) := by
  unfold escapeChar
  iterate 7
    split
    · subst c
      exact .inl ⟨_, rfl, rfl, by decide⟩
  rename_i hquote hbackslash _ _ _ _ _
  split
  · rename_i hc
    exact .inr (.inl ⟨hc, rfl⟩)
  · rename_i hc
    exact .inr (.inr ⟨hquote, hbackslash, Nat.le_of_not_lt hc, rfl⟩)

theorem hexDigit_spec :
    ∀ n < 16, hexValue? (some (hexDigit n)) = some n ∧ (hexDigit n).utf8Size = 1 := by
  decide

theorem readHex_hexDigits {n : Nat} (h : n < 0x100) (rest : List Symbol) :
    readHex (some '0' :: some '0' :: some (hexDigit (n / 16)) :: some (hexDigit (n % 16)) :: rest) =
      .ok (n, rest) := by
  obtain ⟨hhigh, hhighSize⟩ := hexDigit_spec (n / 16) (by omega)
  obtain ⟨hlow, hlowSize⟩ := hexDigit_spec (n % 16) (by omega)
  have hzero : hexValue? (some '0') = some 0 := rfl
  have hsize : '0'.utf8Size = 1 := rfl
  have hn : 0 * 0x1000 + 0 * 0x100 + n / 16 * 0x10 + n % 16 = n := by omega
  simp only [readHex, List.take_succ_cons, List.take_zero, List.foldl_cons, List.foldl_nil,
    symbolSize, hhighSize, hlowSize, hsize, hhigh, hlow, hzero, hn]
  rfl

theorem readEscape_simple {c e : Char} (h : simpleEscape? e = some c) (hu : e ≠ 'u') :
    readEscape (some e :: rest) = .ok (c, rest) := by
  unfold readEscape
  split
  · rename_i heq
    cases heq
    exact absurd rfl hu
  · rename_i heq
    cases heq
    rw [h]
  · rename_i hother
    exact absurd rfl (hother e rest)

theorem readEscape_control {c : Char} (h : c.toNat < 0x20) (rest : List Symbol) :
    readEscape (some 'u' :: some '0' :: some '0' :: some (hexDigit (c.toNat / 16)) ::
      some (hexDigit (c.toNat % 16)) :: rest) = .ok (c, rest) := by
  have hlow : ¬ 0xDC00 ≤ c.toNat := by omega
  have hhigh : ¬ 0xD800 ≤ c.toNat := by omega
  simp [readEscape, readHex_hexDigits (Nat.lt_trans h (by decide)) rest, hlow, hhigh]

/-! ## Strings -/

theorem readString_escape {c : Char} (he : readEscape s = .ok (c, rest))
    (h : readString rest = .ok (cs, r)) : readString (some '\\' :: s) = .ok (c :: cs, r) := by
  rw [readString]
  split
  · rename_i f hf
    cases he.symm.trans hf
  · rename_i c' rest' hok
    obtain ⟨rfl, rfl⟩ := Prod.mk.inj (Except.ok.inj (he.symm.trans hok))
    rw [h]

theorem readString_plain {c : Char} (hquote : c ≠ '"') (hbackslash : c ≠ '\\')
    (hc : 0x20 ≤ c.toNat) (h : readString rest = .ok (cs, r)) :
    readString (some c :: rest) = .ok (c :: cs, r) := by
  rw [readString]
  · rw [if_neg (Nat.not_lt_of_le hc), h]
  · exact fun heq => hquote heq
  · exact fun heq => hbackslash heq

theorem readString_escapeChar (c : Char) (h : readString rest = .ok (cs, r)) :
    readString ((escapeChar c).map some ++ rest) = .ok (c :: cs, r) := by
  obtain ⟨e, hwritten, he, -, hu⟩ | ⟨hc, hwritten⟩ | ⟨hquote, hbackslash, hc, hwritten⟩ :=
    escapeChar_cases c
  · rw [hwritten]
    exact readString_escape (readEscape_simple he hu) h
  · rw [hwritten]
    exact readString_escape (readEscape_control hc rest) h
  · rw [hwritten]
    exact readString_plain hquote hbackslash hc h

theorem readString_escaped (cs : List Char) (rest : List Symbol) :
    readString ((cs.flatMap escapeChar).map some ++ some '"' :: rest) = .ok (cs, rest) := by
  induction cs with
  | nil => rw [List.flatMap_nil, List.map_nil, List.nil_append, readString]
  | cons c cs ih =>
      rw [List.flatMap_cons, List.map_append, List.append_assoc]
      exact readString_escapeChar c ih

end Codewright.Json
