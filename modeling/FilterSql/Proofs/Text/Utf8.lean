/-
# FilterSql.Proofs.Text.Utf8 -- texts survive their octets

Writing a text in UTF-8 and reading the octets gives the text back, whatever its characters. The
reader takes one octet after the other, so the proof follows the octets of one character: what the
first octet announces and what each further octet adds to it. The bounds that the reader sets on a
second octet are those that the code points of characters keep, which is where it matters that
surrogates are no characters.
-/

import Mathlib.Data.List.Basic
import FilterSql.Text.Utf8

namespace FilterSql

namespace Text

/-! ## One octet -/

namespace Progress

/-- An ASCII character is one octet. -/
theorem first_ascii {n : Nat} (h : n < 0x80) :
    first (UInt8.ofNat n) = .finished (Char.ofNat n) := by
  have octet : (UInt8.ofNat n).toNat = n :=
    UInt8.toNat_ofNat_of_lt' (show n < 256 by omega)
  simp only [first, octet, if_pos h]

/-- The first of two octets. -/
theorem first_two {bits : Nat} (low : 2 ≤ bits) (high : bits < 32) :
    first (UInt8.ofNat (bits + 192)) = .ongoing ⟨0, 0x80, 0xBF, bits⟩ := by
  have octet : (UInt8.ofNat (bits + 192)).toNat = bits + 192 :=
    UInt8.toNat_ofNat_of_lt' (show bits + 192 < 256 by omega)
  simp only [first, octet, Nat.add_sub_cancel]
  rw [if_neg (by omega), if_neg (by omega), if_pos (by omega)]

/-- The first of three octets. -/
theorem first_three {bits : Nat} (high : bits < 16) :
    first (UInt8.ofNat (bits + 224)) =
      .ongoing ⟨1, if bits = 0 then 0xA0 else 0x80, if bits = 13 then 0x9F else 0xBF, bits⟩ := by
  have octet : (UInt8.ofNat (bits + 224)).toNat = bits + 224 :=
    UInt8.toNat_ofNat_of_lt' (show bits + 224 < 256 by omega)
  have least : bits + 224 = 0xE0 ↔ bits = 0 := by omega
  have surrogate : bits + 224 = 0xED ↔ bits = 13 := by omega
  simp only [first, octet, least, surrogate, Nat.add_sub_cancel]
  rw [if_neg (by omega), if_neg (by omega), if_neg (by omega), if_pos (by omega)]

/-- The first of four octets. -/
theorem first_four {bits : Nat} (high : bits < 5) :
    first (UInt8.ofNat (bits + 240)) =
      .ongoing ⟨2, if bits = 0 then 0x90 else 0x80, if bits = 4 then 0x8F else 0xBF, bits⟩ := by
  have octet : (UInt8.ofNat (bits + 240)).toNat = bits + 240 :=
    UInt8.toNat_ofNat_of_lt' (show bits + 240 < 256 by omega)
  have least : bits + 240 = 0xF0 ↔ bits = 0 := by omega
  have greatest : bits + 240 = 0xF4 ↔ bits = 4 := by omega
  simp only [first, octet, least, greatest, Nat.add_sub_cancel]
  rw [if_neg (by omega), if_neg (by omega), if_neg (by omega), if_neg (by omega),
    if_pos (by omega)]

end Progress

namespace Pending

variable {low high code bits : Nat}

/-- The last octet completes the character. -/
theorem next_last (small : bits < 64) (least : low ≤ bits + 128) (greatest : bits + 128 ≤ high) :
    next ⟨0, low, high, code⟩ (UInt8.ofNat (bits + 128)) =
      .finished (Char.ofNat (code * 64 + bits)) := by
  have octet : (UInt8.ofNat (bits + 128)).toNat = bits + 128 :=
    UInt8.toNat_ofNat_of_lt' (show bits + 128 < 256 by omega)
  simp only [next, octet, Nat.add_sub_cancel]
  rw [if_pos ⟨least, greatest⟩]

/-- Any other octet leaves the next one without bounds of its own. -/
theorem next_more {more : Nat} (small : bits < 64) (least : low ≤ bits + 128)
    (greatest : bits + 128 ≤ high) :
    next ⟨more + 1, low, high, code⟩ (UInt8.ofNat (bits + 128)) =
      .ongoing ⟨more, 0x80, 0xBF, code * 64 + bits⟩ := by
  have octet : (UInt8.ofNat (bits + 128)).toNat = bits + 128 :=
    UInt8.toNat_ofNat_of_lt' (show bits + 128 < 256 by omega)
  simp only [next, octet, Nat.add_sub_cancel]
  rw [if_pos ⟨least, greatest⟩]

end Pending

/-! ## One character -/

/-- The octets of a character are read as that character, whatever follows. -/
theorem ofUtf8From_utf8EncodeChar (c : Char) (rest : List UInt8) :
    ofUtf8From none (String.utf8EncodeChar c ++ rest) = c :: ofUtf8From none rest := by
  have valid : c.toNat < 0xD800 ∨ 0xDFFF < c.toNat ∧ c.toNat < 0x110000 := c.valid
  have whole : ∀ n, n = c.toNat → Char.ofNat n = c := by
    rintro n rfl
    exact Char.ofNat_toNat c
  unfold String.utf8EncodeChar
  rw [show c.val.toNat = c.toNat from rfl]
  generalize c.toNat = v at valid whole ⊢
  dsimp only
  split
  · next ascii =>
    rw [List.singleton_append, ofUtf8From, Progress.first_ascii (by omega), whole v rfl]
  · split
    · rw [List.cons_append, List.singleton_append, ofUtf8From, Progress.first_two (by omega)
        (by omega)]
      dsimp only
      rw [ofUtf8From, Pending.next_last (by omega) (by omega) (by omega), whole _ (by omega)]
    · split
      · have least : (if v / 4096 % 16 = 0 then 0xA0 else 0x80) ≤ v / 64 % 64 + 128 := by
          split <;> omega
        have greatest : v / 64 % 64 + 128 ≤ if v / 4096 % 16 = 13 then 0x9F else 0xBF := by
          split <;> omega
        rw [List.cons_append, List.cons_append, List.singleton_append, ofUtf8From,
          Progress.first_three (by omega)]
        dsimp only
        rw [ofUtf8From, Pending.next_more (by omega) least greatest]
        dsimp only
        rw [ofUtf8From, Pending.next_last (by omega) (by omega) (by omega), whole _ (by omega)]
      · have least : (if v / 262144 % 8 = 0 then 0x90 else 0x80) ≤ v / 4096 % 64 + 128 := by
          split <;> omega
        have greatest : v / 4096 % 64 + 128 ≤ if v / 262144 % 8 = 4 then 0x8F else 0xBF := by
          split <;> omega
        rw [List.cons_append, List.cons_append, List.cons_append, List.singleton_append,
          ofUtf8From, Progress.first_four (by omega)]
        dsimp only
        rw [ofUtf8From, Pending.next_more (by omega) least greatest]
        dsimp only
        rw [ofUtf8From, Pending.next_more (by omega) (by omega) (by omega)]
        dsimp only
        rw [ofUtf8From, Pending.next_last (by omega) (by omega) (by omega), whole _ (by omega)]

/-! ## Whole texts -/

/-- Every text is read back from its octets. -/
theorem ofUtf8_utf8 (s : Text) : ofUtf8 s.utf8 = s := by
  unfold ofUtf8
  induction s with
  | nil => rfl
  | cons c rest ih =>
    rw [utf8, List.flatMap_cons, ofUtf8From_utf8EncodeChar, ← utf8, ih]

theorem utf8_append (s t : Text) : utf8 (s ++ t) = utf8 s ++ utf8 t := List.flatMap_append

/-! ## ASCII -/

/-- Is the character ASCII? -/
def isAscii (c : Char) : Bool := c.toNat < 0x80

theorem isAscii_of_isAlphanum {c : Char} (h : c.isAlphanum = true) : isAscii c = true := by
  unfold Char.isAlphanum Char.isAlpha Char.isUpper Char.isLower at h
  simp only [Char.isDigit, Bool.or_eq_true, Bool.and_eq_true, decide_eq_true_eq,
    UInt32.le_iff_toNat_le, ge_iff_le] at h
  have high : c.toNat ≤ 90 ∨ c.toNat ≤ 122 ∨ c.toNat ≤ 57 :=
    h.elim (fun letter => letter.imp And.right fun small => .inl small.2) fun digit =>
      .inr (.inr digit.2)
  exact decide_eq_true (by omega)

/-- An ASCII character is its own octet. -/
theorem utf8EncodeChar_of_isAscii {c : Char} (h : isAscii c = true) :
    String.utf8EncodeChar c = [UInt8.ofNat c.toNat] := by
  have small : c.val.toNat ≤ 127 := Nat.le_of_lt_succ (of_decide_eq_true h)
  simp only [String.utf8EncodeChar, if_pos small]
  rfl

theorem utf8_of_ascii {s : Text} (h : ∀ c ∈ s, isAscii c = true) :
    utf8 s = s.map fun c => UInt8.ofNat c.toNat := by
  have each : ∀ c ∈ s, String.utf8EncodeChar c = [UInt8.ofNat c.toNat] := fun c hc =>
    utf8EncodeChar_of_isAscii (h c hc)
  rw [utf8, List.flatMap_congr each]
  exact List.map_eq_flatMap.symm

/-- Different ASCII characters have different octets. -/
theorem octet_inj {c d : Char} (hc : isAscii c = true) (hd : isAscii d = true)
    (same : UInt8.ofNat c.toNat = UInt8.ofNat d.toNat) : c = d := by
  have small : ∀ {e : Char}, isAscii e = true → (UInt8.ofNat e.toNat).toNat = e.toNat := by
    intro e he
    have bound : e.toNat < 0x80 := of_decide_eq_true he
    exact UInt8.toNat_ofNat_of_lt' (show e.toNat < 256 by omega)
  have codes := congrArg UInt8.toNat same
  rw [small hc, small hd] at codes
  exact Char.toNat_inj.1 codes

end Text

end FilterSql
