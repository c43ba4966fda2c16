/-
# FilterSql.Proofs.Form.Writing -- forms are read as they were written

The reader of forms is lenient, so many texts are read as the same pairs. `Form.Written` says which
texts write a list of pairs properly: every octet of a key or value is an escape in either case, a
plus for a space, or a letter, digit or sign that may stand for itself. Keys and values are any
texts at all, also empty ones and ones full of separators.

Nothing that is written for a key or value looks like a separator, so the pieces are cut where the
pairs were joined, and only then are escapes undone and octets read as characters. Hence every
proper writing of a list of pairs is read as that list (`pairs_of_written`), with a question mark in
front or without.
-/

import Mathlib.Data.List.Forall2
import FilterSql.Params
import FilterSql.Proofs.Text.Cuts
import FilterSql.Proofs.Text.Utf8

namespace FilterSql

namespace Form

/-! ## Written forms -/

/-- The character is the hexadecimal digit of the number, in either case. -/
def HexDigit (n : Nat) (c : Char) : Prop := c = Nat.digitChar n ∨ c = (Nat.digitChar n).toUpper

/-- May the character stand for itself? -/
def isPlain (c : Char) : Bool := c.isAlphanum || ['*', '-', '.', '_'].contains c

/-- One octet, written. -/
inductive WrittenOctet : UInt8 → Text → Prop where
  /-- As a percent sign and two hexadecimal digits. -/
  | escape {octet : UInt8} {high low : Char} : HexDigit (octet.toNat / 16) high →
      HexDigit (octet.toNat % 16) low → WrittenOctet octet ['%', high, low]
  /-- A space as a plus. -/
  | plus : WrittenOctet 0x20 ['+']
  /-- As the character that it is. -/
  | plain {c : Char} : isPlain c = true → WrittenOctet (UInt8.ofNat c.toNat) [c]

/-- Octets, written one after the other. -/
inductive WrittenOctets : List UInt8 → Text → Prop where
  /-- No octets. -/
  | nil : WrittenOctets [] []
  /-- One octet in front of others. -/
  | cons {octet : UInt8} {octets : List UInt8} {s rest : Text} : WrittenOctet octet s →
      WrittenOctets octets rest → WrittenOctets (octet :: octets) (s ++ rest)

/-- One pair, written. -/
inductive WrittenPair : Text × Text → Text → Prop where
  /-- An equals sign stands between the octets of key and value. -/
  | intro {key value k v : Text} : WrittenOctets key.utf8 k → WrittenOctets value.utf8 v →
      WrittenPair (key, value) (k ++ '=' :: v)

/-- The text writes the pairs: one after the other, with ampersands in between. -/
def Written (pairs : List (Text × Text)) (s : Text) : Prop :=
  ∃ pieces, List.Forall₂ WrittenPair pairs pieces ∧ s = ['&'].intercalate pieces

/-! ## What is written for a key or value -/

/-- May the character stand in what is written for a key or value? -/
def isWriting (c : Char) : Bool := isPlain c || ['%', '+'].contains c

theorem isAscii_of_isWriting {c : Char} (h : isWriting c = true) : Text.isAscii c = true := by
  simp only [isWriting, isPlain, Bool.or_eq_true, List.contains_iff_mem] at h
  rcases h with (alphanum | sign) | mark
  · exact Text.isAscii_of_isAlphanum alphanum
  · have all : ['*', '-', '.', '_'].all Text.isAscii = true := rfl
    exact List.all_eq_true.1 all c sign
  · have all : ['%', '+'].all Text.isAscii = true := rfl
    exact List.all_eq_true.1 all c mark

theorem isPlain_of_hexDigit {n : Nat} (small : n < 16) {c : Char} (h : HexDigit n c) :
    isPlain c = true := by
  have all : ∀ n < 16, isPlain (Nat.digitChar n) = true ∧
      isPlain (Nat.digitChar n).toUpper = true := by decide
  rcases h with rfl | rfl
  · exact (all n small).1
  · exact (all n small).2

theorem isWriting_of_writtenOctet {octet : UInt8} {s : Text} (h : WrittenOctet octet s) :
    ∀ c ∈ s, isWriting c = true := by
  have plain : ∀ {c}, isPlain c = true → isWriting c = true := fun h => by simp [isWriting, h]
  cases h with
  | escape high low =>
    have bound := octet.toNat_lt
    simp only [List.forall_mem_cons, List.not_mem_nil, false_implies, implies_true, and_true]
    exact ⟨by decide, plain (isPlain_of_hexDigit (by omega) high),
      plain (isPlain_of_hexDigit (by omega) low)⟩
  | plus => exact List.all_eq_true.1 rfl
  | plain own => simpa using plain own

theorem isWriting_of_writtenOctets {octets : List UInt8} {s : Text} (h : WrittenOctets octets s) :
    ∀ c ∈ s, isWriting c = true := by
  induction h with
  | nil => simp
  | cons first _ ih => exact List.forall_mem_append.2 ⟨isWriting_of_writtenOctet first, ih⟩

/-- No octet of what is written is that of another ASCII character. -/
theorem octet_not_mem {octets : List UInt8} {s : Text} (h : WrittenOctets octets s) {c : Char}
    (ascii : Text.isAscii c = true) (other : isWriting c = false) :
    UInt8.ofNat c.toNat ∉ s.utf8 := by
  have writing := isWriting_of_writtenOctets h
  rw [Text.utf8_of_ascii fun d hd => isAscii_of_isWriting (writing d hd)]
  intro mem
  obtain ⟨d, hd, same⟩ := List.mem_map.1 mem
  have equal := Text.octet_inj (isAscii_of_isWriting (writing d hd)) ascii same
  rw [← equal, writing d hd] at other
  cases other

/-! ## Undoing escapes -/

theorem hexDigit?_of_hexDigit {n : Nat} (small : n < 16) {c : Char} (h : HexDigit n c) :
    hexDigit? (UInt8.ofNat c.toNat) = some n := by
  have all : ∀ n < 16, hexDigit? (UInt8.ofNat (Nat.digitChar n).toNat) = some n ∧
      hexDigit? (UInt8.ofNat (Nat.digitChar n).toUpper.toNat) = some n := by decide
  rcases h with rfl | rfl
  · exact (all n small).1
  · exact (all n small).2

/-- Two digits write the octet that they were taken from. -/
theorem ofHex?_of_hexDigit {octet : UInt8} {high low : Char} (hh : HexDigit (octet.toNat / 16) high)
    (hl : HexDigit (octet.toNat % 16) low) :
    ofHex? (UInt8.ofNat high.toNat) (UInt8.ofNat low.toNat) = some octet := by
  have bound := octet.toNat_lt
  have whole : octet.toNat / 16 * 16 + octet.toNat % 16 = octet.toNat := Nat.div_add_mod' _ _
  simp only [ofHex?, hexDigit?_of_hexDigit (by omega) hh, hexDigit?_of_hexDigit (by omega) hl,
    whole, UInt8.ofNat_toNat]

theorem unescape_cons_of_ne {octet : UInt8} (h : octet ≠ percent) (rest : List UInt8) :
    unescape (octet :: rest) = (if octet = plus then space else octet) :: unescape rest := by
  match rest with
  | [] => rfl
  | [_] => rfl
  | _ :: _ :: _ => rw [unescape, if_neg h]

theorem unescape_percent {high low escaped : UInt8} (h : ofHex? high low = some escaped)
    (rest : List UInt8) :
    unescape (percent :: high :: low :: rest) = escaped :: unescape rest := by
  rw [unescape, if_pos rfl, h]

/-- What is written for an octet is read as that octet, whatever follows. -/
theorem unescape_of_writtenOctet {octet : UInt8} {s : Text} (h : WrittenOctet octet s)
    (rest : List UInt8) : unescape (s.utf8 ++ rest) = octet :: unescape rest := by
  have ascii : ∀ c ∈ s, Text.isAscii c = true := fun c hc =>
    isAscii_of_isWriting (isWriting_of_writtenOctet h c hc)
  rw [Text.utf8_of_ascii ascii]
  cases h with
  | escape high low => exact unescape_percent (ofHex?_of_hexDigit high low) rest
  | plus => exact unescape_cons_of_ne (by decide) rest
  | @plain c own =>
    -- Neither the percent sign nor the plus may stand for itself.
    have different : ∀ d, isPlain d = false → Text.isAscii d = true →
        UInt8.ofNat c.toNat ≠ UInt8.ofNat d.toNat := by
      intro d escaped hd same
      rw [Text.octet_inj (ascii c (by simp)) hd same, escaped] at own
      cases own
    have notPercent : UInt8.ofNat c.toNat ≠ percent := different '%' (by decide) (by decide)
    have notPlus : UInt8.ofNat c.toNat ≠ plus := different '+' (by decide) (by decide)
    rw [List.map_singleton, List.singleton_append, unescape_cons_of_ne notPercent, if_neg notPlus]

theorem unescape_of_writtenOctets {octets : List UInt8} {s : Text} (h : WrittenOctets octets s) :
    unescape s.utf8 = octets := by
  induction h with
  | nil => rfl
  | cons first _ ih => rw [Text.utf8_append, unescape_of_writtenOctet first, ih]

/-- A key or value is read as it was written. -/
theorem component_of_written {t s : Text} (h : WrittenOctets t.utf8 s) : component s.utf8 = t := by
  rw [component, unescape_of_writtenOctets h, Text.ofUtf8_utf8]

/-! ## Pairs -/

/-- A pair is cut at its equals sign, which no key contains as it is written. -/
theorem pair_of_written {p : Text × Text} {piece : Text} (h : WrittenPair p piece) :
    pair piece.utf8 = p := by
  cases h with
  | @intro key value k v hk hv =>
    have octets : Text.utf8 (k ++ '=' :: v) = k.utf8 ++ equals :: v.utf8 := Text.utf8_append k _
    have key : equals ∉ k.utf8 := octet_not_mem (c := '=') hk (by decide) (by decide)
    rw [octets, pair, cut?_append _ key]
    simp only [component_of_written hk, component_of_written hv]

/-- Something is written for every pair, and no ampersand is part of it. -/
theorem separable_of_written {p : Text × Text} {piece : Text} (h : WrittenPair p piece) :
    ampersand ∉ piece.utf8 ∧ piece.utf8 ≠ [] := by
  cases h with
  | @intro key value k v hk hv =>
    have octets : Text.utf8 (k ++ '=' :: v) = k.utf8 ++ equals :: v.utf8 := Text.utf8_append k _
    rw [octets, List.mem_append, List.mem_cons, not_or, not_or]
    exact ⟨⟨octet_not_mem (c := '&') hk (by decide) (by decide), by decide,
      octet_not_mem (c := '&') hv (by decide) (by decide)⟩, by simp⟩

/-- What is written for a pair does not start with a question mark. -/
theorem exists_cons_of_written {p : Text × Text} {piece : Text} (h : WrittenPair p piece) :
    ∃ c rest, piece = c :: rest ∧ c ≠ '?' := by
  cases h with
  | @intro key value k v hk hv =>
    cases k with
    | nil => exact ⟨'=', v, rfl, by decide⟩
    | cons c rest =>
      refine ⟨c, rest ++ '=' :: v, rfl, ?_⟩
      rintro rfl
      have writing := isWriting_of_writtenOctets hk '?' (by simp)
      exact absurd writing (by decide)

/-! ## Forms -/

theorem utf8_intercalate (pieces : List Text) :
    Text.utf8 (['&'].intercalate pieces) = [ampersand].intercalate (pieces.map Text.utf8) := by
  induction pieces with
  | nil => rfl
  | cons piece rest ih =>
    by_cases last : rest = []
    · simp [last]
    · rw [List.intercalate_cons_of_ne_nil last, List.map_cons,
        List.intercalate_cons_of_ne_nil (by simpa using last), Text.utf8_append, Text.utf8_append,
        ih]
      rfl

/-- The pieces of a form that was written are its pairs. -/
theorem map_pair_of_written {pairs : List (Text × Text)} {pieces : List Text}
    (h : List.Forall₂ WrittenPair pairs pieces) : (pieces.map Text.utf8).map pair = pairs := by
  induction h with
  | nil => rfl
  | cons first _ ih => rw [List.map_cons, List.map_cons, pair_of_written first, ih]

/-- The pieces are cut where they were joined, and none of them is empty. -/
theorem splitOn_of_written {ps : List (Text × Text)} {pieces : List Text}
    (h : List.Forall₂ WrittenPair ps pieces) :
    ((Text.utf8 (['&'].intercalate pieces)).splitOn ampersand).filter (· ≠ []) =
      pieces.map Text.utf8 := by
  have each : ∀ octets ∈ pieces.map Text.utf8, ampersand ∉ octets ∧ octets ≠ [] := by
    induction h with
    | nil => simp
    | cons first _ ih => exact List.forall_mem_cons.2 ⟨separable_of_written first, ih⟩
  cases pieces with
  | nil => rfl
  | cons piece rest =>
    rw [utf8_intercalate, List.splitOn_intercalate ampersand (fun o ho => (each o ho).1) (by simp),
      List.filter_eq_self]
    exact fun octets mem => decide_eq_true (each octets mem).2

/-- A proper form does not start with a question mark. -/
theorem withoutQuestionMark_of_written {ps : List (Text × Text)} {pieces : List Text}
    (h : List.Forall₂ WrittenPair ps pieces) :
    withoutQuestionMark (['&'].intercalate pieces) = ['&'].intercalate pieces := by
  cases h with
  | nil => rfl
  | @cons p piece _ rest first _ =>
    obtain ⟨c, others, rfl, other⟩ := exists_cons_of_written first
    rw [List.intercalate_cons_cons_left, withoutQuestionMark]
    rintro _ ⟨⟩
    exact other rfl

/-- However the pairs are written, they are read, a question mark in front or not. -/
theorem pairs_of_written {ps : List (Text × Text)} {s : Text} (h : Written ps s) :
    pairs s = ps ∧ pairs ('?' :: s) = ps := by
  obtain ⟨pieces, written, rfl⟩ := h
  have read : (((Text.utf8 (['&'].intercalate pieces)).splitOn ampersand).filter (· ≠ [])).map
      pair = ps := by
    rw [splitOn_of_written written, map_pair_of_written written]
  exact ⟨by rw [pairs, withoutQuestionMark_of_written written, read], read⟩

/-! ## Every list of pairs can be written -/

theorem exists_writtenOctets (octets : List UInt8) : ∃ s, WrittenOctets octets s := by
  induction octets with
  | nil => exact ⟨[], .nil⟩
  | cons octet rest ih =>
    obtain ⟨s, written⟩ := ih
    exact ⟨_, .cons (.escape (.inl rfl) (.inl rfl)) written⟩

theorem exists_written (ps : List (Text × Text)) : ∃ s, Written ps s := by
  have pieces : ∃ pieces, List.Forall₂ WrittenPair ps pieces := by
    induction ps with
    | nil => exact ⟨[], .nil⟩
    | cons p rest ih =>
      obtain ⟨pieces, written⟩ := ih
      obtain ⟨k, hk⟩ := exists_writtenOctets p.1.utf8
      obtain ⟨v, hv⟩ := exists_writtenOctets p.2.utf8
      exact ⟨_ :: pieces, .cons (.intro hk hv) written⟩
  obtain ⟨pieces, written⟩ := pieces
  exact ⟨_, pieces, written, rfl⟩

end Form

/-- Every list of pairs can be written as a form, and however it is written, with a question mark in
front or without, the parameters that are read are those pairs, collected in order. -/
theorem Params.ofQueryString_of_written (ps : List (Text × Text)) :
    (∃ s, Form.Written ps s) ∧ ∀ s, Form.Written ps s →
      ofQueryString s = ofPairs ps ∧ ofQueryString ('?' :: s) = ofPairs ps := by
  refine ⟨Form.exists_written ps, fun s written => ?_⟩
  obtain ⟨bare, marked⟩ := Form.pairs_of_written written
  exact ⟨by rw [ofQueryString, bare], by rw [ofQueryString, marked]⟩

/-- Separators and escapes in a key that is given twice, a pair that is empty on both sides, and a
letter beyond ASCII, with digits in both cases. The two values of the one key are read into one
entry, in order. -/
theorem Params.ofQueryString_of_written_signs :
    let ps : List (Text × Text) := [("?&", "= +"), ("", ""), ("ä", "a."), ("?&", "\x00")]
    let s : Text := "%3F%26=%3d+%2B&=&%c3%A4=%61.&%3f%26=%00"
    let entries : List (Text × List Text) := [("?&", ["= +", "\x00"]), ("", [""]), ("ä", ["a."])]
    Form.Written ps s ∧ ofQueryString s = ofPairs ps ∧ ofQueryString ('?' :: s) = ofPairs ps ∧
      (ofQueryString s).entries = entries ∧ (ofQueryString ('?' :: s)).entries = entries := by
  intro ps s entries
  have key : Form.WrittenOctets (Text.utf8 "?&") "%3F%26" :=
    .cons (@Form.WrittenOctet.escape 0x3F '3' 'F' (.inl rfl) (.inr rfl))
      (.cons (@Form.WrittenOctet.escape 0x26 '2' '6' (.inl rfl) (.inl rfl)) .nil)
  have signs : Form.WrittenOctets (Text.utf8 "= +") "%3d+%2B" :=
    .cons (@Form.WrittenOctet.escape 0x3D '3' 'd' (.inl rfl) (.inl rfl))
      (.cons .plus (.cons (@Form.WrittenOctet.escape 0x2B '2' 'B' (.inl rfl) (.inr rfl)) .nil))
  have letter : Form.WrittenOctets (Text.utf8 "ä") "%c3%A4" :=
    .cons (@Form.WrittenOctet.escape 0xC3 'c' '3' (.inl rfl) (.inl rfl))
      (.cons (@Form.WrittenOctet.escape 0xA4 'A' '4' (.inr rfl) (.inl rfl)) .nil)
  have plain : Form.WrittenOctets (Text.utf8 "a.") "%61." :=
    .cons (@Form.WrittenOctet.escape 0x61 '6' '1' (.inl rfl) (.inl rfl))
      (.cons (@Form.WrittenOctet.plain '.' rfl) .nil)
  have again : Form.WrittenOctets (Text.utf8 "?&") "%3f%26" :=
    .cons (@Form.WrittenOctet.escape 0x3F '3' 'f' (.inl rfl) (.inl rfl))
      (.cons (@Form.WrittenOctet.escape 0x26 '2' '6' (.inl rfl) (.inl rfl)) .nil)
  have null : Form.WrittenOctets (Text.utf8 "\x00") "%00" :=
    .cons (@Form.WrittenOctet.escape 0x00 '0' '0' (.inl rfl) (.inl rfl)) .nil
  have written : Form.Written ps s :=
    ⟨[_, _, _, _], .cons (.intro key signs) (.cons (.intro .nil .nil) (.cons (.intro letter plain)
      (.cons (.intro again null) .nil))), by decide⟩
  obtain ⟨bare, marked⟩ := (ofQueryString_of_written ps).2 s written
  have collected : (ofPairs ps).entries = entries := by decide
  exact ⟨written, bare, marked, by rw [bare, collected], by rw [marked, collected]⟩

end FilterSql
