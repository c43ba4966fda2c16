/-
# FilterSql.Form -- form-encoded pairs

The format of URL query strings and HTML forms: pairs between ampersands, an equals sign between key
and value, a plus for a space, and any octet as a percent sign with two hexadecimal digits. One
question mark in front of the whole does not count.

Reading never fails. Empty pieces are skipped, a piece without an equals sign is a key with an empty
value, a percent sign without two digits behind it stands for itself, and octets that are no UTF-8
become replacement characters. The pieces are cut before anything is decoded, so an encoded
ampersand or equals sign never separates.
-/

import FilterSql.Text.Split
import FilterSql.Text.Utf8

namespace FilterSql

namespace Form

/-! ## Octets with a meaning -/

/-- The octet of `&`, between pairs. -/
def ampersand : UInt8 := 0x26

/-- The octet of `=`, between a key and its value. -/
def equals : UInt8 := 0x3D

/-- The octet of `%`, before two hexadecimal digits. -/
def percent : UInt8 := 0x25

/-- The octet of `+`, which stands for a space. -/
def plus : UInt8 := 0x2B

/-- The octet that a plus stands for. -/
def space : UInt8 := 0x20

/-- The value of a hexadecimal digit in either case. -/
def hexDigit? (octet : UInt8) : Option Nat :=
  let n := octet.toNat
  if 0x30 ≤ n ∧ n ≤ 0x39 then some (n - 0x30)
  else if 0x41 ≤ n ∧ n ≤ 0x46 then some (n - 0x37)
  else if 0x61 ≤ n ∧ n ≤ 0x66 then some (n - 0x57)
  else none

/-- The octet that two hexadecimal digits write. -/
def ofHex? (high low : UInt8) : Option UInt8 :=
  match hexDigit? high, hexDigit? low with
  | some h, some l => some (UInt8.ofNat (h * 16 + l))
  | _, _ => none

/-! ## Reading -/

/-- Undoes the escapes of one key or value. -/
def unescape : List UInt8 → List UInt8
  | [] => []
  | octet :: [] => [if octet = plus then space else octet]
  | octet :: high :: [] => (if octet = plus then space else octet) :: unescape [high]
  | octet :: high :: low :: rest =>
    if octet = percent then
      match ofHex? high low with
      | some escaped => escaped :: unescape rest
      | none => octet :: unescape (high :: low :: rest)
    else (if octet = plus then space else octet) :: unescape (high :: low :: rest)

/-- The text of one key or value. -/
def component (octets : List UInt8) : Text := Text.ofUtf8 (unescape octets)

/-- The key and the value of one piece. -/
def pair (piece : List UInt8) : Text × Text :=
  match cut? [equals] piece with
  | some (key, value) => (component key, component value)
  | none => (component piece, [])

/-- The text without one question mark in front. -/
def withoutQuestionMark : Text → Text
  | '?' :: rest => rest
  | s => s

/-- Reads a form: its pairs in the order written. -/
def pairs (s : Text) : List (Text × Text) :=
  (((withoutQuestionMark s).utf8.splitOn ampersand).filter (· ≠ [])).map pair

end Form

end FilterSql
