/-
# FilterSql.Text.Utf8 -- texts as UTF-8 octets

Writing is the core library's encoding, character by character. Reading never fails: octets that are
no UTF-8 are read as the replacement character U+FFFD, one for every maximal ill-formed part, that
is, for every longest run that could have begun a character and did not finish it, and for every
octet that cannot begin one.

The reader goes through the octets once. Between two characters nothing is pending; inside one it
remembers how many octets are still owed, the code point so far, and the bounds on the next octet.
The bounds rule out overlong forms, surrogates and code points past U+10FFFF at the second octet.
-/

import FilterSql.Text.Basic

namespace FilterSql

namespace Text

/-- The UTF-8 octets of a text. -/
def utf8 (s : Text) : List UInt8 := s.flatMap String.utf8EncodeChar

/-- The character read for octets that are no UTF-8. -/
def replacement : Char := '\uFFFD'

/-- A character whose octets have been read in part. -/
structure Pending where
  /-- How many octets follow the next one. -/
  more : Nat
  /-- The least next octet. -/
  low : Nat
  /-- The greatest next octet. -/
  high : Nat
  /-- The bits of the code point read so far. -/
  code : Nat
deriving DecidableEq

/-- What one octet does to the character it belongs to. -/
inductive Progress where
  /-- The character is complete. -/
  | finished (c : Char)
  /-- The character goes on. -/
  | ongoing (p : Pending)
  /-- No character has this octet here. -/
  | broken
deriving DecidableEq

/-- The first octet of a character. -/
def Progress.first (octet : UInt8) : Progress :=
  let n := octet.toNat
  if n < 0x80 then .finished (Char.ofNat n)
  else if n < 0xC2 then .broken
  else if n < 0xE0 then .ongoing ⟨0, 0x80, 0xBF, n - 0xC0⟩
  else if n < 0xF0 then
    .ongoing ⟨1, if n = 0xE0 then 0xA0 else 0x80, if n = 0xED then 0x9F else 0xBF, n - 0xE0⟩
  else if n < 0xF5 then
    .ongoing ⟨2, if n = 0xF0 then 0x90 else 0x80, if n = 0xF4 then 0x8F else 0xBF, n - 0xF0⟩
  else .broken

/-- The next octet of a character that has begun. -/
def Pending.next (p : Pending) (octet : UInt8) : Progress :=
  let n := octet.toNat
  if p.low ≤ n ∧ n ≤ p.high then
    let code := p.code * 64 + (n - 0x80)
    match p.more with
    | 0 => .finished (Char.ofNat code)
    | more + 1 => .ongoing ⟨more, 0x80, 0xBF, code⟩
  else .broken

/-- Reads on, with a character pending or none. An octet that breaks a pending character is read
again as the first octet of another. -/
def ofUtf8From : Option Pending → List UInt8 → Text
  | none, [] => []
  | some _, [] => [replacement]
  | none, octet :: rest =>
    match Progress.first octet with
    | .finished c => c :: ofUtf8From none rest
    | .ongoing p => ofUtf8From (some p) rest
    | .broken => replacement :: ofUtf8From none rest
  | some pending, octet :: rest =>
    match pending.next octet with
    | .finished c => c :: ofUtf8From none rest
    | .ongoing p => ofUtf8From (some p) rest
    | .broken =>
      match Progress.first octet with
      | .finished c => replacement :: c :: ofUtf8From none rest
      | .ongoing p => replacement :: ofUtf8From (some p) rest
      | .broken => replacement :: replacement :: ofUtf8From none rest

/-- The text that octets spell in UTF-8, ill-formed parts replaced. -/
def ofUtf8 (octets : List UInt8) : Text := ofUtf8From none octets

end Text

end FilterSql
