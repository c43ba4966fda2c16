/-
# FilterSql.Proofs.Compiled.JsonReader -- compiled queries are read back from JSON

A reader of JSON texts. It takes blanks between any two tokens, every escape of strings, pairs of
escapes for characters beyond the basic plane, numbers, and lists and objects to any depth, and it
refuses whatever is left over behind a value. It knows nothing of the code that writes JSON.

`read?_toJson` says that it reads a compiled query as an object of two members, the text and the
list of the values, each of them unaltered.
-/

import FilterSql.Compiled.Json
import FilterSql.Proofs.Checks.Patterns
import FilterSql.Proofs.Text.Unquoting

namespace FilterSql

namespace Json

/-- A JSON value. A number is kept as it is written. -/
inductive Value where
  /-- Nothing. -/
  | null
  /-- A truth value. -/
  | boolean (b : Bool)
  /-- A number. -/
  | number (literal : Text)
  /-- A string. -/
  | string (s : Text)
  /-- A list of values. -/
  | array (items : List Value)
  /-- Named values in order. -/
  | object (members : List (Text × Value))

/-! ## Strings -/

/-- The escapes of one character. -/
def shortEscapes : List (Char × Char) :=
  [('"', '"'), ('\\', '\\'), ('/', '/'), ('b', '\x08'), ('f', '\x0c'), ('n', '\n'), ('r', '\r'),
    ('t', '\t')]

/-- A unit of sixteen bits in four hexadecimal digits. -/
def unit? : Text.Reader Nat
  | a :: b :: c :: d :: rest => (Text.hex? [a, b, c, d]).map (·, rest)
  | _ => none

/-- The second unit of a pair, counted from the first one that may stand there. -/
def secondUnit? : Text.Reader Nat
  | '\\' :: 'u' :: rest => (unit? rest).bind fun unit =>
    if 0xDC00 ≤ unit.1 ∧ unit.1 < 0xE000 then some (unit.1 - 0xDC00, unit.2) else none
  | _ => none

/-- One character of a string. A unit that is half of a pair is nothing without the other half, and
controls have to be escaped. -/
def char? : Text.Reader Char
  | '\\' :: 'u' :: rest => (unit? rest).bind fun unit =>
    if unit.1 < 0xD800 ∨ 0xE000 ≤ unit.1 then some (Char.ofNat unit.1, unit.2)
    else if unit.1 < 0xDC00 then
      (secondUnit? unit.2).map fun second =>
        (Char.ofNat (0x10000 + 0x400 * (unit.1 - 0xD800) + second.1), second.2)
    else none
  | '\\' :: c :: rest => (shortEscapes.lookup c).map (·, rest)
  | ['\\'] => none
  | c :: rest => if c.toNat < 0x20 then none else some (c, rest)
  | [] => none

/-- A string. -/
def string? : Text.Reader Text := Text.between char?

/-! ## Numbers -/

/-- Decimal digits, at least one. -/
def digits : Pattern := .oneOf Pattern.digits * (Pattern.oneOf Pattern.digits).star

/-- A number: an integer without needless zeros, a fraction and an exponent. -/
def number : Pattern :=
  .optional (.char '-') *
    (.char '0' + .oneOf (Grammar.range '1' '9') * (Pattern.oneOf Pattern.digits).star) *
    .optional (.char '.' * digits) *
    .optional (.oneOf ['e', 'E'] * .optional (.oneOf ['+', '-']) * digits)

/-- May the character stand in a number or in one of the three words? -/
def isWordChar (c : Char) : Bool := c.isAlphanum || ['+', '-', '.'].contains c

/-- A value without marks around it. -/
def word? : Text.Reader Value := fun s =>
  let word := s.takeWhile isWordChar
  let rest := s.dropWhile isWordChar
  if word = "null" then some (.null, rest)
  else if word = "true" then some (.boolean true, rest)
  else if word = "false" then some (.boolean false, rest)
  else if number.rmatch word then some (.number word, rest)
  else none

/-! ## Values -/

/-- Is the character one of the blanks of JSON? -/
def isSpace (c : Char) : Bool := [' ', '\t', '\n', '\r'].contains c

/-- The text behind the blanks that it starts with. -/
def skip (s : Text) : Text := s.dropWhile isSpace

section Lists

variable {α : Type}

/-- One or more items up to a closing mark. The fuel is a bound on their number. -/
def items? (closing : Char) (item : Text.Reader α) : Nat → Text.Reader (List α)
  | 0, _ => none
  | fuel + 1, s =>
    (item s).bind fun first =>
      match skip first.2 with
      | ',' :: rest =>
        (items? closing item fuel rest).map fun others => (first.1 :: others.1, others.2)
      | c :: rest => if c = closing then some ([first.1], rest) else none
      | [] => none

/-- Items up to a closing mark, if there are any. -/
def enclosed? (closing : Char) (item : Text.Reader α) : Text.Reader (List α) := fun s =>
  match skip s with
  | c :: rest => if c = closing then some ([], rest) else items? closing item s.length s
  | [] => none

end Lists

/-- A name and its value. -/
def member? (value : Text.Reader Value) : Text.Reader (Text × Value) := fun s =>
  (string? (skip s)).bind fun name =>
    match skip name.2 with
    | ':' :: rest => (value rest).map fun read => ((name.1, read.1), read.2)
    | _ => none

/-- A value. The fuel is a bound on the depth. -/
def value? : Nat → Text.Reader Value
  | 0 => fun _ => none
  | fuel + 1 => fun s =>
    match skip s with
    | '"' :: rest => (string? ('"' :: rest)).map fun read => (.string read.1, read.2)
    | '[' :: rest => (enclosed? ']' (value? fuel) rest).map fun read => (.array read.1, read.2)
    | '\x7b' :: rest =>
      (enclosed? '\x7d' (member? (value? fuel)) rest).map fun read => (.object read.1, read.2)
    | rest => word? rest

/-- The value that the whole text stands for. -/
def read? (s : Text) : Option Value :=
  (value? (s.length + 1) s).bind fun read => if skip read.2 = [] then some read.1 else none

/-! ## Reading strings back -/

/-- A character is written with a short escape, by number, or as it stands. -/
theorem escaped_cases (c : Char) :
    (∃ mark, (mark, c) ∈ shortEscapes ∧ escaped c = ['\\', mark]) ∨
      (c.toNat < 0x20 ∧ escaped c = numbered c) ∨
        ((c ≠ '"' ∧ c ≠ '\\') ∧ 0x20 ≤ c.toNat ∧ escaped c = [c]) := by
  by_cases mark : c = '"'
  · exact .inl ⟨'"', by rw [mark]; decide, by rw [mark]; rfl⟩
  by_cases backslash : c = '\\'
  · exact .inl ⟨'\\', by rw [backslash]; decide, by rw [backslash]; rfl⟩
  by_cases backspace : c = '\x08'
  · exact .inl ⟨'b', by rw [backspace]; decide, by rw [backspace]; rfl⟩
  by_cases tab : c = '\t'
  · exact .inl ⟨'t', by rw [tab]; decide, by rw [tab]; rfl⟩
  by_cases newline : c = '\n'
  · exact .inl ⟨'n', by rw [newline]; decide, by rw [newline]; rfl⟩
  by_cases feed : c = '\x0c'
  · exact .inl ⟨'f', by rw [feed]; decide, by rw [feed]; rfl⟩
  by_cases returns : c = '\r'
  · exact .inl ⟨'r', by rw [returns]; decide, by rw [returns]; rfl⟩
  rw [escaped, if_neg mark, if_neg backslash, if_neg backspace, if_neg tab, if_neg newline,
    if_neg feed, if_neg returns]
  by_cases control : c.toNat < 0x20
  · exact .inr (.inl ⟨control, if_pos control⟩)
  · exact .inr (.inr ⟨⟨mark, backslash⟩, Nat.le_of_not_lt control, if_neg control⟩)

theorem char?_escape {mark c : Char} (h : (mark, c) ∈ shortEscapes) (rest : Text) :
    char? ('\\' :: mark :: rest) = some (c, rest) := by
  have all : ∀ e ∈ shortEscapes, e.1 ≠ 'u' ∧ shortEscapes.lookup e.1 = some e.2 := by decide
  obtain ⟨other, found⟩ := all _ h
  rw [char?, found]
  · rfl
  · exact other

theorem char?_numbered {c : Char} (h : c.toNat < 0x20) (rest : Text) :
    char? (numbered c ++ rest) = some (c, rest) := by
  have high := Text.hexDigit?_digitChar (d := c.toNat / 16) (by omega)
  have low := Text.hexDigit?_digitChar (d := c.toNat % 16) (by omega)
  have zero : Text.hexDigit? '0' = some 0 := rfl
  have unit : Text.hex? ['0', '0', (c.toNat / 16).digitChar, (c.toNat % 16).digitChar] =
      some c.toNat := by
    simp [Text.hex?, zero, high, low, Nat.div_add_mod]
  have start : numbered c ++ rest =
      '\\' :: 'u' :: '0' :: '0' :: (c.toNat / 16).digitChar :: (c.toNat % 16).digitChar :: rest :=
    rfl
  rw [start, char?, unit?, unit, Option.map_some, Option.bind_some, if_pos (.inl (by omega)),
    Char.ofNat_toNat]

theorem char?_of_ne {c : Char} (other : c ≠ '\\') (printed : 0x20 ≤ c.toNat) (rest : Text) :
    char? (c :: rest) = some (c, rest) := by
  unfold char?
  split <;> simp_all

theorem invertible_escaped : Text.Invertible char? escaped where
  read c rest := by
    rcases escaped_cases c with ⟨mark, escape, whole⟩ | ⟨control, whole⟩ |
      ⟨⟨-, other⟩, printed, whole⟩
    · exact whole ▸ char?_escape escape rest
    · exact whole ▸ char?_numbered control rest
    · exact whole ▸ char?_of_ne other printed rest
  goesOn c := by
    rcases escaped_cases c with ⟨mark, -, whole⟩ | ⟨-, whole⟩ | ⟨⟨other, -⟩, -, whole⟩
    · exact ⟨'\\', [mark], whole, by decide⟩
    · exact ⟨'\\', _, whole, by decide⟩
    · exact ⟨c, [], whole, other⟩

theorem string?_string_append (s rest : Text) :
    string? (string s ++ rest) = some (s, rest) := by
  have whole : string s ++ rest = '"' :: (s.flatMap escaped ++ '"' :: rest) := by
    simp [string]
  rw [whole]
  exact Text.between_flatMap invertible_escaped s rest

/-! ## Reading lists back -/

/-- For a fixed text the hypothesis is a computation. -/
theorem skip_append {gap : Text} (h : gap.all isSpace = true) (s : Text) :
    skip (gap ++ s) = skip s :=
  List.dropWhile_append_of_pos (List.all_eq_true.1 h)

theorem skip_cons {c : Char} (h : isSpace c = false) (s : Text) : skip (c :: s) = c :: s :=
  List.dropWhile_cons_of_neg (by simp [h])

section Lists

variable {α β : Type} {closing : Char} {item : Text.Reader α} {write : β → Text} {view : β → α}
  {pad gap : Text}

/-- An item in front of the closing mark is the last one. -/
theorem items?_last {a : α} {s later rest : Text} (fuel : Nat) (mark : closing ≠ ',')
    (read : item s = some (a, later)) (stop : skip later = closing :: rest) :
    items? closing item (fuel + 1) s = some ([a], rest) := by
  rw [items?, read, Option.bind_some, stop]
  split
  · next same => exact absurd (List.cons.inj same).1 mark
  · next same =>
    obtain ⟨rfl, rfl⟩ := List.cons.inj same
    exact if_pos rfl
  · next same => cases same

/-- Behind an item and a comma stand the others. -/
theorem items?_cons {a : α} {others : List α} {s later rest rest' : Text} {fuel : Nat}
    (read : item s = some (a, later)) (comma : skip later = ',' :: rest)
    (more : items? closing item fuel rest = some (others, rest')) :
    items? closing item (fuel + 1) s = some (a :: others, rest') := by
  rw [items?, read, Option.bind_some]
  simp only [comma, more, Option.map_some]

/-- Items with commas between them are read back one after the other. -/
theorem items?_intercalate {items : List β} {fuel : Nat} (rest : Text) (ne : items ≠ [])
    (enough : items.length ≤ fuel) (blank : gap.all isSpace = true)
    (mark : closing ≠ ',' ∧ isSpace closing = false)
    (h : ∀ i ∈ items, ∀ later, item (pad ++ (write i ++ later)) = some (view i, later)) :
    items? closing item fuel
        (pad ++ ((',' :: pad).intercalate (items.map write) ++ (gap ++ closing :: rest))) =
      some (items.map view, rest) := by
  induction items generalizing fuel with
  | nil => exact absurd rfl ne
  | cons i others ih =>
    rw [List.length_cons] at enough
    obtain ⟨fuel, rfl⟩ : ∃ n, fuel = n + 1 := ⟨fuel - 1, by omega⟩
    obtain ⟨first, later⟩ := List.forall_mem_cons.1 h
    by_cases last : others = []
    · rw [last, List.map_singleton, List.map_singleton, List.intercalate_singleton]
      refine items?_last fuel mark.1 (first _) ?_
      rw [skip_append blank, skip_cons mark.2]
    · rw [List.map_cons, List.map_cons,
        List.intercalate_cons_of_ne_nil (by simpa using last), List.append_assoc,
        List.append_assoc]
      exact items?_cons (first _) (skip_cons (by decide) _) (ih last (by omega) later)

/-- A list with something in it is read back. Every item starts with a quotation mark, so the list
is not taken for an empty one. -/
theorem enclosed?_intercalate {items : List β} (rest : Text) (ne : items ≠ [])
    (blanks : pad.all isSpace = true ∧ gap.all isSpace = true)
    (mark : closing ≠ ',' ∧ isSpace closing = false ∧ closing ≠ '"')
    (starts : ∀ i ∈ items, (write i).head? = some '"')
    (h : ∀ i ∈ items, ∀ later, item (pad ++ (write i ++ later)) = some (view i, later)) :
    enclosed? closing item
        (pad ++ ((',' :: pad).intercalate (items.map write) ++ (gap ++ closing :: rest))) =
      some (items.map view, rest) := by
  obtain ⟨s, start⟩ : ∃ s, (',' :: pad).intercalate (items.map write) = '"' :: s := by
    obtain ⟨i, others, rfl⟩ := List.exists_cons_of_ne_nil ne
    obtain ⟨s, whole⟩ := List.head?_eq_some_iff.1 (starts i (by simp))
    cases others with
    | nil => exact ⟨s, by simp [whole]⟩
    | cons j others =>
      rw [List.map_cons, List.map_cons, List.intercalate_cons_cons, whole]
      exact ⟨_, rfl⟩
  have first : skip (pad ++ ((',' :: pad).intercalate (items.map write) ++
      (gap ++ closing :: rest))) = '"' :: (s ++ (gap ++ closing :: rest)) := by
    rw [skip_append blanks.1, start, List.cons_append, skip_cons (by decide)]
  rw [enclosed?, first]
  dsimp only
  rw [if_neg (Ne.symm mark.2.2)]
  refine items?_intercalate rest ne ?_ blanks.2 ⟨mark.1, mark.2.1⟩ h
  have shorter := length_le_length_intercalate (List.cons_ne_nil ',' pad) (items.map write)
  rw [List.length_map] at shorter
  simp only [List.length_append, List.length_cons]
  omega

end Lists

/-! ## Reading compiled queries back -/

theorem value?_of_quote (fuel : Nat) {s rest : Text} (h : skip s = '"' :: rest) :
    value? (fuel + 1) s = (string? ('"' :: rest)).map fun read => (.string read.1, read.2) := by
  simp only [value?, h]

theorem value?_of_bracket (fuel : Nat) {s rest : Text} (h : skip s = '[' :: rest) :
    value? (fuel + 1) s =
      (enclosed? ']' (value? fuel) rest).map fun read => (.array read.1, read.2) := by
  simp only [value?, h]

theorem value?_of_brace (fuel : Nat) {s rest : Text} (h : skip s = '\x7b' :: rest) :
    value? (fuel + 1) s =
      (enclosed? '\x7d' (member? (value? fuel)) rest).map fun read => (.object read.1, read.2) := by
  simp only [value?, h]

theorem value?_string_append (fuel : Nat) {gap : Text} (blank : gap.all isSpace = true)
    (s rest : Text) :
    value? (fuel + 1) (gap ++ (string s ++ rest)) = some (.string s, rest) := by
  have start : skip (gap ++ (string s ++ rest)) = '"' :: (s.flatMap escaped ++ ['"'] ++ rest) := by
    rw [skip_append blank, string, List.cons_append, skip_cons (by decide)]
  have read : string? ('"' :: (s.flatMap escaped ++ ['"'] ++ rest)) = some (s, rest) :=
    string?_string_append s rest
  rw [value?_of_quote fuel start, read]
  rfl

theorem value?_strings_append (fuel : Nat) (values : List Text) (rest : Text) :
    value? (fuel + 2) (' ' :: (strings values ++ rest)) =
      some (.array (values.map .string), rest) := by
  cases values with
  | nil => rfl
  | cons s others =>
    have space : [' '].all isSpace = true := by decide
    have start : ∀ t : Text, skip (' ' :: '[' :: t) = '[' :: t := fun t =>
      (skip_append space _).trans (skip_cons (by decide) t)
    have whole : strings (s :: others) ++ rest =
        '[' :: ("\n    ".toList ++ (",\n    ".toList.intercalate
          ((s :: others).map string) ++ ("\n  ".toList ++ ']' :: rest))) := by
      have regrouped : ∀ a b c d : Text, a ++ b ++ c ++ d = a ++ (b ++ (c ++ d)) := by simp
      exact regrouped "[\n    " _ "\n  ]" rest
    have list : enclosed? ']' (value? (fuel + 1)) ("\n    ".toList ++
        (",\n    ".toList.intercalate ((s :: others).map string) ++
          ("\n  ".toList ++ ']' :: rest))) = some ((s :: others).map .string, rest) :=
      enclosed?_intercalate rest (by simp) ⟨by decide, by decide⟩ (by decide) (fun _ _ => rfl)
        fun t _ later => value?_string_append fuel (by decide) t later
    rw [whole, value?_of_bracket _ (start _), list]
    rfl

/-- A member is read back when its value is. -/
theorem member?_append {value : Text.Reader Value} {gap name text rest : Text} {v : Value}
    (blank : gap.all isSpace = true) (read : value (' ' :: (text ++ rest)) = some (v, rest)) :
    member? value (gap ++ ((string name ++ ": " ++ text) ++ rest)) = some ((name, v), rest) := by
  have front : skip (gap ++ ((string name ++ ": " ++ text) ++ rest)) =
      string name ++ (':' :: ' ' :: (text ++ rest)) := by
    rw [skip_append blank, string, List.cons_append, List.cons_append, List.cons_append,
      skip_cons (by decide)]
    simp
  have colon : skip (':' :: ' ' :: (text ++ rest)) = ':' :: ' ' :: (text ++ rest) :=
    skip_cons (by decide) _
  rw [member?, front, string?_string_append, Option.bind_some]
  simp only [colon, read, Option.map_some]

/-- The members of a compiled query, each with its text and the value that this stands for. -/
def members (c : Compiled) : List (Text × Text × Value) :=
  [("sql", string c.sql, .string c.sql),
    ("bindings", strings c.bindings, .array (c.bindings.map .string))]

/-- A member as it stands in an object. -/
def memberText (m : Text × Text × Value) : Text := string m.1 ++ ": " ++ m.2.1

theorem toJson_eq (c : Compiled) :
    c.toJson = '\x7b' :: ("\n  ".toList ++
      (",\n  ".toList.intercalate ((members c).map memberText) ++ ("\n".toList ++ ['\x7d']))) := by
  calc c.toJson
      = '\x7b' :: ("\n  ".toList ++ (string "sql" ++ ": ".toList)) ++ string c.sql ++
          (",\n  ".toList ++ (string "bindings" ++ ": ".toList)) ++ strings c.bindings ++
          ("\n".toList ++ ['\x7d']) := rfl
    _ = _ := by
      rw [members, List.map_cons, List.map_singleton, List.intercalate_cons_cons,
        List.intercalate_singleton, memberText, memberText]
      simp only [List.append_assoc, List.cons_append]

/-- A compiled query is read back from JSON, the line break behind it included. -/
theorem read?_toJson (c : Compiled) :
    read? (c.toJson ++ "\n") = some (.object
      [("sql", .string c.sql), ("bindings", .array (c.bindings.map .string))]) := by
  have whole : c.toJson ++ "\n".toList = '\x7b' :: ("\n  ".toList ++
      (",\n  ".toList.intercalate ((members c).map memberText) ++
        ("\n".toList ++ '\x7d' :: "\n".toList))) := by
    rw [toJson_eq]
    simp only [List.append_assoc, List.cons_append, List.nil_append]
  have object : ∀ fuel, enclosed? '\x7d' (member? (value? (fuel + 2))) ("\n  ".toList ++
      (",\n  ".toList.intercalate ((members c).map memberText) ++
        ("\n".toList ++ '\x7d' :: "\n".toList))) =
      some ((members c).map fun m => (m.1, m.2.2), "\n".toList) := by
    intro fuel
    refine enclosed?_intercalate _ (List.cons_ne_nil _ _) ⟨by decide, by decide⟩ (by decide)
      (fun _ _ => rfl) fun m hm later => ?_
    refine member?_append (by decide) ?_
    simp only [members, List.mem_cons, List.not_mem_nil, or_false] at hm
    rcases hm with rfl | rfl
    · have space : [' '].all isSpace = true := by decide
      exact value?_string_append (fuel + 1) space c.sql later
    · exact value?_strings_append fuel c.bindings later
  have start : ∀ t : Text, skip ('\x7b' :: t) = '\x7b' :: t := skip_cons (by decide)
  -- The opening mark and the blanks behind it alone are deeper than the object.
  obtain ⟨fuel, deep⟩ : ∃ n, (c.toJson ++ "\n".toList).length + 1 = n + 3 := by
    refine ⟨(c.toJson ++ "\n".toList).length - 2, ?_⟩
    have two : 2 ≤ (c.toJson ++ "\n".toList).length := by
      have blanks : "\n  ".toList.length = 3 := rfl
      rw [whole, List.length_cons, List.length_append, blanks]
      omega
    omega
  rw [read?, deep, whole, value?_of_brace _ (start _), object]
  rfl

end Json

end FilterSql
