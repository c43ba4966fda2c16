/-
# FilterSql.Proofs.Compiled.ListingReader -- compiled queries are read back from listings

In a listing nothing but layout tells the text of a statement from its values. The text may have
line breaks of its own, two of them in a row included, so no empty line tells where it ends. What
tells is how the lines of the values start, with two spaces and a dollar: no line of the text starts
so when there is no dollar in it, and no value makes more than one line, for it is shown without a
line break.

The reader takes the first line that starts so for the first value. The lines from there on have to
be numbered from one, and the text is what stands in front of the empty line before them.
-/

import FilterSql.Compiled.Listing
import FilterSql.Proofs.Alphabet
import FilterSql.Proofs.Text.Unquoting

namespace FilterSql

namespace Listing

/-! ## A reader of listings -/

/-- Does the line start like that of a value? -/
def isBindingLine (line : Text) : Bool := "  $".toList.isPrefixOf line

/-- The number and the value on a line. -/
def line? : Text → Option (Nat × Text)
  | ' ' :: ' ' :: '$' :: rest =>
    match rest.dropWhile Char.isDigit with
    | ' ' :: '=' :: ' ' :: shown =>
      match Text.unquoted? shown with
      | some (value, []) => some (Nat.ofDigitChars 10 (rest.takeWhile Char.isDigit) 0, value)
      | _ => none
    | _ => none
  | _ => none

/-- The compiled query that a listing shows. -/
def read? (s : Text) : Option Compiled :=
  let lines := (s.splitOn '\n').dropLast
  let front := lines.takeWhile (!isBindingLine ·)
  ((lines.dropWhile (!isBindingLine ·)).mapM line?).bind fun numbered =>
    if numbered.map Prod.fst = List.range' 1 numbered.length then
      some ⟨['\n'].intercalate front.dropLast, numbered.map Prod.snd⟩
    else none

/-! ## The lines of values -/

/-- The line of the value with a number, without its line break. -/
def numberedLine (value : Text) (n : Nat) : Text :=
  "  $" ++ Nat.toDigits 10 n ++ " = " ++ Text.quoted value

/-- The lines of values, numbered from one. -/
def numberedLines (values : List Text) : List Text :=
  (values.zipIdx 1).map fun numbered => numberedLine numbered.1 numbered.2

theorem numberedLine_eq (value : Text) (n : Nat) :
    numberedLine value n = ' ' :: ' ' :: '$' ::
      (Nat.toDigits 10 n ++ ' ' :: '=' :: ' ' :: Text.quoted value) := by
  have regrouped : ∀ a b c d : Text, a ++ b ++ c ++ d = a ++ (b ++ (c ++ d)) := by simp
  exact regrouped "  $" _ " = " _

theorem isBindingLine_numberedLine (value : Text) (n : Nat) :
    isBindingLine (numberedLine value n) = true := by
  rw [numberedLine_eq]
  rfl

/-- A line without a dollar is not that of a value. -/
theorem isBindingLine_eq_false {line : Text} (h : '$' ∉ line) : isBindingLine line = false := by
  rw [Bool.eq_false_iff]
  intro start
  exact h ((List.isPrefixOf_iff_prefix.1 start).subset (by decide))

/-- The line of a value is read back. -/
theorem line?_numberedLine (value : Text) (n : Nat) :
    line? (numberedLine value n) = some (n, value) := by
  have digits : ∀ c ∈ Nat.toDigits 10 n, c.isDigit = true := fun c hc =>
    Nat.isDigit_of_mem_toDigits (by decide) (by decide) hc
  have stop : ¬ Char.isDigit ' ' = true := by decide
  have read := Text.unquoted?_quoted_append value []
  rw [List.append_nil] at read
  have number : Nat.ofDigitChars 10 (Nat.toDigits 10 n) 0 = n := Nat.ofDigitChars_ten_toDigits
  rw [numberedLine_eq, line?, List.dropWhile_append_of_pos digits,
    List.takeWhile_append_of_pos digits, List.dropWhile_cons_of_neg stop,
    List.takeWhile_cons_of_neg stop, List.append_nil, number]
  simp only [read]

/-- A line shows all of its characters, so there is no control among them. -/
theorem isShown_of_mem_numberedLine {value : Text} {n : Nat} {c : Char}
    (h : c ∈ numberedLine value n) : Text.isShown c = true := by
  have printed : ∀ {s : Text}, s.all Text.isPrinted = true → c ∈ s → Text.isShown c = true :=
    fun all mem => Text.isShown_of_isPrinted (List.all_eq_true.1 all c mem)
  rw [numberedLine, List.mem_append, List.mem_append, List.mem_append] at h
  rcases h with ((h | h) | h) | h
  · exact printed (by decide) h
  · have digit := Nat.isDigit_of_mem_toDigits (by decide) (by decide) h
    apply Text.isShown_of_isPrinted
    simp only [Char.isDigit, Bool.and_eq_true, decide_eq_true_eq, ge_iff_le,
      UInt32.le_iff_toNat_le] at digit
    rw [Text.isPrinted, Bool.and_eq_true, decide_eq_true_eq, decide_eq_true_eq]
    have low : 48 ≤ c.toNat := digit.1
    have high : c.toNat ≤ 57 := digit.2
    omega
  · exact printed (by decide) h
  · exact Text.isShown_of_mem_quoted h

theorem break_not_mem_numberedLine (value : Text) (n : Nat) : '\n' ∉ numberedLine value n :=
  fun mem => absurd (Text.not_control_of_isShown (isShown_of_mem_numberedLine mem)) (by decide)

/-! ## The lines of a listing -/

/-- Lines with a line break behind each are the pieces at line breaks, and nothing is behind the
last one. -/
theorem splitOn_flatMap {lines : List Text} (h : ∀ line ∈ lines, '\n' ∉ line) :
    (lines.flatMap (· ++ ['\n'])).splitOn '\n' = lines ++ [[]] := by
  induction lines with
  | nil => rfl
  | cons line rest ih =>
    obtain ⟨unbroken, others⟩ := List.forall_mem_cons.1 h
    have first : line.splitOn '\n' = [line] := by
      have whole := List.splitOn_intercalate '\n' (List.forall_mem_singleton.2 unbroken) (by simp)
      rwa [List.intercalate_singleton] at whole
    rw [List.flatMap_cons, List.append_assoc, List.singleton_append,
      List.splitOn_append_cons_self, first, ih others]
    rfl

/-- A listing has the lines of the text, an empty one, and a line for each value. -/
theorem splitOn_listing (c : Compiled) :
    c.listing.splitOn '\n' =
      (c.sql.splitOn '\n' ++ [[]]) ++ (numberedLines c.bindings ++ [[]]) := by
  have whole : c.listing =
      c.sql ++ '\n' :: '\n' :: (numberedLines c.bindings).flatMap (· ++ ['\n']) := by
    rw [numberedLines, List.flatMap_map]
    exact List.append_assoc ..
  have unbroken : ∀ line ∈ numberedLines c.bindings, '\n' ∉ line := by
    intro line hl
    obtain ⟨numbered, -, rfl⟩ := List.mem_map.1 hl
    exact break_not_mem_numberedLine _ _
  have behind : ∀ s : Text, ('\n' :: s).splitOn '\n' = [] :: s.splitOn '\n' := fun s =>
    List.splitOn_append_cons_self [] s
  rw [whole, List.splitOn_append_cons_self, behind, splitOn_flatMap unbroken, List.append_assoc,
    List.singleton_append]

/-! ## Reading listings back -/

theorem isBindingLine_of_mem_numberedLines {values : List Text} {line : Text}
    (h : line ∈ numberedLines values) : isBindingLine line = true := by
  obtain ⟨numbered, -, rfl⟩ := List.mem_map.1 h
  exact isBindingLine_numberedLine _ _

/-- The lines of the values are read back with the numbers from one on. -/
theorem mapM_line?_numberedLines (values : List Text) :
    (numberedLines values).mapM line? = some ((List.range' 1 values.length).zip values) := by
  have all : ∀ (values : List Text) (k : Nat),
      ((values.zipIdx k).map fun numbered => numberedLine numbered.1 numbered.2).mapM line? =
        some ((List.range' k values.length).zip values) := by
    intro values
    induction values with
    | nil => exact fun _ => rfl
    | cons value rest ih =>
      intro k
      rw [List.zipIdx_cons, List.map_cons, List.mapM_cons, line?_numberedLine, ih (k + 1)]
      rfl
  exact all values 1

variable {c : Compiled} (h : '$' ∉ c.sql)

include h

/-- No line of the text is like that of a value, and neither is the empty line behind it. -/
theorem isBindingLine_of_mem_front {line : Text} (hl : line ∈ c.sql.splitOn '\n' ++ [[]]) :
    isBindingLine line = false := by
  rcases List.mem_append.1 hl with hl | hl
  · exact isBindingLine_eq_false fun mem => h (Text.mem_of_mem_splitOn hl mem)
  · rw [List.mem_singleton.1 hl]
    rfl

/-- The lines that start like that of a value are those of the values. -/
theorem filter_isBindingLine :
    (c.listing.splitOn '\n').filter isBindingLine = numberedLines c.bindings := by
  have front : (c.sql.splitOn '\n' ++ [[]]).filter isBindingLine = [] :=
    List.filter_eq_nil_iff.2 fun line hl => by simp [isBindingLine_of_mem_front h hl]
  have back : (numberedLines c.bindings).filter isBindingLine = numberedLines c.bindings :=
    List.filter_eq_self.2 fun line hl => isBindingLine_of_mem_numberedLines hl
  rw [splitOn_listing, List.filter_append, front, List.filter_append, back]
  exact List.append_nil _

/-- A listing is read back when there is no dollar in the text. -/
theorem read?_listing : read? c.listing = some c := by
  have lines : (c.listing.splitOn '\n').dropLast =
      (c.sql.splitOn '\n' ++ [[]]) ++ numberedLines c.bindings := by
    rw [splitOn_listing, ← List.append_assoc, List.dropLast_concat]
  have front : ∀ line ∈ c.sql.splitOn '\n' ++ [[]], (!isBindingLine line) = true :=
    fun line hl => by simp [isBindingLine_of_mem_front h hl]
  have back : (numberedLines c.bindings).takeWhile (!isBindingLine ·) = [] ∧
      (numberedLines c.bindings).dropWhile (!isBindingLine ·) = numberedLines c.bindings := by
    cases values : numberedLines c.bindings with
    | nil => exact ⟨rfl, rfl⟩
    | cons line rest =>
      have first : isBindingLine line = true :=
        isBindingLine_of_mem_numberedLines (values ▸ List.mem_cons_self)
      exact ⟨List.takeWhile_cons_of_neg (by simp [first]),
        List.dropWhile_cons_of_neg (by simp [first])⟩
  have sql : ['\n'].intercalate (c.sql.splitOn '\n') = c.sql := List.intercalate_splitOn '\n'
  have numbers : ((List.range' 1 c.bindings.length).zip c.bindings).map Prod.fst =
      List.range' 1 ((List.range' 1 c.bindings.length).zip c.bindings).length := by
    rw [List.map_fst_zip (by simp)]
    simp
  rw [read?, lines, List.takeWhile_append_of_pos front, List.dropWhile_append_of_pos front, back.1,
    back.2, List.append_nil, List.dropLast_concat, mapM_line?_numberedLines, Option.bind_some,
    if_pos numbers, List.map_snd_zip (by simp), sql]

end Listing

end FilterSql
