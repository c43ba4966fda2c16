/-
# FilterSql.Proofs.Statement.Programs -- fragments that are built step by step

A statement is put together by a program: texts and values are written one behind the other, and
what is written is appended and joined, at any depth. Here programs are data, and a `Builder` says
what their steps do, so that one program can be run twice: with fragments, where a value is bound,
and with plain texts, where a marked copy of it is written in its place.

The second is what comes of the first when its question marks are replaced one after the other by
marked copies of its bindings. For that the texts of the program must be free of question marks,
while nothing is asked of its values. `Fragment.marked` stands between the two: it looks at a
fragment piece by piece, so replacing is compared with it along the pieces and running along the
steps.
-/

import FilterSql.Proofs.Statement.Bindings
import FilterSql.Proofs.Text.Cuts

namespace FilterSql

/-! ## Programs -/

/-- A program that writes texts and values. -/
inductive Program where
  /-- Nothing yet. -/
  | new
  /-- A text. -/
  | raw (sql : Text)
  /-- A text behind a program. -/
  | push (program : Program) (sql : Text)
  /-- A value behind a program. -/
  | bind (program : Program) (value : Text)
  /-- A program behind another. -/
  | append (first second : Program)
  /-- Programs in order with a text between neighbours. -/
  | join (separator : Text) (parts : List Program)

/-- What the steps of a program do. -/
structure Builder (α : Type) where
  /-- To start with nothing. -/
  new : α
  /-- To start with a text. -/
  raw : Text → α
  /-- To write a text. -/
  push : α → Text → α
  /-- To write a value. -/
  bind : α → Text → α
  /-- To write what has been built. -/
  append : α → α → α
  /-- To join what has been built. -/
  join : Text → List α → α

namespace Builder

/-- Fragments, with a hole for each value. -/
def fragments : Builder Fragment where
  new := Fragment.empty
  raw := Fragment.raw
  push := Fragment.push
  bind := Fragment.bind
  append := Fragment.append
  join := Fragment.join

/-- Texts, with a marked copy of each value. -/
def texts (mark : Text → Text) : Builder Text where
  new := []
  raw sql := sql
  push s sql := s ++ sql
  bind s value := s ++ mark value
  append s t := s ++ t
  join := List.intercalate

end Builder

namespace Program

variable {α : Type}

mutual

/-- What a program builds. -/
def run (builder : Builder α) : Program → α
  | new => builder.new
  | raw sql => builder.raw sql
  | push program sql => builder.push (run builder program) sql
  | bind program value => builder.bind (run builder program) value
  | append first second => builder.append (run builder first) (run builder second)
  | join separator parts => builder.join separator (runAll builder parts)

/-- What programs build. -/
def runAll (builder : Builder α) : List Program → List α
  | [] => []
  | part :: rest => run builder part :: runAll builder rest

end

theorem runAll_eq_map (builder : Builder α) (parts : List Program) :
    runAll builder parts = parts.map (run builder) := by
  induction parts with
  | nil => rfl
  | cons part rest ih => rw [runAll, ih, List.map_cons]

/-- What holds of a join when it holds of its parts, and so for every other step, holds of every
program. -/
theorem induction_on_parts {motive : Program → Prop} (new : motive new)
    (raw : ∀ sql, motive (raw sql))
    (push : ∀ program sql, motive program → motive (push program sql))
    (bind : ∀ program value, motive program → motive (bind program value))
    (append : ∀ first second, motive first → motive second → motive (append first second))
    (join : ∀ separator parts, (∀ part ∈ parts, motive part) → motive (join separator parts))
    (program : Program) : motive program :=
  @Program.rec motive (fun parts => ∀ part ∈ parts, motive part) new raw push bind append join
    (List.forall_mem_nil _) (fun _ _ first rest => List.forall_mem_cons.2 ⟨first, rest⟩) program

/-- No text of the program and no separator has a question mark. Values are free. -/
inductive Unmarked : Program → Prop where
  /-- Nothing is written. -/
  | new : Unmarked new
  /-- The text has none. -/
  | raw {sql : Text} : '?' ∉ sql → Unmarked (raw sql)
  /-- Neither the program has one nor the text. -/
  | push {program : Program} {sql : Text} : Unmarked program → '?' ∉ sql →
      Unmarked (push program sql)
  /-- The program has none. -/
  | bind {program : Program} {value : Text} : Unmarked program → Unmarked (bind program value)
  /-- Neither program has one. -/
  | append {first second : Program} : Unmarked first → Unmarked second →
      Unmarked (append first second)
  /-- Neither the separator has one nor a part. -/
  | join {separator : Text} {parts : List Program} : '?' ∉ separator →
      (∀ part ∈ parts, Unmarked part) → Unmarked (join separator parts)

end Program

/-! ## Marked copies of values -/

/-- The text with its question marks replaced one after the other by marked copies of the values.
When no value is left they stay. -/
def Text.fill (mark : Text → Text) : Text → List Text → Text
  | [], _ => []
  | '?' :: rest, value :: values => mark value ++ fill mark rest values
  | c :: rest, values => c :: fill mark rest values

/-- A text without question marks is left alone. -/
theorem Text.fill_append {mark : Text → Text} {s : Text} (rest : Text) (values : List Text)
    (h : '?' ∉ s) : fill mark (s ++ rest) values = s ++ fill mark rest values := by
  induction s with
  | nil => rfl
  | cons c s ih =>
    rw [List.mem_cons, not_or] at h
    rw [List.cons_append, fill, ih h.2, List.cons_append]
    exact fun _ _ _ same => h.1 same.symm

namespace Fragment

/-- The text of a fragment with a marked copy of its value in each hole. -/
def marked (mark : Text → Text) (f : Fragment) : Text :=
  f.flatMap fun
    | .text sql => sql
    | .hole value => mark value

theorem marked_append (mark : Text → Text) (f g : Fragment) :
    marked mark (f ++ g) = marked mark f ++ marked mark g := List.flatMap_append

theorem marked_raw (mark : Text → Text) (sql : Text) : marked mark (raw sql) = sql :=
  List.flatMap_singleton ..

theorem marked_hole (mark : Text → Text) (value : Text) : marked mark (hole value) = mark value :=
  List.flatMap_singleton ..

theorem marked_join (mark : Text → Text) (separator : Text) (fragments : List Fragment) :
    marked mark (join separator fragments) =
      separator.intercalate (fragments.map (marked mark)) := by
  induction fragments with
  | nil => rfl
  | cons f rest ih =>
    by_cases last : rest = []
    · simp [last, join]
    · have others : rest.map (marked mark) ≠ [] := by simpa using last
      rw [join, List.intercalate_cons_of_ne_nil last, ← join, marked_append, marked_append, ih,
        marked_raw, List.map_cons, List.intercalate_cons_of_ne_nil others]

/-- The question marks of a fragment whose texts have none are its holes, in their order. -/
theorem fill_sql {mark : Text → Text} {f : Fragment} (h : ∀ s, Piece.text s ∈ f → '?' ∉ s) :
    Text.fill mark f.sql f.bindings = f.marked mark := by
  induction f with
  | nil => rfl
  | cons piece rest ih =>
    have others := ih fun s hs => h s (List.mem_cons_of_mem piece hs)
    cases piece with
    | text s =>
      have first : '?' ∉ s := h s List.mem_cons_self
      exact (Text.fill_append _ _ first).trans (congrArg (s ++ ·) others)
    | hole value => exact congrArg (mark value ++ ·) others

/-- Fragments that are joined apart are joined by one more separator. -/
theorem join_append (separator : Text) {front back : List Fragment} (hf : front ≠ [])
    (hb : back ≠ []) :
    join separator (front ++ back) =
      join separator [join separator front, join separator back] := by
  rw [join_cons_cons]
  exact (intercalate_append (raw separator) hf hb).trans (by simp [join])

end Fragment

/-! ## What programs build -/

namespace Program

/-- Writing marked copies of the values is marking the holes of the fragment. -/
theorem run_texts (mark : Text → Text) (program : Program) :
    program.run (.texts mark) = (program.run .fragments).marked mark := by
  induction program using induction_on_parts with
  | new => rfl
  | raw sql => exact (Fragment.marked_raw mark sql).symm
  | push program sql ih =>
    show run _ program ++ sql = Fragment.marked mark (run _ program ++ Fragment.raw sql)
    rw [ih, Fragment.marked_append, Fragment.marked_raw]
  | bind program value ih =>
    show run _ program ++ mark value = Fragment.marked mark (run _ program ++ Fragment.hole value)
    rw [ih, Fragment.marked_append, Fragment.marked_hole]
  | append first second ih ih' =>
    show run _ first ++ run _ second = Fragment.marked mark (run _ first ++ run _ second)
    rw [ih, ih', Fragment.marked_append]
  | join separator parts ih =>
    show separator.intercalate (runAll _ parts) =
      Fragment.marked mark (Fragment.join separator (runAll _ parts))
    rw [runAll_eq_map, runAll_eq_map, Fragment.marked_join, List.map_map]
    exact congrArg _ (List.map_congr_left ih)

/-- The texts of the fragment are those of the program. -/
theorem Unmarked.within {program : Program} (h : program.Unmarked) :
    (program.run .fragments).Within (· ≠ '?') := by
  have within : ∀ s : Text, '?' ∉ s → Text.Within (· ≠ '?') s := fun s unmarked c hc =>
    decide_eq_true fun same => unmarked (same ▸ hc)
  induction h with
  | new => exact fun _ hs => by cases hs
  | raw unmarked => exact Fragment.within_raw (within _ unmarked)
  | push _ unmarked ih => exact ih.append (Fragment.within_raw (within _ unmarked))
  | bind _ ih => exact ih.append (Fragment.within_hole _)
  | append _ _ ih ih' => exact ih.append ih'
  | @join separator parts unmarked _ ih =>
    refine Fragment.within_join (within _ unmarked) fun f hf => ?_
    rw [runAll_eq_map] at hf
    obtain ⟨part, hp, rfl⟩ := List.mem_map.1 hf
    exact ih part hp

end Program

/-- Fragments pair texts with values. Whatever a program without question marks in its texts
builds, its question marks are as many as its bindings, and with marked copies of these in their
places it is what the program writes with marked values. Appending is associative and has the empty
fragment as unit, and joining in two parts is joining at once. -/
theorem Fragment.program_laws :
    (∀ program : Program, program.Unmarked →
      (program.run .fragments).sql.count '?' = (program.run .fragments).bindings.length ∧
      ∀ mark : Text → Text,
        Text.fill mark (program.run .fragments).sql (program.run .fragments).bindings =
          program.run (.texts mark)) ∧
    (∀ f g h : Fragment, Builder.fragments.append (Builder.fragments.append f g) h =
      Builder.fragments.append f (Builder.fragments.append g h)) ∧
    (∀ f : Fragment, Builder.fragments.append Builder.fragments.new f = f ∧
      Builder.fragments.append f Builder.fragments.new = f) ∧
    ∀ (separator : Text) (front back : List Fragment), front ≠ [] → back ≠ [] →
      join separator (front ++ back) =
        join separator [join separator front, join separator back] := by
  refine ⟨fun program unmarked => ⟨?_, fun mark => ?_⟩, List.append_assoc, fun f => ⟨rfl, ?_⟩,
    fun separator front back hf hb => join_append separator hf hb⟩
  · exact count_sql (unmarked.within.not_mem rfl)
  · rw [fill_sql (unmarked.within.not_mem rfl), Program.run_texts]
  · exact List.append_nil f

/-- A value that is a question mark itself, an empty part between two others, and lists of fragments
that are joined apart with an empty one at the seam. -/
theorem Fragment.program_laws_nested :
    let program : Program :=
      .join ", " [.bind (.raw "a = ") "?", .new, .append (.bind .new "x") (.push (.raw "(") ")")]
    let mark : Text → Text := fun value => '<' :: (value ++ ['>'])
    (program.run .fragments).sql = "a = ?, , ?()".toList ∧
      (program.run .fragments).sql.count '?' = (program.run .fragments).bindings.length ∧
      Text.fill mark "a = ?, , ?()" ["?", "x"] = "a = <?>, , <x>()".toList ∧
      join " OR " [raw "a", [], hole "b"] =
        join " OR " [join " OR " [raw "a", []], join " OR " [hole "b"]] := by
  intro program mark
  obtain ⟨programs, -, -, joins⟩ := program_laws
  have unmarked : program.Unmarked := by
    refine .join (by decide) (List.forall_mem_cons.2 ⟨?_, List.forall_mem_cons.2 ⟨.new,
      List.forall_mem_singleton.2 ?_⟩⟩)
    · exact .bind (.raw (by decide))
    · exact .append (.bind .new) (.push (.raw (by decide)) (by decide))
  obtain ⟨count, filled⟩ := programs program unmarked
  have sql : (program.run .fragments).sql = "a = ?, , ?()".toList := by decide
  have bindings : (program.run .fragments).bindings = ["?".toList, "x".toList] := by decide
  have written : program.run (.texts mark) = "a = <?>, , <x>()".toList := by decide
  have same := filled mark
  rw [sql, bindings, written] at same
  exact ⟨sql, count, same, joins _ [raw "a", []] [hole "b"] (by simp) (by simp)⟩

end FilterSql
