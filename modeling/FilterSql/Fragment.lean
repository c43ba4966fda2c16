/-
# FilterSql.Fragment -- SQL text with holes for values

A fragment is a list of pieces: SQL text, and holes that a value will fill when the statement is
executed. It has two views, its SQL text, in which every hole is a question mark, and its bindings,
the values of the holes from left to right. A value gets into a fragment through a hole only, so it
is never part of the text.
-/

import FilterSql.Text.Basic

namespace FilterSql

/-- A piece of SQL. -/
inductive Piece where
  /-- Text to stand as it is. -/
  | text (sql : Text)
  /-- A hole for a value. -/
  | hole (value : Text)
  deriving DecidableEq

namespace Piece

/-- The mark that a hole leaves in the text. -/
def placeholder : Text := ['?']

/-- The text of the piece. -/
def sql : Piece → Text
  | text sql => sql
  | hole _ => placeholder

/-- The value that the piece binds, if any. -/
def bindings : Piece → List Text
  | text _ => []
  | hole value => [value]

end Piece

/-- SQL text with holes. -/
abbrev Fragment := List Piece

namespace Fragment

/-! ## Building fragments -/

/-- The fragment without pieces. -/
def empty : Fragment := []

/-- The fragment of a text without holes. -/
def raw (sql : Text) : Fragment := [.text sql]

/-- The fragment of one hole. -/
def hole (value : Text) : Fragment := [.hole value]

-- Short for concatenations, so that what is known of these is known of them.

/-- The fragment with a text behind it. -/
abbrev push (f : Fragment) (sql : Text) : Fragment := f ++ raw sql

/-- The fragment with a hole for a value behind it. -/
abbrev bind (f : Fragment) (value : Text) : Fragment := f ++ hole value

/-- The fragment with another one behind it. -/
abbrev append (f g : Fragment) : Fragment := f ++ g

/-- The fragments in order with a text between neighbours. -/
def join (separator : Text) (fragments : List Fragment) : Fragment :=
  (raw separator).intercalate fragments

/-! ## The two views -/

/-- The text, holes marked. -/
def sql (f : Fragment) : Text := f.flatMap Piece.sql

/-- The values of the holes from left to right. -/
def bindings (f : Fragment) : List Text := f.flatMap Piece.bindings

/-- Has the fragment no text? -/
def isBlank (f : Fragment) : Bool := (sql f).isEmpty

@[simp]
theorem sql_raw (s : Text) : sql (raw s) = s := by simp [sql, raw, Piece.sql]

@[simp]
theorem bindings_raw (s : Text) : bindings (raw s) = [] := by simp [bindings, raw, Piece.bindings]

@[simp]
theorem sql_hole (value : Text) : sql (hole value) = Piece.placeholder := by
  simp [sql, hole, Piece.sql]

@[simp]
theorem bindings_hole (value : Text) : bindings (hole value) = [value] := by
  simp [bindings, hole, Piece.bindings]

@[simp]
theorem sql_append (f g : Fragment) : sql (f ++ g) = sql f ++ sql g := by simp [sql]

@[simp]
theorem bindings_append (f g : Fragment) : bindings (f ++ g) = bindings f ++ bindings g := by
  simp [bindings]

theorem join_cons_cons (separator : Text) (f g : Fragment) (rest : List Fragment) :
    join separator (f :: g :: rest) = f ++ raw separator ++ join separator (g :: rest) := by
  simp [join, List.intercalate_cons_cons]

/-- The text of a join is the join of the texts. -/
theorem sql_join (separator : Text) (fragments : List Fragment) :
    sql (join separator fragments) = separator.intercalate (fragments.map sql) := by
  induction fragments with
  | nil => rfl
  | cons f rest ih =>
    cases rest with
    | nil => simp [join]
    | cons g rest =>
      rw [join_cons_cons, sql_append, sql_append, sql_raw, ih]
      simp [List.intercalate_cons_cons]

/-- The bindings of a join are the bindings of its members in order. -/
theorem bindings_join (separator : Text) (fragments : List Fragment) :
    bindings (join separator fragments) = fragments.flatMap bindings := by
  induction fragments with
  | nil => rfl
  | cons f rest ih =>
    cases rest with
    | nil => simp [join]
    | cons g rest =>
      rw [join_cons_cons, bindings_append, bindings_append, bindings_raw, ih]
      simp

end Fragment

end FilterSql
