/-
# FilterSql.Proofs.Console.Output -- what the standard output shows

A compiled query is printed in one of two forms, and whoever reads the text gets the query back. Of
JSON any reader is good enough. Of a listing it takes that there is no dollar in a statement,
whatever the parameters, for a dollar is what the lines of values start with.

`Shows` is about a text alone and says what reading it comes to; nothing in it is about how the text
was made. So one text shows one query at most.
-/

import FilterSql.Console
import FilterSql.Proofs.Compiled.JsonReader
import FilterSql.Proofs.Compiled.ListingReader
import FilterSql.Proofs.Statement.Characters

namespace FilterSql

/-! ## Characters that are foreign to statements -/

/-- A character that stands in no expression and in no comparison, and is neither a quotation mark
nor the mark of a hole, stands in no statement. -/
theorem Dialect.not_mem_sql {dialect : Dialect} {table : Text} {p : Params} {c : Compiled}
    (h : dialect.compile table p = .ok c) {d : Char}
    (foreign : isSqlChar d = false ∧ d ∉ ['"', '\x60', '[', ']', '?']) : d ∉ c.sql := by
  obtain ⟨valid, -, wellFormed, rfl⟩ := exists_of_compile h
  have other : ∀ {e : Char}, isSqlChar e = true → (e != d) = true := by
    intro e sql
    rw [bne_iff_ne]
    rintro rfl
    rw [foreign.1] at sql
    cases sql
  have marks : ∀ e ∈ ['"', '\x60', '[', ']', '?'], (e != d) = true := fun e he =>
    bne_iff_ne.2 fun same => foreign.2 (same ▸ he)
  have covered : dialect.capabilities.CoveredBy (· != d) :=
    dialect.coveredBy (fun e plain => other (isSqlChar_of_isPlainChar plain))
      (List.all_eq_true.2 fun e he => marks e (List.mem_append_left ['?'] he))
  have shown : ∀ text ∈ (Query.kept p).expressions, Text.Within (· != d) text := by
    intro text shown e he
    obtain ⟨accepted, -⟩ := wellFormed.projection _ (Query.mem_expressions_iff.1 shown).2
    exact other (isSqlChar_of_isExpressionChar (isExpressionChar_of_isExpression accepted e he))
  have newline : Text.Within (· != d) ['\n'] := fun e he =>
    List.mem_singleton.1 he ▸ other (by decide)
  have within := (Fragment.within_join newline fun line hl =>
    Statement.within_of_mem_sections covered valid wellFormed shown hl).sql (marks '?' (by decide))
  exact fun mem => bne_iff_ne.1 (within d mem) rfl

/-- There is no dollar in the text of a compiled query. -/
theorem dollar_not_mem_sql {table dialectName : Text} {p : Params} {c : Compiled}
    (h : compile table p dialectName = .ok c) : '$' ∉ c.sql := by
  unfold compile Dialect.ofName at h
  cases known : Dialect.ofName? dialectName with
  | none =>
    rw [known] at h
    cases h
  | some dialect =>
    rw [known] at h
    have compiled : dialect.compile table p = .ok c := h
    exact Dialect.not_mem_sql compiled (by decide)

namespace Console

/-! ## Reading the standard output -/

/-- The object that JSON output stands for. -/
def jsonValue (c : Compiled) : Json.Value :=
  .object [("sql", .string c.sql), ("bindings", .array (c.bindings.map .string))]

/-- A listing shows a compiled query and no other. -/
structure Lists (stdout : Text) (c : Compiled) : Prop where
  /-- The text, an empty line, a line for each value with its number from one on, and nothing
  behind. -/
  lines : stdout.splitOn '\n' =
    (c.sql.splitOn '\n' ++ [[]]) ++ (Listing.numberedLines c.bindings ++ [[]])
  /-- No other line starts like that of a value. -/
  numbered : (stdout.splitOn '\n').filter Listing.isBindingLine = Listing.numberedLines c.bindings
  /-- There is no control on the line of a value. -/
  printed : ∀ line ∈ Listing.numberedLines c.bindings, ∀ d ∈ line,
    0x20 ≤ d.toNat ∧ d.toNat ≠ 0x7F
  /-- The reader of listings gets it back. -/
  read : Listing.read? stdout = some c

/-- The listing of a compiled query without a dollar in its text shows it and no other. -/
theorem lists_listing {c : Compiled} (h : '$' ∉ c.sql) : Lists c.listing c where
  lines := Listing.splitOn_listing c
  numbered := Listing.filter_isBindingLine h
  printed line hl d hd := by
    obtain ⟨numbered, -, rfl⟩ := List.mem_map.1 hl
    exact Text.not_control_of_isShown (Listing.isShown_of_mem_numberedLine hd)
  read := Listing.read?_listing h

theorem jsonValue_injective : Function.Injective jsonValue := by
  rintro ⟨sql, bindings⟩ ⟨sql', bindings'⟩ same
  simp only [jsonValue, Json.Value.object.injEq, List.cons.injEq, Prod.mk.injEq,
    Json.Value.string.injEq, Json.Value.array.injEq, true_and, and_true] at same
  rw [same.1, List.map_injective_iff.2 (fun _ _ => Json.Value.string.inj) same.2]

/-- The text shows a compiled query in a form: as JSON an object of the text and the values, and
otherwise a listing of them. -/
structure Shows (json : Bool) (stdout : Text) (c : Compiled) : Prop where
  /-- A reader of JSON finds the object. -/
  object : json = true → Json.read? stdout = some (jsonValue c)
  /-- A reader of listings finds the query. -/
  lists : json = false → Lists stdout c

/-- A text shows one query at most. -/
theorem Shows.eq {json : Bool} {stdout : Text} {c c' : Compiled} (h : Shows json stdout c)
    (h' : Shows json stdout c') : c = c' := by
  rcases Bool.eq_false_or_eq_true json with mode | mode
  · have object := h.object mode
    rw [h'.object mode] at object
    exact (jsonValue_injective (Option.some.inj object)).symm
  · have listing := (h.lists mode).read
    rw [(h'.lists mode).read] at listing
    exact (Option.some.inj listing).symm

/-- What is printed of a compiled query shows it. -/
theorem shows_render {c : Compiled} (json : Bool) (h : '$' ∉ c.sql) :
    Shows json (render json c) c where
  object mode := by
    rw [mode]
    exact Json.read?_toJson c
  lists mode := by
    rw [mode]
    exact lists_listing h

end Console

end FilterSql
