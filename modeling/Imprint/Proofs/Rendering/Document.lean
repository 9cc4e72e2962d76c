import Imprint.Proofs.Json.Printer
import Imprint.Proofs.Literal.Shape
import Imprint.Proofs.Rendering.Builtin

/-!
# The JSON output is JSON

An escaped value is the inside of a JSON string, whatever characters it holds.  So the two texts of
the JSON template are derived by the grammar piece by piece, and each is a document that stands for
one value only: the object of the names and values, and the schema that lists the names.
-/

namespace Imprint

open Text

/-! ## Skeletons in one piece -/

namespace Skeleton

variable {head opening between tail : String} {style : LiteralStyle} {spellings : Spellings}

theorem toList_fill_listing (record : Record) :
    ((listing head between tail).fill style spellings record).toList =
      head.toList ++ between.toList.intercalate
        (Field.all.map fun field => (spellings.get field).toList) ++ tail.toList := by
  simp [toList_fill, listing, frame, frameOf, Frame.fill, Frame.prepend, Field.all,
    List.intercalate]

theorem toList_fill_bindings (record : Record) :
    ((bindings head opening between tail).fill style spellings record).toList =
      head.toList ++ between.toList.intercalate
        (Field.all.map fun field => (spellings.get field).toList ++ opening.toList ++
          style.escapeChars (record.get field).toList) ++ tail.toList := by
  simp [toList_fill, bindings, frame, frameOf, Frame.fill, Frame.prepend, Field.all,
    List.intercalate]

end Skeleton

/-! ## Strings -/

namespace Json

/-- An escaped value is the inside of a string. -/
theorem chars_escapeFrom (previous : Option Char) (text : List Char) :
    Chars (LiteralStyle.json.escapeFrom previous text) (some text) := by
  induction text generalizing previous with
  | nil => exact .nil
  | cons c text ih =>
      rw [LiteralStyle.escapeFrom]
      have shape := LiteralStyle.escaped_escapeChar .json previous c
      generalize LiteralStyle.json.escapeChar previous c = written at shape
      cases shape with
      | @short mark listed =>
          have known : (mark, c) ∈ escapeMarks := by
            simp only [LiteralStyle.shortEscapes, List.mem_cons, Prod.mk.injEq, List.not_mem_nil,
              or_false] at listed
            rcases listed with ⟨rfl, rfl⟩ | ⟨rfl, rfl⟩ | ⟨rfl, rfl⟩ | ⟨rfl, rfl⟩ | ⟨rfl, rfl⟩ <;>
              decide
          exact .marked known (ih (some c))
      | question trigraphs => cases trigraphs
      | separator breaks => cases breaks
      | control unprintable =>
          have small := LiteralStyle.toNat_lt_of_isControl unprintable
          exact .unit (codeUnit_padded (by omega)) (ih (some c))
      | plain notQuote notBackslash notFeed notReturn single printable =>
          exact .plain (LiteralStyle.le_toNat_of_not_isControl printable) notQuote notBackslash
            (ih (some c))

/-! ## Objects -/

variable {key : String}

/-- A name and a value, as a definition writes them. -/
theorem derives_binding (plain : Chars key.toList (some key.toList)) (value : String) :
    Derives (.member (some key) (.ofString value))
      ("\n  \"".toList ++ key.toList ++ "\": \"".toList ++
        LiteralStyle.json.escapeChars value.toList ++ ['"']) := by
  have written := quoted_of_chars (chars_escapeFrom none value.toList)
  have derives := Derives.member (space_line 2) (quoted_of_chars plain) space_nil
    (.spaced space_blank (.string written) space_nil)
  simpa [LiteralStyle.escapeChars, Value.ofString] using derives

/-- A name and the schema of its value, as a declaration writes them. -/
theorem derives_property (plain : Chars key.toList (some key.toList)) :
    Derives (.member (some key) (.ofEntries [("type", .ofString "string")]))
      ("\n    \"".toList ++ key.toList ++ "\": \x7b \"type\": \"string\" \x7d".toList) := by
  have type : Chars "type".toList (some "type".toList) := chars_self (by decide)
  have string : Chars "string".toList (some "string".toList) := chars_self (by decide)
  have schema := Derives.object (.lastMember (.member space_blank (quoted_of_chars type) space_nil
    (.spaced space_blank (.string (quoted_of_chars string)) space_blank)))
  have derives := Derives.member (space_line 4) (quoted_of_chars plain) space_nil
    (.spaced space_blank schema space_nil)
  simpa [Value.ofEntries, Value.ofString] using derives

end Json

namespace Builtin

open Json

variable {spellings : Spellings}

/-- The definition is one object that binds the names to the values. -/
theorem document_definition
    (plain : ∀ field, Chars (spellings.get field).toList (some (spellings.get field).toList))
    (record : Record) :
    Document (json.definition.fill .json spellings record).toList
      (.ofEntries (Field.all.map fun field =>
        (spellings.get field, .ofString (record.get field)))) := by
  have members := Derives.members_map
    (fun field => derives_binding (plain field) (record.get field)) (space_line 0)
    .version [.commitHash, .commitDate, .commitDescriptor, .buildDate]
  have derives := Derives.spaced space_nil (.object members) (space_line 0)
  refine Eq.mp (congrArg₂ Derives ?_ ?_) derives
  · simp [Field.all, Value.ofEntries]
  · rw [json, Skeleton.toList_fill_bindings]
    simp [Field.all, List.intercalate]

/-- The declaration is one object that lists the names as its properties. -/
theorem document_declaration
    (plain : ∀ field, Chars (spellings.get field).toList (some (spellings.get field).toList))
    (record : Record) :
    Document (json.declaration.fill .json spellings record).toList
      (.ofEntries [("type", .ofString "object"),
        ("properties", .ofEntries (Field.all.map fun field =>
          (spellings.get field, .ofEntries [("type", .ofString "string")])))]) := by
  have members := Derives.members_map (fun field => derives_property (plain field)) (space_line 2)
    .version [.commitHash, .commitDate, .commitDescriptor, .buildDate]
  have type : Chars "type".toList (some "type".toList) := chars_self (by decide)
  have object : Chars "object".toList (some "object".toList) := chars_self (by decide)
  have properties : Chars "properties".toList (some "properties".toList) :=
    chars_self (by decide)
  have derives := Derives.spaced space_nil
    (.object (.members
      (.member (space_line 2) (quoted_of_chars type) space_nil
        (.spaced space_blank (.string (quoted_of_chars object)) space_nil))
      (.lastMember (.member (space_line 2) (quoted_of_chars properties) space_nil
        (.spaced space_blank (.object members) (space_line 0))))))
    (space_line 0)
  refine Eq.mp (congrArg₂ Derives ?_ ?_) derives
  · simp [Field.all, Value.ofEntries, Value.ofString]
  · -- What follows a name is left in one piece, so that the texts stay short.
    have between : "\": \x7b \"type\": \"string\" \x7d,\n    \"".toList =
        "\": \x7b \"type\": \"string\" \x7d".toList ++ ",\n    \"".toList := rfl
    have tail : "\": \x7b \"type\": \"string\" \x7d\n  \x7d\n\x7d\n".toList =
        "\": \x7b \"type\": \"string\" \x7d".toList ++ "\n  \x7d\n\x7d\n".toList := rfl
    rw [json, Skeleton.toList_fill_listing, between, tail]
    generalize "\": \x7b \"type\": \"string\" \x7d".toList = schema
    simp [Field.all, List.intercalate]

/-- No name of the JSON template needs an escape. -/
theorem chars_standardNames (descriptor : DescriptorName) (field : Field) :
    Chars ((json.standardSpellings descriptor).get field).toList
      (some ((json.standardSpellings descriptor).get field).toList) := by
  refine chars_self ?_
  cases descriptor <;> cases field <;> decide

/-- Whatever a record holds, its JSON definition is a document for the object that binds the five
names to the five values, in canonical order, and its declaration is a document for a schema with
the same names as properties.  Neither text stands for anything else. -/
theorem json_documents (descriptor : DescriptorName) (record : Record) :
    ∃ pair,
      (Registry.standard descriptor).spellingsFor json = .ok pair.spellings ∧
      Catalog.builtin.render (.standard descriptor) record json.language = .ok pair ∧
      (∀ value, Document pair.definition.toList value ↔
        value = .ofEntries (Field.all.map fun field =>
          (pair.spellings.get field, .ofString (record.get field)))) ∧
      ∀ value, Document pair.declaration.toList value ↔
        value = .ofEntries [("type", .ofString "object"),
          ("properties", .ofEntries (Field.all.map fun field =>
            (pair.spellings.get field, .ofEntries [("type", .ofString "string")])))] := by
  have listed : json ∈ all := by simp [all]
  have plain := chars_standardNames descriptor
  exact ⟨_, spellingsFor_eq_ok listed descriptor, render_language listed descriptor record,
    document_iff_eq (document_definition plain record),
    document_iff_eq (document_declaration plain record)⟩

end Builtin

end Imprint
