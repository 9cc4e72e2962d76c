import Imprint.Json.Printer
import Imprint.Proofs.Json.Reader

/-!
# Printed values are documents

What the printers write for a value is derived by the grammar as that value, without white space as
well as with one member to a line.  So the reader gives a printed value back.  Values without a
text of their own are left out: halves of surrogate pairs, and numbers that no grammar spells.
-/

namespace Imprint.Json

open Text

/-! ## White space and code units -/

theorem space_blank : Space [' '] := by simp [Space]

theorem space_line (indent : Nat) : Space ('\n' :: List.replicate indent ' ') := by
  rintro c member
  rcases List.mem_cons.mp member with rfl | blank
  · exact .inr (.inr (.inl rfl))
  · exact .inl (List.eq_of_mem_replicate blank)

theorem space_lineBreak (level : Nat) : Space (lineBreak level) := space_line (2 * level)

theorem codeUnit_padded {code : Nat} (small : code < 0x10000) :
    CodeUnit (padded 16 4 code) code where
  length_eq := length_padded ((Nat.length_toDigits_le_iff (by omega) (by omega)).mpr (by omega))
  number_eq := by
    rw [hexNumber?_eq_some (isDigitOf_padded (by omega) (by omega) 4 code),
      numeral_padded (by omega) (by omega)]

/-! ## Strings -/

/-- Every character is written as something that stands for it. -/
theorem chars_escapeChar (c : Char) {body : List Char} {text : Option (List Char)}
    (rest : Chars body text) : Chars (escapeChar c ++ body) (text.map (c :: ·)) := by
  by_cases marked : c ∈ ['"', '\\', '\x08', '\x0c', '\n', '\r', '\t']
  · simp only [List.mem_cons, List.not_mem_nil, or_false] at marked
    rcases marked with rfl | rfl | rfl | rfl | rfl | rfl | rfl
    all_goals exact .marked (by decide) rest
  · simp only [List.mem_cons, List.not_mem_nil, or_false, not_or] at marked
    simp only [escapeChar, beq_iff_eq, marked, if_false]
    by_cases control : c.toNat < 0x20
    · rw [if_pos control]
      exact .unit (codeUnit_padded (by omega)) rest
    · rw [if_neg control]
      exact .plain (Nat.le_of_not_lt control) marked.1 marked.2.1 rest

theorem chars_flatMap_escapeChar (text : List Char) :
    Chars (text.flatMap escapeChar) (some text) := by
  induction text with
  | nil => exact .nil
  | cons c text ih => exact chars_escapeChar c ih

/-- A string between its quotes stands for that string. -/
theorem quoted_quoted (text : String) : Quoted (quoted text) (some text) :=
  quoted_of_chars (chars_flatMap_escapeChar text.toList)

/-! ## Values that can be printed -/

/-- Whether all strings of a value have a text and all numbers are spelled by the grammar. -/
inductive Value.Printable : Value → Prop
  | null : Printable .null
  | boolean (truth : Bool) : Printable (.boolean truth)
  | number {spelling : String} (number : Number spelling.toList) : Printable (.number spelling)
  | string (text : String) : Printable (.string (some text))
  | array {items : List Value} (printable : ∀ item ∈ items, item.Printable) :
      Printable (.array items)
  | object {members : List (Option String × Value)}
      (named : ∀ entry ∈ members, entry.1.isSome = true)
      (printable : ∀ entry ∈ members, entry.2.Printable) : Printable (.object members)

/-- An object of strings can be printed. -/
theorem Value.printable_ofEntries {entries : List (String × Value)}
    (printable : ∀ entry ∈ entries, entry.2.Printable) : (Value.ofEntries entries).Printable := by
  apply Value.Printable.object
  · intro entry member
    obtain ⟨original, -, rfl⟩ := List.mem_map.mp member
    rfl
  · intro entry member
    obtain ⟨original, listed, rfl⟩ := List.mem_map.mp member
    exact printable original listed

/-! ## Lists

A list is derived from what is known of its entries.  White space may be left behind the last one,
which is where a list on lines of its own ends. -/

theorem derives_compactItems {item : Value} {items : List Value}
    (derives : ∀ other ∈ item :: items, Derives (.value other) (compactChars other)) :
    Derives (.items (item :: items)) (compactItems (item :: items)) := by
  induction items generalizing item with
  | nil =>
      have last := Derives.spaced space_nil (derives item List.mem_cons_self) space_nil
      simpa [compactItems] using Derives.lastItem last
  | cons next items ih =>
      have first := Derives.spaced space_nil (derives item List.mem_cons_self) space_nil
      have others := ih fun other member => derives other (List.mem_cons_of_mem _ member)
      simpa [compactItems] using Derives.item first others

theorem derives_prettyItems {level : Nat} {item : Value} {items : List Value}
    (derives : ∀ other ∈ item :: items, Derives (.value other) (prettyChars level other))
    {space : List Char} (blank : Space space) :
    Derives (.items (item :: items)) (prettyItems level (item :: items) ++ space) := by
  induction items generalizing item with
  | nil =>
      have last := Derives.spaced (space_lineBreak level) (derives item List.mem_cons_self) blank
      simpa [prettyItems] using Derives.lastItem last
  | cons next items ih =>
      have first :=
        Derives.spaced (space_lineBreak level) (derives item List.mem_cons_self) space_nil
      have others := ih fun other member => derives other (List.mem_cons_of_mem _ member)
      simpa [prettyItems] using Derives.item first others

/-- A member on a line of its own, or without any white space. -/
theorem derives_member {entry : Option String × Value} (named : entry.1.isSome = true)
    {text before between : List Char} (derives : Derives (.value entry.2) text)
    (opens : Space before) (apart : Space between) :
    Derives (.member entry.1 entry.2)
      (before ++ quoted (entry.1.getD "") ++ ':' :: (between ++ text)) := by
  obtain ⟨key, known⟩ := Option.isSome_iff_exists.mp named
  rw [known, Option.getD_some]
  have member := Derives.member opens (quoted_quoted key) space_nil
    (Derives.spaced apart derives space_nil)
  simpa using member

theorem derives_compactMembers {entry : Option String × Value}
    {members : List (Option String × Value)}
    (named : ∀ other ∈ entry :: members, other.1.isSome = true)
    (derives : ∀ other ∈ entry :: members, Derives (.value other.2) (compactChars other.2)) :
    Derives (.members (entry :: members)) (compactMembers (entry :: members)) := by
  induction members generalizing entry with
  | nil =>
      have last := derives_member (named entry List.mem_cons_self)
        (derives entry List.mem_cons_self) space_nil space_nil
      simpa [compactMembers] using Derives.lastMember last
  | cons next members ih =>
      have first := derives_member (named entry List.mem_cons_self)
        (derives entry List.mem_cons_self) space_nil space_nil
      have others := ih (fun other member => named other (List.mem_cons_of_mem _ member))
        fun other member => derives other (List.mem_cons_of_mem _ member)
      simpa [compactMembers] using Derives.members first others

theorem derives_prettyMembers {level : Nat} {entry : Option String × Value}
    {members : List (Option String × Value)}
    (named : ∀ other ∈ entry :: members, other.1.isSome = true)
    (derives : ∀ other ∈ entry :: members, Derives (.value other.2) (prettyChars level other.2))
    {space : List Char} (blank : Space space) :
    Derives (.members (entry :: members)) (prettyMembers level (entry :: members) ++ space) := by
  induction members generalizing entry with
  | nil =>
      have last := derives_member (named entry List.mem_cons_self)
        (derives entry List.mem_cons_self) (space_lineBreak level) space_blank
      simpa [prettyMembers] using Derives.lastMember (last.member_append blank)
  | cons next members ih =>
      have first := derives_member (named entry List.mem_cons_self)
        (derives entry List.mem_cons_self) (space_lineBreak level) space_blank
      have others := ih (fun other member => named other (List.mem_cons_of_mem _ member))
        fun other member => derives other (List.mem_cons_of_mem _ member)
      simpa [prettyMembers] using Derives.members first others

/-! ## Documents -/

variable {value : Value}

theorem derives_compactChars (printable : value.Printable) :
    Derives (.value value) (compactChars value) := by
  induction printable with
  | null => exact .null
  | boolean truth =>
      cases truth with
      | true => exact .true
      | false => exact .false
  | @number spelling number =>
      have derives := Derives.number number
      rwa [String.ofList_toList] at derives
  | string text => exact .string (quoted_quoted text)
  | @array items printable ih =>
      cases items with
      | nil => exact .emptyArray space_nil
      | cons item items => exact .array (derives_compactItems ih)
  | @object members named printable ih =>
      cases members with
      | nil => exact .emptyObject space_nil
      | cons entry members => exact .object (derives_compactMembers named ih)

theorem derives_prettyChars (printable : value.Printable) (level : Nat) :
    Derives (.value value) (prettyChars level value) := by
  induction printable generalizing level with
  | null => exact .null
  | boolean truth =>
      cases truth with
      | true => exact .true
      | false => exact .false
  | @number spelling number =>
      have derives := Derives.number number
      rwa [String.ofList_toList] at derives
  | string text => exact .string (quoted_quoted text)
  | @array items printable ih =>
      cases items with
      | nil => exact .emptyArray space_nil
      | cons item items =>
          exact .array (derives_prettyItems (fun other member => ih other member (level + 1))
            (space_lineBreak level))
  | @object members named printable ih =>
      cases members with
      | nil => exact .emptyObject space_nil
      | cons entry members =>
          exact .object (derives_prettyMembers named
            (fun other member => ih other member (level + 1)) (space_lineBreak level))

/-- A value without white space is a document that stands for it. -/
theorem document_compact (printable : value.Printable) : Document value.compact.toList value := by
  have derives := Derives.spaced space_nil (derives_compactChars printable) space_nil
  simpa [Document, Value.compact] using derives

/-- A value with one member to a line is a document that stands for it, also with white space
behind it. -/
theorem document_pretty (printable : value.Printable) {space : List Char} (blank : Space space) :
    Document (value.pretty.toList ++ space) value := by
  have derives := Derives.spaced space_nil (derives_prettyChars printable 0) blank
  simpa [Document, Value.pretty] using derives

end Imprint.Json
