import Imprint.Proofs.Json.Exact
import Imprint.Proofs.Json.Printer
import Imprint.Record.Json
import Mathlib.Logic.Relation

/-!
# What the members of an object say about a record

A record is read from a JSON object by taking its members in one after the other.  Here the result
is described without an order: every key can be read, and each field is given once, as its text,
or is empty and not given.  So a record is read back from what is written for it, and from any
other text whose object differs in ways that this description does not see.
-/

namespace Imprint

open Json (Value Document)

namespace Field

variable {key : String} {field : Field}

/-- The keys under which a field is read. -/
def memberKeys : List String := all.map memberKey ++ ["git_tag_or_branch"]

theorem ofMemberKey?_eq_none_iff : ofMemberKey? key = none ↔ key ∉ memberKeys := by
  rw [ofMemberKey?, memberKeys]
  by_cases older : key = "git_tag_or_branch"
  · simp [older]
  · simp [older]

@[simp]
theorem ofMemberKey?_memberKey (field : Field) : ofMemberKey? field.memberKey = some field := by
  cases field <;> decide

end Field

namespace Record

/-- A member of a JSON object. -/
abbrev Member := Option String × Value

/-! ## The values of a field -/

/-- The value of a member that gives a field. -/
def valueFor? (field : Field) (member : Member) : Option Value :=
  if member.1.bind Field.ofMemberKey? = some field then some member.2 else none

/-- The values that members give to a field, in order. -/
def valuesFor (members : List Member) (field : Field) : List Value :=
  members.filterMap (valueFor? field)

variable {members first second : List Member} {field : Field} {record : Record}

theorem valuesFor_cons (member : Member) (members : List Member) (field : Field) :
    valuesFor (member :: members) field =
      (valueFor? field member).toList ++ valuesFor members field := by
  rw [valuesFor, List.filterMap_cons]
  cases valueFor? field member <;> rfl

theorem valueFor?_unknown {key : String} (unknown : Field.ofMemberKey? key = none)
    (value : Value) : valueFor? field (some key, value) = none := by
  simp [valueFor?, unknown]

theorem valueFor?_known {key : String} {given : Field} (known : Field.ofMemberKey? key = some given)
    (value : Value) :
    valueFor? field (some key, value) = if given = field then some value else none := by
  simp [valueFor?, known]

theorem eq_string_of_text? {value : Value} {text : String} (read : value.text? = some text) :
    value = .string (some text) := by
  cases value with
  | string found => exact congrArg Value.string read
  | _ => contradiction

/-! ## Taking members in -/

/-- How the values given to a field settle its text, which may be known before. -/
inductive Settles : Option String → List Value → Option String → Prop
  | kept (known : Option String) : Settles known [] known
  | given (text : String) : Settles none [.string (some text)] (some text)

section Settles

variable {known final : Option String} {value : Value} {values : List Value}

theorem settles_nil_iff : Settles known [] final ↔ final = known := by
  constructor
  · rintro ⟨⟩
    rfl
  · rintro rfl
    exact .kept _

/-- A field is given at most once. -/
theorem settles_cons_iff :
    Settles known (value :: values) final ↔
      known = none ∧ values = [] ∧ ∃ text, value.text? = some text ∧ final = some text := by
  constructor
  · rintro ⟨⟩
    exact ⟨rfl, rfl, _, rfl, rfl⟩
  · rintro ⟨rfl, rfl, text, read, rfl⟩
    rw [eq_string_of_text? read]
    exact .given text

theorem settles_some_iff {text : String} :
    Settles (some text) values final ↔ values = [] ∧ final = some text := by
  constructor
  · rintro ⟨⟩
    exact ⟨rfl, rfl⟩
  · rintro ⟨rfl, rfl⟩
    exact .kept _

theorem settles_append_iff {first second : List Value} :
    Settles known (first ++ second) final ↔
      ∃ middle, Settles known first middle ∧ Settles middle second final := by
  cases first with
  | nil =>
      constructor
      · intro settles
        exact ⟨known, .kept known, settles⟩
      · rintro ⟨middle, same, settles⟩
        rwa [settles_nil_iff.mp same] at settles
  | cons value first =>
      rw [List.cons_append, settles_cons_iff]
      constructor
      · rintro ⟨rfl, none, text, read, rfl⟩
        obtain ⟨rfl, rfl⟩ := List.append_eq_nil_iff.mp none
        exact ⟨some text, settles_cons_iff.mpr ⟨rfl, rfl, text, read, rfl⟩, .kept _⟩
      · rintro ⟨middle, settles, others⟩
        obtain ⟨rfl, rfl, text, read, rfl⟩ := settles_cons_iff.mp settles
        obtain ⟨rfl, rfl⟩ := settles_some_iff.mp others
        exact ⟨rfl, rfl, text, read, rfl⟩

end Settles

/-- A member is taken in if its key can be read and it settles the field that it gives. -/
theorem addMember_eq_some_iff {known next : Partial} {member : Member} :
    addMember known member.1 member.2 = some next ↔
      member.1.isSome = true ∧
        ∀ field, Settles (known.get field) (valueFor? field member).toList (next.get field) := by
  obtain ⟨key, value⟩ := member
  cases key with
  | none => simp [addMember]
  | some key =>
      simp only [addMember, Option.bind_eq_bind, Option.bind_some, Option.isSome_some, true_and]
      cases read : Field.ofMemberKey? key with
      | none =>
          simp only [valueFor?_unknown read, Option.toList_none, settles_nil_iff, Option.some.injEq]
          constructor
          · rintro rfl field
            rfl
          · intro same
            exact (PerField.ext_get same).symm
      | some given =>
          simp only [valueFor?_known read]
          cases before : known.get given with
          | some old =>
              refine iff_of_false (Option.some_ne_none next).symm fun settles => ?_
              have twice := settles given
              rw [if_pos rfl, before, Option.toList_some, settles_some_iff] at twice
              exact List.cons_ne_nil _ _ twice.1
          | none =>
              cases text : value.text? with
              | none =>
                  refine iff_of_false (Option.some_ne_none next).symm fun settles => ?_
                  have unread := settles given
                  rw [if_pos rfl, Option.toList_some, settles_cons_iff, text] at unread
                  obtain ⟨-, -, found, impossible, -⟩ := unread
                  contradiction
              | some text =>
                  constructor
                  · rintro ⟨⟩ field
                    by_cases here : given = field
                    · subst here
                      simpa [settles_cons_iff, text] using before
                    · simp [here, settles_nil_iff, Ne.symm here]
                  · intro settles
                    refine congrArg some (PerField.ext_get fun field => ?_)
                    rw [PerField.get_set]
                    have settled := settles field
                    by_cases here : given = field
                    · subst here
                      rw [if_pos rfl, Option.toList_some, settles_cons_iff, text] at settled
                      obtain ⟨-, -, found, ⟨⟩, final⟩ := settled
                      rw [if_pos rfl, final]
                    · rw [if_neg here, Option.toList_none, settles_nil_iff] at settled
                      rw [if_neg (Ne.symm here), settled]

/-- All members are taken in if every key can be read and they settle all fields. -/
theorem foldlM_addMember_eq_some_iff {known final : Partial} :
    members.foldlM (fun known (key, value) => addMember known key value) known = some final ↔
      (∀ member ∈ members, member.1.isSome = true) ∧
        ∀ field, Settles (known.get field) (valuesFor members field) (final.get field) := by
  induction members generalizing known with
  | nil =>
      simp only [valuesFor, List.filterMap_nil, settles_nil_iff, List.foldlM_nil]
      constructor
      · rintro ⟨⟩
        exact ⟨fun member impossible => absurd impossible List.not_mem_nil, fun field => rfl⟩
      · rintro ⟨-, same⟩
        exact congrArg some (PerField.ext_get same).symm
  | cons member members ih =>
      simp only [List.foldlM_cons, Option.bind_eq_bind, Option.bind_eq_some_iff,
        addMember_eq_some_iff, ih, List.forall_mem_cons, valuesFor_cons, settles_append_iff]
      constructor
      · rintro ⟨next, ⟨named, first⟩, others, rest⟩
        exact ⟨⟨named, others⟩, fun field => ⟨next.get field, first field, rest field⟩⟩
      · rintro ⟨⟨named, others⟩, settles⟩
        obtain ⟨middle, settles⟩ := Classical.skolem.mp settles
        refine ⟨PerField.ofFunction middle, ⟨named, fun field => ?_⟩, others, fun field => ?_⟩
        · rw [PerField.get_ofFunction]
          exact (settles field).1
        · rw [PerField.get_ofFunction]
          exact (settles field).2

/-! ## Describing a record -/

/-- Whether members describe a record: every key can be read, and each field is given once, as its
text, or is empty and not given. -/
structure Describes (members : List Member) (record : Record) : Prop where
  named : ∀ member ∈ members, member.1.isSome = true
  given : ∀ field, valuesFor members field = [.string (some (record.get field))] ∨
    valuesFor members field = [] ∧ record.get field = ""

/-- A record is read from an object exactly if the members describe it. -/
theorem ofValue?_object_eq_some_iff : ofValue? (.object members) = some record ↔
    Describes members record := by
  rw [ofValue?, Option.map_eq_some_iff]
  simp only [foldlM_addMember_eq_some_iff, PerField.get_const]
  constructor
  · rintro ⟨final, ⟨named, settles⟩, rfl⟩
    refine ⟨named, fun field => ?_⟩
    rw [ofPartial, PerField.get_ofFunction]
    generalize valuesFor members field = values, final.get field = text, settles field = settled
    cases settled with
    | kept known => exact .inr ⟨rfl, rfl⟩
    | given text => exact .inl rfl
  · rintro ⟨named, given⟩
    let final : Partial := PerField.ofFunction fun field =>
      if (valuesFor members field).isEmpty then none else some (record.get field)
    refine ⟨final, ⟨named, fun field => ?_⟩, PerField.ext_get fun field => ?_⟩
    · rw [PerField.get_ofFunction]
      rcases given field with values | ⟨values, -⟩
      · rw [values]
        exact .given (record.get field)
      · rw [values]
        exact .kept none
    · rw [ofPartial, PerField.get_ofFunction, PerField.get_ofFunction]
      rcases given field with values | ⟨values, blank⟩
      · rw [values]
        rfl
      · rw [values, blank]
        rfl

/-! ## Printed records -/

/-- The members that are written for a record. -/
def toMembers (record : Record) : List Member :=
  record.entries.map fun (field, value) => (some field.memberKey, .ofString value)

theorem toValue_eq (record : Record) : toValue record = .object record.toMembers := by
  rw [toValue, Value.ofEntries, List.map_map]
  rfl

theorem printable_toValue (record : Record) : (toValue record).Printable := by
  apply Value.printable_ofEntries
  intro entry member
  obtain ⟨⟨field, value⟩, -, rfl⟩ := List.mem_map.mp member
  exact .string value

/-- The members that are written for a record describe it. -/
theorem describes_toMembers (record : Record) : Describes record.toMembers record where
  named := by
    intro member listed
    obtain ⟨⟨field, value⟩, -, rfl⟩ := List.mem_map.mp listed
    rfl
  given := by
    intro field
    refine .inl ?_
    simp only [toMembers, PerField.entries, Field.all, List.map_cons, List.map_nil, valuesFor_cons,
      valueFor?_known (Field.ofMemberKey?_memberKey _)]
    cases field <;> rfl

/-- A record is read from a text exactly if the text stands for a value that it is read from. -/
theorem ofJson?_eq_some_iff {text : String} : ofJson? text = some record ↔
    ∃ value, Document text.toList value ∧ ofValue? value = some record := by
  rw [ofJson?, Option.bind_eq_some_iff]
  exact exists_congr fun value => and_congr_left' Json.parse?_eq_some_iff

/-- A text is read as a record if it stands for an object whose members describe it. -/
theorem ofJson?_eq_some_of_describes {text : String}
    (document : Document text.toList (.object first)) (describes : Describes first record) :
    ofJson? text = some record :=
  ofJson?_eq_some_iff.mpr ⟨_, document, ofValue?_object_eq_some_iff.mpr describes⟩

/-- A record is read back from a text that stands for its object. -/
theorem ofJson?_of_document {text : String} (document : Document text.toList (toValue record)) :
    ofJson? text = some record := by
  rw [toValue_eq] at document
  exact ofJson?_eq_some_of_describes document (describes_toMembers record)

/-! ## Revised members -/

/-- A change to the members of an object that does not matter to the reader: another order, a text
under a key that is not read, the second key of the descriptor, or one empty text less. -/
inductive Revises : List Member → List Member → Prop
  | permuted {first second : List Member} (reordered : first.Perm second) : Revises first second
  | added {before after : List Member} {key : String} (text : String)
      (unknown : key ∉ Field.memberKeys) :
      Revises (before ++ after) (before ++ (some key, .ofString text) :: after)
  | renamed {before after : List Member} (value : Value) :
      Revises (before ++ (some "git_smart", value) :: after)
        (before ++ (some "git_tag_or_branch", value) :: after)
  | dropped {before after : List Member} (key : String) :
      Revises (before ++ (some key, .ofString "") :: after) (before ++ after)

section Describes

variable {key : String} {value : Value} {before after : List Member}

/-- The order of members does not matter. -/
theorem Describes.perm (describes : Describes first record) (reordered : first.Perm second) :
    Describes second record := by
  constructor
  · intro member listed
    exact describes.named member (reordered.mem_iff.mpr listed)
  · intro field
    have values : (valuesFor first field).Perm (valuesFor second field) := reordered.filterMap _
    rcases describes.given field with given | ⟨given, blank⟩
    · rw [given] at values
      exact .inl (List.perm_singleton.mp values.symm)
    · rw [given] at values
      exact .inr ⟨List.nil_perm.mp values, blank⟩

/-- A member under a key that is not read does not matter. -/
theorem Describes.cons_unknown (describes : Describes members record)
    (unknown : key ∉ Field.memberKeys) (value : Value) :
    Describes ((some key, value) :: members) record := by
  constructor
  · exact List.forall_mem_cons.mpr ⟨rfl, describes.named⟩
  · intro field
    rw [valuesFor_cons, valueFor?_unknown (Field.ofMemberKey?_eq_none_iff.mpr unknown)]
    exact describes.given field

/-- The descriptor is read under both of its keys. -/
theorem Describes.cons_renamed
    (describes : Describes ((some "git_smart", value) :: members) record) :
    Describes ((some "git_tag_or_branch", value) :: members) record := by
  have first : Field.ofMemberKey? "git_smart" = some .commitDescriptor := by decide
  have second : Field.ofMemberKey? "git_tag_or_branch" = some .commitDescriptor := by decide
  constructor
  · exact List.forall_mem_cons.mpr ⟨rfl, (List.forall_mem_cons.mp describes.named).2⟩
  · intro field
    have given := describes.given field
    rw [valuesFor_cons, valueFor?_known first] at given
    rw [valuesFor_cons, valueFor?_known second]
    exact given

/-- An empty text says as much as none. -/
theorem Describes.of_cons_blank
    (describes : Describes ((some key, .ofString "") :: members) record) :
    Describes members record := by
  constructor
  · exact (List.forall_mem_cons.mp describes.named).2
  · intro field
    have given := describes.given field
    rw [valuesFor_cons] at given
    cases read : valueFor? field (some key, .ofString "") with
    | none =>
        rw [read] at given
        exact given
    | some value =>
        have blank : value = .ofString "" := by
          rw [valueFor?] at read
          split at read
          · exact (Option.some.inj read).symm
          · contradiction
        subst blank
        rw [read, Option.toList_some, List.singleton_append] at given
        rcases given with given | ⟨impossible, -⟩
        · obtain ⟨same, none⟩ := List.cons.inj given
          exact .inr ⟨none, (Option.some.inj (Value.string.inj same)).symm⟩
        · contradiction

end Describes

/-- A change that does not matter leaves the record that is described as it is. -/
theorem Describes.revised (describes : Describes first record) (revises : Revises first second) :
    Describes second record := by
  cases revises with
  | permuted reordered => exact describes.perm reordered
  | added text unknown => exact (describes.cons_unknown unknown _).perm List.perm_middle.symm
  | renamed value => exact (describes.perm List.perm_middle).cons_renamed.perm List.perm_middle.symm
  | dropped key => exact (describes.perm List.perm_middle).of_cons_blank

/-- Any number of such changes leaves it as it is. -/
theorem Describes.revisedOften (describes : Describes first record)
    (revised : Relation.ReflTransGen Revises first second) : Describes second record := by
  induction revised with
  | refl => exact describes
  | tail _ revises ih => exact ih.revised revises

/-- A record is read back from the two texts that are written for it.  Whenever a record is read
from an object, it is also read from every text for the object with its members permuted, with
texts added under keys that are not read, with the second key of the descriptor, or without
members that are empty texts. -/
theorem ofJson?_printed_and_revised (record : Record) :
    (∀ text ∈ [(toValue record).compact, (toValue record).pretty],
        Document text.toList (.object record.toMembers) ∧ ofJson? text = some record) ∧
      ∀ {source text : String} {members revised : List Member},
        Document source.toList (.object members) → ofJson? source = some record →
        Relation.ReflTransGen Revises members revised →
        Document text.toList (.object revised) → ofJson? text = some record := by
  constructor
  · have printed : ∀ text ∈ [(toValue record).compact, (toValue record).pretty],
        Document text.toList (toValue record) := by
      intro text listed
      rcases List.mem_cons.mp listed with rfl | listed
      · exact Json.document_compact (printable_toValue record)
      · have document := Json.document_pretty (printable_toValue record) Json.space_nil
        rwa [List.append_nil, ← List.mem_singleton.mp listed] at document
    intro text listed
    exact ⟨toValue_eq record ▸ printed text listed, ofJson?_of_document (printed text listed)⟩
  · intro source text members revised document read revises written
    obtain ⟨value, other, read⟩ := ofJson?_eq_some_iff.mp read
    rw [other.unique document] at read
    have describes := ofValue?_object_eq_some_iff.mp read
    exact ofJson?_eq_some_of_describes written (describes.revisedOften revises)

/-- A record with two empty texts. -/
def sparseRecord : Record := ⟨"1.0 \"beta\"", "", "2024-01-02", "main", ""⟩

/-- Its members in another order, without the empty ones and with one more. -/
def sparseMembers : List Member :=
  [(some "git_tag_or_branch", .ofString "main"), (some "note", .ofString "😀"),
   (some "git_date", .ofString "2024-01-02"), (some "version", .ofString "1.0 \"beta\"")]

/-- A text for them with white space and escapes. -/
def sparseText : String :=
  "\x7b \"git_tag_or_branch\": \"ma\\u0069n\",\n\"note\":\"\\uD83D\\ude00\" ," ++
    "\"git_date\":\"2024-01-02\",\"version\":\"1.0 \\\"beta\\\"\"\x7d\n"

theorem document_sparseText : Document sparseText.toList (.object sparseMembers) := by
  have letters : Json.Chars "ma\\u0069n".toList (some "main".toList) :=
    .plain (by decide) (by decide) (by decide) (.plain (by decide) (by decide) (by decide)
      (@Json.Chars.unit "0069".toList _ 'i' _ ⟨rfl, rfl⟩ (Json.chars_self rfl)))
  have halves : Json.Chars "\\uD83D\\ude00".toList (some "😀".toList) :=
    @Json.Chars.pair "D83D".toList "de00".toList [] 0xd83d 0xde00 _ ⟨rfl, rfl⟩ (by decide)
      ⟨rfl, rfl⟩ (by decide) .nil
  have branch := Json.Derives.member Json.space_blank (Json.quoted_quoted "git_tag_or_branch")
    Json.space_nil
    (.spaced Json.space_blank (.string (Json.quoted_of_chars letters)) Json.space_nil)
  have note := Json.Derives.member (Json.space_line 0) (Json.quoted_quoted "note") Json.space_nil
    (.spaced Json.space_nil (.string (Json.quoted_of_chars halves)) Json.space_blank)
  have date := Json.Derives.member Json.space_nil (Json.quoted_quoted "git_date") Json.space_nil
    (.spaced Json.space_nil (.string (Json.quoted_quoted "2024-01-02")) Json.space_nil)
  have version := Json.Derives.member Json.space_nil (Json.quoted_quoted "version") Json.space_nil
    (.spaced Json.space_nil (.string (Json.quoted_quoted "1.0 \"beta\"")) Json.space_nil)
  exact .spaced Json.space_nil
    (.object (.members branch (.members note (.members date (.lastMember version)))))
    (Json.space_line 0)

theorem revises_sparseMembers :
    Relation.ReflTransGen Revises sparseRecord.toMembers sparseMembers := by
  let version : Member := (some "version", .ofString "1.0 \"beta\"")
  let date : Member := (some "git_date", .ofString "2024-01-02")
  let older : Member := (some "git_tag_or_branch", .ofString "main")
  have hashDropped : Revises sparseRecord.toMembers
      [version, date, (some "git_smart", .ofString "main"), (some "build_date", .ofString "")] :=
    @Revises.dropped [version] _ "git_hash"
  have dateDropped : Revises
      [version, date, (some "git_smart", .ofString "main"), (some "build_date", .ofString "")]
      [version, date, (some "git_smart", .ofString "main")] :=
    @Revises.dropped [version, date, (some "git_smart", .ofString "main")] [] "build_date"
  have renamed : Revises [version, date, (some "git_smart", .ofString "main")]
      [version, date, older] :=
    @Revises.renamed [version, date] [] (.ofString "main")
  have permuted : Revises [version, date, older] [older, date, version] :=
    .permuted (List.reverse_perm [version, date, older]).symm
  have added : Revises [older, date, version] sparseMembers :=
    @Revises.added [older] [date, version] "note" "😀" (by decide)
  exact ((((Relation.ReflTransGen.single hashDropped).tail dateDropped).tail renamed).tail
    permuted).tail added

/-- The record is read from that text. -/
theorem ofJson?_printed_and_revised_sparse :
    Relation.ReflTransGen Revises sparseRecord.toMembers sparseMembers ∧
      Document sparseText.toList (.object sparseMembers) ∧
      ofJson? sparseText = some sparseRecord := by
  obtain ⟨printed, revised⟩ := ofJson?_printed_and_revised sparseRecord
  obtain ⟨written, read⟩ := printed _ List.mem_cons_self
  exact ⟨revises_sparseMembers, document_sparseText,
    revised written read revises_sparseMembers document_sparseText⟩

end Record

end Imprint
