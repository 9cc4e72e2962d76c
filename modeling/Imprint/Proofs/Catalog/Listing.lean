import Imprint.Command.Languages
import Imprint.Proofs.Template.Built
import Imprint.Proofs.Text.Csv

/-!
# Listings with commas

A catalog is listed with commas between the columns and without quotes.  So the listing gives the
columns back exactly if no name in it has a comma, a quote or a line break; templates with such
names can be built.
-/

namespace Imprint

open Csv (Plain IsPlain records?)

/-! ## Rows -/

/-- A row of plain columns is one line. -/
theorem Csv.lineFeed_not_mem_intercalate {row : List String}
    (plain : ∀ field ∈ row, Plain field) : '\n' ∉ (",".intercalate row).toList := by
  induction row with
  | nil => simp
  | cons field row ih =>
      rw [List.forall_mem_cons] at plain
      have here : '\n' ∉ field.toList := fun member => (plain.1 _ member).2.2.1 rfl
      cases row with
      | nil => rwa [String.intercalate_singleton]
      | cons next row =>
          rw [String.intercalate_cons_cons, String.toList_append, String.toList_append,
            List.mem_append, List.mem_append]
          rintro ((inField | inComma) | inRest)
          · exact here inField
          · exact absurd inComma (by decide)
          · exact ih plain.2 inRest

/-- A row is as long as its columns with a comma behind each but the last. -/
theorem Csv.length_intercalate {row : List String} (nonempty : row ≠ []) :
    (",".intercalate row).length + 1 = (row.map fun field => field.length + 1).sum := by
  induction row with
  | nil => contradiction
  | cons field row ih =>
      cases row with
      | nil => rw [String.intercalate_singleton, List.map_singleton, List.sum_singleton]
      | cons next row =>
          have rest := ih (List.cons_ne_nil _ _)
          have comma : ",".length = 1 := by rfl
          rw [String.intercalate_cons_cons, String.length_append, String.length_append, comma,
            List.map_cons, List.sum_cons]
          omega

theorem Console.content_of_not_mem {text : String} (unbroken : '\n' ∉ text.toList) :
    Console.content text = text ++ "\n" := by
  rw [content, if_neg]
  intro last
  exact unbroken (List.mem_of_getLast? (beq_iff_eq.mp last))

theorem Console.length_content_le (text : String) :
    (Console.content text).length ≤ text.length + 1 := by
  rw [content]
  split
  · exact Nat.le_succ _
  · rw [String.length_append]
    exact Nat.le_refl _

/-- Printed rows are read back exactly if all their columns are plain. -/
theorem records?_content_iff {rows : List (List String)} (nonempty : ∀ row ∈ rows, row ≠ []) :
    records? (String.join (rows.map fun row => Console.content (",".intercalate row))) =
        some rows ↔
      ∀ row ∈ rows, ∀ field ∈ row, Plain field := by
  constructor
  · apply Csv.plain_of_records?_eq_some
    rw [String.length_join, List.map_map]
    induction rows with
    | nil => exact Nat.le_refl 0
    | cons row rows ih =>
        rw [List.forall_mem_cons] at nonempty
        have printed := Console.length_content_le (",".intercalate row)
        have columns := Csv.length_intercalate nonempty.1
        have rest := ih nonempty.2
        rw [List.map_cons, List.sum_cons, List.flatten_cons, List.map_append, List.sum_append,
          Function.comp_apply]
        omega
  · intro plain
    rw [← Csv.records?_of_plain nonempty plain]
    congr 2
    apply List.map_congr_left
    intro row listed
    exact Console.content_of_not_mem (Csv.lineFeed_not_mem_intercalate (plain row listed))

/-! ## Templates -/

namespace Template

/-- A template whose names have no comma, quote or line break. -/
structure PlainNames (template : Template) : Prop where
  language : Plain template.language
  aliases : ∀ name ∈ template.aliases, Plain name
  files : ∀ half, Plain (template.files.get half)

theorem plain_convention (convention : Convention) : Plain convention.name := by
  cases convention <;> decide +kernel

theorem plain_aliases_iff (names : List String) :
    Plain (";".intercalate names) ↔ ∀ name ∈ names, Plain name := by
  induction names with
  | nil => exact iff_of_true (by decide) (by simp)
  | cons name names ih =>
      rw [List.forall_mem_cons, ← ih]
      cases names with
      | nil =>
          rw [String.intercalate_singleton]
          exact (and_iff_left (by decide)).symm
      | cons next names =>
          rw [String.intercalate_cons_cons, Plain, String.toList_append, String.toList_append,
            List.forall_mem_append, List.forall_mem_append]
          have separator : Plain ";" := by decide
          exact and_congr_left fun _ => and_iff_left separator

theorem plain_columns_iff (template : Template) :
    (∀ column ∈ template.columns, Plain column) ↔ template.PlainNames := by
  simp only [columns, List.forall_mem_cons, plain_aliases_iff]
  constructor
  · rintro ⟨language, aliases, -, declaration, definition, -⟩
    exact ⟨language, aliases, fun half => by cases half <;> assumption⟩
  · rintro ⟨language, aliases, files⟩
    exact ⟨language, aliases, plain_convention _, files .declaration, files .definition, by simp⟩

end Template

namespace Catalog

/-- A listing with commas gives the header and the columns of every template back exactly if the
names of all templates are plain. -/
theorem records?_listed_iff (console : Console) (catalog : Catalog) :
    records? (Command.listed console .csv catalog) =
        some (["language", "aliases", "convention", "declaration", "definition"] ::
          catalog.templates.map fun template =>
            [template.language, ";".intercalate template.aliases, template.convention.name,
              template.files.declaration, template.files.definition]) ↔
      ∀ template ∈ catalog.templates, template.PlainNames := by
  let header := ["language", "aliases", "convention", "declaration", "definition"]
  have listing : Command.listed console .csv catalog =
      String.join ((header :: catalog.templates.map Template.columns).map fun row =>
        Console.content (",".intercalate row)) := by
    rw [Command.listed, csvLines, List.map_cons, List.map_cons, List.map_map, List.map_map]
    rfl
  have nonempty : ∀ row ∈ header :: catalog.templates.map Template.columns, row ≠ [] := by
    rw [List.forall_mem_cons, List.forall_mem_map]
    exact ⟨List.cons_ne_nil _ _, fun _ _ => List.cons_ne_nil _ _⟩
  have headed : ∀ column ∈ header, Plain column := by decide
  rw [listing]
  refine (records?_content_iff nonempty).trans ?_
  rw [List.forall_mem_cons, and_iff_right headed, List.forall_mem_map]
  exact forall₂_congr fun template _ => template.plain_columns_iff

/-! ## A name with a comma -/

/-- A template that writes its definition to a file with a comma in its name. -/
def commaTemplate : Template := plainTemplate .snake ⟨"info.h", "a,b.c"⟩ Overrides.none

/-- The template can be built, and its row has a column too many. -/
theorem records?_commaTemplate :
    (plainDraft .snake commaTemplate.files Overrides.none).build = .ok commaTemplate ∧
      ∀ console : Console,
        records? (Command.listed console .csv ⟨[commaTemplate]⟩) =
            some [["language", "aliases", "convention", "declaration", "definition"],
              ["plain", "", "snake_case", "info.h", "a", "b.c"]] ∧
          records? (Command.listed console .csv ⟨[commaTemplate]⟩) ≠
            some [["language", "aliases", "convention", "declaration", "definition"],
              ["plain", "", "snake_case", "info.h", "a,b.c"]] := by
  refine ⟨build_plainDraft (by decide +kernel) (by decide +kernel), fun console => ?_⟩
  have listing : Command.listed console .csv ⟨[commaTemplate]⟩ =
      "language,aliases,convention,declaration,definition\n" ++
        "plain,,snake_case,info.h,a,b.c\n" := by rfl
  rw [listing]
  decide +kernel

end Catalog

end Imprint
