import Mathlib.Algebra.GroupWithZero.Nat
import Mathlib.Tactic.ByContra
import Mathlib.Tactic.SplitIfs

/-!
# Values with commas between them

A reader of records with commas between their fields and a line break behind each record.  A field
with a comma, a quote or a line break in it must be quoted, with its quotes doubled.  Main
statement: fields that are written without quotes are read back exactly if none of them has such a
character.
-/

namespace Imprint.Csv

/-! ## Reading -/

/-- Where a reader stands: at the beginning of a field, in a field without quotes, between quotes,
behind a quote that closes a field or is doubled, or behind a carriage return, which a line feed
must follow. -/
inductive Place where
  | start
  | plain
  | quoted
  | closing
  | breaking
  deriving DecidableEq

/-- What has been read: whole records, whole fields of the next one, and the beginning of a
field. -/
structure Reader where
  records : List (List String)
  fields : List String
  field : List Char
  place : Place

namespace Reader

/-- Nothing has been read. -/
def fresh : Reader := ⟨[], [], [], .start⟩

/-- One more character of the field. -/
def keep (reader : Reader) (c : Char) (place : Place) : Reader :=
  { reader with field := reader.field ++ [c], place }

/-- The fields of the record, the one that is being read among them. -/
def record (reader : Reader) : List String := reader.fields ++ [String.ofList reader.field]

/-- The end of a field. -/
def endField (reader : Reader) : Reader := ⟨reader.records, reader.record, [], .start⟩

/-- The end of a record. -/
def endRecord (reader : Reader) : Reader := ⟨reader.records ++ [reader.record], [], [], .start⟩

/-- Reads a character that ends a field: a comma, a line feed, or a carriage return in front of
one. -/
def delimit (reader : Reader) (c : Char) : Option Reader :=
  if c = ',' then some reader.endField
  else if c = '\n' then some reader.endRecord
  else if c = '\r' then some { reader with place := .breaking }
  else none

/-- Reads one character. -/
def step (reader : Reader) (c : Char) : Option Reader :=
  match reader.place with
  | .start =>
      if c = '"' then some { reader with place := .quoted }
      else (reader.delimit c).or (some (reader.keep c .plain))
  | .plain => if c = '"' then none else (reader.delimit c).or (some (reader.keep c .plain))
  | .quoted =>
      if c = '"' then some { reader with place := .closing } else some (reader.keep c .quoted)
  | .closing => if c = '"' then some (reader.keep c .quoted) else reader.delimit c
  | .breaking => if c = '\n' then some reader.endRecord else none

/-- The records of a text that ends here.  The last one may lack its line break. -/
def finish (reader : Reader) : Option (List (List String)) :=
  match reader.place with
  | .quoted | .breaking => none
  | .start => some (if reader.fields.isEmpty then reader.records else reader.endRecord.records)
  | .plain | .closing => some reader.endRecord.records

end Reader

/-- The records of a text. -/
def records? (text : String) : Option (List (List String)) :=
  (text.toList.foldlM Reader.step Reader.fresh).bind Reader.finish

/-- Line breaks have one or two characters, and quotes stand for themselves if they are doubled. -/
example : records? "a,\"b\"\"\nc\"\r\n,d" = some [["a", "b\"\nc"], ["", "d"]] := by decide

/-! ## Plain fields -/

/-- Characters that need no quotes. -/
def IsPlain (c : Char) : Prop := c ≠ ',' ∧ c ≠ '"' ∧ c ≠ '\n' ∧ c ≠ '\r'

instance (c : Char) : Decidable (IsPlain c) := inferInstanceAs (Decidable (_ ∧ _))

/-- Fields that need no quotes. -/
def Plain (field : String) : Prop := ∀ c ∈ field.toList, IsPlain c

instance (field : String) : Decidable (Plain field) := List.decidableBAll IsPlain field.toList

namespace Reader

variable {reader after : Reader} {c : Char}

/-- Outside quotes, where a field can go on and can end. -/
def Outside (reader : Reader) : Prop := reader.place = .start ∨ reader.place = .plain

theorem delimit_eq_none_iff : reader.delimit c = none ↔ c ≠ ',' ∧ c ≠ '\n' ∧ c ≠ '\r' := by
  rw [delimit]
  split_ifs <;> simp_all

theorem step_of_plain (plain : IsPlain c) (outside : reader.Outside) :
    reader.step c = some (reader.keep c .plain) := by
  obtain ⟨noComma, noQuote, noBreak, noReturn⟩ := plain
  have goesOn : reader.delimit c = none := delimit_eq_none_iff.mpr ⟨noComma, noBreak, noReturn⟩
  rw [step]
  rcases outside with place | place <;> rw [place] <;> dsimp only <;>
    rw [if_neg noQuote, goesOn, Option.none_or]

theorem step_of_delimit (noQuote : c ≠ '"') (outside : reader.Outside)
    (ended : reader.delimit c = some after) : reader.step c = some after := by
  rw [step]
  rcases outside with place | place <;> rw [place] <;> dsimp only <;>
    rw [if_neg noQuote, ended, Option.some_or]

/-- Plain characters are added to the field. -/
theorem run_plain {text : List Char} (plain : ∀ c ∈ text, IsPlain c) (outside : reader.Outside) :
    ∃ place, (place = .start ∨ place = .plain) ∧ text.foldlM step reader =
      some ⟨reader.records, reader.fields, reader.field ++ text, place⟩ := by
  induction text generalizing reader with
  | nil => exact ⟨reader.place, outside, by rw [List.append_nil]; rfl⟩
  | cons c text ih =>
      rw [List.forall_mem_cons] at plain
      have still : (reader.keep c .plain).Outside := .inr rfl
      obtain ⟨place, same, run⟩ := ih plain.2 still
      refine ⟨place, same, ?_⟩
      rw [List.foldlM_cons, step_of_plain plain.1 outside, Option.bind_eq_bind, Option.bind_some,
        run, keep, List.append_assoc]
      rfl

variable {records : List (List String)} {fields : List String}

/-- A field without quotes, and the character that ends it. -/
theorem run_field {field : String} (plain : Plain field) (noQuote : c ≠ '"')
    (ended : ∀ place, delimit ⟨records, fields, field.toList, place⟩ c = some after) :
    (field.toList ++ [c]).foldlM step ⟨records, fields, [], .start⟩ = some after := by
  have start : Outside ⟨records, fields, [], .start⟩ := .inl rfl
  obtain ⟨place, outside, run⟩ := run_plain plain start
  rw [List.foldlM_append, run, List.nil_append, Option.bind_eq_bind, Option.bind_some,
    List.foldlM_cons, step_of_delimit noQuote (by exact outside) (ended place)]
  rfl

theorem run_row {row : List String} (nonempty : row ≠ []) (plain : ∀ field ∈ row, Plain field) :
    ((",".intercalate row).toList ++ ['\n']).foldlM step ⟨records, fields, [], .start⟩ =
      some ⟨records ++ [fields ++ row], [], [], .start⟩ := by
  induction row generalizing fields with
  | nil => contradiction
  | cons field row ih =>
      rw [List.forall_mem_cons] at plain
      cases row with
      | nil =>
          rw [String.intercalate_singleton]
          exact run_field plain.1 (by decide) fun place => by
            rw [delimit, endRecord, record, String.ofList_toList]
            rfl
      | cons next row =>
          have first : (field.toList ++ [',']).foldlM step ⟨records, fields, [], .start⟩ =
              some ⟨records, fields ++ [field], [], .start⟩ :=
            run_field plain.1 (by decide) fun place => by
              rw [delimit, endField, record, String.ofList_toList]
              rfl
          have split : (",".intercalate (field :: next :: row)).toList ++ ['\n'] =
              (field.toList ++ [',']) ++ ((",".intercalate (next :: row)).toList ++ ['\n']) := by
            rw [String.intercalate_cons_cons, String.toList_append, String.toList_append,
              List.append_assoc]
            rfl
          rw [split, List.foldlM_append, first, Option.bind_eq_bind, Option.bind_some,
            ih (List.cons_ne_nil _ _) plain.2, List.append_assoc]
          rfl

theorem run_rows {rows : List (List String)} (nonempty : ∀ row ∈ rows, row ≠ [])
    (plain : ∀ row ∈ rows, ∀ field ∈ row, Plain field) :
    (rows.flatMap fun row => (",".intercalate row).toList ++ ['\n']).foldlM step
        ⟨records, [], [], .start⟩ =
      some ⟨records ++ rows, [], [], .start⟩ := by
  induction rows generalizing records with
  | nil => rw [List.append_nil]; rfl
  | cons row rows ih =>
      rw [List.forall_mem_cons] at nonempty plain
      rw [List.flatMap_cons, List.foldlM_append, run_row nonempty.1 plain.1, Option.bind_eq_bind,
        Option.bind_some, ih nonempty.2 plain.2, List.append_assoc]
      rfl

end Reader

/-- Rows of plain fields are read back. -/
theorem records?_of_plain {rows : List (List String)} (nonempty : ∀ row ∈ rows, row ≠ [])
    (plain : ∀ row ∈ rows, ∀ field ∈ row, Plain field) :
    records? (String.join (rows.map fun row => ",".intercalate row ++ "\n")) = some rows := by
  have text : (String.join (rows.map fun row => ",".intercalate row ++ "\n")).toList =
      rows.flatMap fun row => (",".intercalate row).toList ++ ['\n'] := by
    simp only [String.toList_join, List.flatMap_map, String.toList_append]
    rfl
  rw [records?, text, Reader.fresh, Reader.run_rows nonempty plain]
  rfl

/-!
## What fields cost

Quotes cost characters.  So a text that has just enough characters for its fields has no quotes,
and all its fields are plain.
-/

/-- The least number of characters for a field and the one that ends it. -/
def charge (field : String) : Nat := field.length + 1 + if Plain field then 0 else 2

theorem charge_ofList_of_plain {field : List Char} (plain : ∀ c ∈ field, IsPlain c) :
    charge (String.ofList field) = field.length + 1 := by
  rw [charge, String.length_ofList, if_pos]
  rwa [Plain, String.toList_ofList]

theorem charge_ofList_le (field : List Char) : charge (String.ofList field) ≤ field.length + 3 := by
  rw [charge, String.length_ofList]
  split <;> omega

/-- The least number of characters for some fields. -/
def cost (fields : List String) : Nat := (fields.map charge).sum

theorem cost_append (first second : List String) :
    cost (first ++ second) = cost first + cost second := by
  rw [cost, List.map_append, List.sum_append]
  rfl

namespace Reader

variable {reader after : Reader} {c : Char} {read : Nat}

/-- The least number of characters for what has been read of a field. -/
def pending (reader : Reader) : Nat :=
  match reader.place with
  | .start | .plain => reader.field.length
  | .quoted => reader.field.length + 1
  | .closing => reader.field.length + 2
  | .breaking => charge (String.ofList reader.field)

/-- The least number of characters for the fields that are behind. -/
def settled (reader : Reader) : Nat := cost (reader.records.flatten ++ reader.fields)

/-- So many characters suffice for what has been read, and fields without quotes are plain. -/
structure Affordable (reader : Reader) (read : Nat) : Prop where
  paid : reader.settled + reader.pending ≤ read
  plain : reader.Outside → ∀ c ∈ reader.field, IsPlain c

theorem affordable_fresh : fresh.Affordable 0 where
  paid := Nat.le_refl 0
  plain _ := by simp [fresh]

theorem settled_endField :
    reader.endField.settled = reader.settled + charge (String.ofList reader.field) := by
  rw [settled, endField, record, ← List.append_assoc, cost_append, settled]
  simp [cost]

theorem settled_endRecord :
    reader.endRecord.settled = reader.settled + charge (String.ofList reader.field) := by
  rw [settled, endRecord, record, List.flatten_append, List.append_nil, List.flatten_singleton,
    ← List.append_assoc, cost_append, settled]
  simp [cost]

/-- A field that is paid for can be ended. -/
theorem affordable_of_delimit
    (paid : reader.settled + charge (String.ofList reader.field) ≤ read)
    (ended : reader.delimit c = some after) : after.Affordable read := by
  rw [delimit] at ended
  split_ifs at ended <;> cases ended
  · exact ⟨settled_endField ▸ paid, fun _ => by simp [endField]⟩
  · exact ⟨settled_endRecord ▸ paid, fun _ => by simp [endRecord]⟩
  · exact ⟨paid, by simp [Outside]⟩

/-- Outside quotes a character ends the field, which is plain, or is one more plain character. -/
theorem affordable_of_outside (paid : reader.settled + reader.field.length ≤ read)
    (plain : ∀ c ∈ reader.field, IsPlain c) (noQuote : c ≠ '"')
    (moved : (reader.delimit c).or (some (reader.keep c .plain)) = some after) :
    after.Affordable (read + 1) := by
  cases ended : reader.delimit c with
  | some next =>
      rw [ended, Option.some_or] at moved
      cases moved
      refine affordable_of_delimit ?_ ended
      rw [charge_ofList_of_plain plain]
      omega
  | none =>
      rw [ended, Option.none_or] at moved
      cases moved
      obtain ⟨noComma, noBreak, noReturn⟩ := delimit_eq_none_iff.mp ended
      refine ⟨?_, fun _ => List.forall_mem_append.mpr ⟨plain, ?_⟩⟩
      · change reader.settled + (reader.field ++ [c]).length ≤ read + 1
        rw [List.length_append, List.length_singleton]
        omega
      · exact List.forall_mem_singleton.mpr ⟨noComma, noQuote, noBreak, noReturn⟩

/-- Between quotes a character costs itself only; the first quote has been paid for, the second one
is still to come. -/
theorem affordable_keep_quoted (paid : reader.settled + (reader.field.length + 1) ≤ read) :
    (reader.keep c .quoted).Affordable (read + 1) := by
  refine ⟨?_, by simp [Outside, keep]⟩
  change reader.settled + ((reader.field ++ [c]).length + 1) ≤ read + 1
  rw [List.length_append, List.length_singleton]
  omega

/-- One more character pays for what is read with it. -/
theorem Affordable.step (affordable : reader.Affordable read)
    (moved : reader.step c = some after) : after.Affordable (read + 1) := by
  obtain ⟨paid, plain⟩ := affordable
  rw [Reader.step] at moved
  rw [pending] at paid
  cases place : reader.place with
  | start =>
      rw [place] at moved paid
      dsimp only at moved paid
      by_cases quote : c = '"'
      · rw [if_pos quote] at moved
        cases moved
        exact ⟨Nat.succ_le_succ paid, by simp [Outside]⟩
      · rw [if_neg quote] at moved
        exact affordable_of_outside paid (plain (.inl place)) quote moved
  | plain =>
      rw [place] at moved paid
      dsimp only at moved paid
      by_cases quote : c = '"'
      · rw [if_pos quote] at moved
        contradiction
      · rw [if_neg quote] at moved
        exact affordable_of_outside paid (plain (.inr place)) quote moved
  | quoted =>
      rw [place] at moved paid
      dsimp only at moved paid
      split at moved <;> cases moved
      · exact ⟨Nat.succ_le_succ paid, by simp [Outside]⟩
      · exact affordable_keep_quoted paid
  | closing =>
      rw [place] at moved paid
      dsimp only at moved paid
      split at moved
      · cases moved
        exact affordable_keep_quoted (by omega)
      · refine affordable_of_delimit ?_ moved
        have costly := charge_ofList_le reader.field
        omega
  | breaking =>
      rw [place] at moved paid
      dsimp only at moved paid
      split at moved <;> cases moved
      refine ⟨?_, fun _ => by simp [endRecord]⟩
      rw [settled_endRecord]
      exact Nat.le_succ_of_le paid

theorem Affordable.run {text : List Char} (affordable : reader.Affordable read)
    (moved : text.foldlM Reader.step reader = some after) :
    after.Affordable (read + text.length) := by
  induction text generalizing reader read with
  | nil =>
      cases moved
      exact affordable
  | cons c text ih =>
      rw [List.foldlM_cons, Option.bind_eq_bind, Option.bind_eq_some_iff] at moved
      obtain ⟨next, first, rest⟩ := moved
      rw [List.length_cons, Nat.add_comm text.length, ← Nat.add_assoc]
      exact ih (affordable.step first) rest

/-- The records of a text cost as much as its characters at most, and one more where the last line
break is missing. -/
theorem Affordable.finish {rows : List (List String)} (affordable : reader.Affordable read)
    (done : reader.finish = some rows) : cost rows.flatten ≤ read + 1 := by
  obtain ⟨paid, plain⟩ := affordable
  have settled_records : cost reader.records.flatten ≤ reader.settled := by
    rw [settled, cost_append]
    exact Nat.le_add_right _ _
  have ended : cost reader.endRecord.records.flatten =
      reader.settled + charge (String.ofList reader.field) := by
    rw [← settled_endRecord, settled, endRecord, List.append_nil]
  rw [pending] at paid
  rw [Reader.finish] at done
  cases place : reader.place with
  | start =>
      rw [place] at done paid
      dsimp only at done paid
      have cheap := charge_ofList_of_plain (plain (.inl place))
      split at done <;> cases done <;> omega
  | plain =>
      rw [place] at done paid
      dsimp only at done paid
      have cheap := charge_ofList_of_plain (plain (.inr place))
      cases done
      omega
  | quoted => rw [place] at done; contradiction
  | closing =>
      rw [place] at done paid
      dsimp only at done paid
      have costly := charge_ofList_le reader.field
      cases done
      omega
  | breaking => rw [place] at done; contradiction

end Reader

theorem cost_le_of_records?_eq_some {text : String} {rows : List (List String)}
    (read : records? text = some rows) : cost rows.flatten ≤ text.length + 1 := by
  rw [records?, Option.bind_eq_some_iff] at read
  obtain ⟨reader, moved, done⟩ := read
  have affordable := Reader.affordable_fresh.run moved
  rw [Nat.zero_add, String.length_toList] at affordable
  exact affordable.finish done

theorem sum_length_le_cost (fields : List String) :
    (fields.map fun field => field.length + 1).sum ≤ cost fields := by
  induction fields with
  | nil => exact Nat.le_refl 0
  | cons field fields ih =>
      have one : field.length + 1 ≤ charge field := Nat.le_add_right _ _
      rw [cost] at ih ⊢
      rw [List.map_cons, List.map_cons, List.sum_cons, List.sum_cons]
      omega

/-- A text that is no longer than its fields with one character behind each has plain fields
only. -/
theorem plain_of_records?_eq_some {text : String} {rows : List (List String)}
    (short : text.length ≤ (rows.flatten.map fun field => field.length + 1).sum)
    (read : records? text = some rows) : ∀ row ∈ rows, ∀ field ∈ row, Plain field := by
  intro row listed field member
  by_contra quoted
  have affordable := cost_le_of_records?_eq_some read
  obtain ⟨before, behind, split⟩ :=
    List.append_of_mem (List.mem_flatten.mpr ⟨row, listed, member⟩)
  have expensive : charge field = field.length + 3 := by rw [charge, if_neg quoted]
  have first := sum_length_le_cost before
  have last := sum_length_le_cost behind
  rw [split, cost_append, cost, cost, List.map_cons, List.sum_cons, expensive] at affordable
  rw [split, List.map_append, List.sum_append, List.map_cons, List.sum_cons] at short
  rw [cost] at first last
  omega

end Imprint.Csv
