import Imprint.Proofs.Literal.RoundTrip

/-!
# Ends of lines inside literals

No literal between double quotes can hold an end of line as it is, and languages differ in what
ends a line.  Escaping writes line feeds, carriage returns and control characters in a way that is
read back, and in one style the line and paragraph separators too.  Main statement: of the
characters that end a line in the language of a style, those two are the only ones that can stay
in an escaped value, in the one other style where they end a line.
-/

namespace Imprint

open Text

/-- Whether a character is a printable one among the first 128. -/
def isPlain (c : Char) : Bool := 0x20 ≤ c.toNat && c.toNat < 0x7f

theorem isPlain_of_isDigitOf {base : Nat} {c : Char} (digit : isDigitOf base c = true) :
    isPlain c = true := by
  rw [isDigitOf, Option.any_eq_true] at digit
  obtain ⟨value, known, -⟩ := digit
  have within {first last : Char} (least : 0x20 ≤ first.toNat) (most : last.toNat < 0x7f)
      (above : first ≤ c) (below : c ≤ last) : isPlain c = true := by
    rw [isPlain, Bool.and_eq_true, decide_eq_true_eq, decide_eq_true_eq]
    exact ⟨Nat.le_trans least (UInt32.le_iff_toNat_le.mp above),
      Nat.lt_of_le_of_lt (UInt32.le_iff_toNat_le.mp below) most⟩
  unfold hexValue? at known
  split at known
  · next decimal =>
      obtain ⟨above, below⟩ := Bool.and_eq_true_iff.mp decimal
      exact within (by decide) (by decide) (of_decide_eq_true above) (of_decide_eq_true below)
  · split at known
    · next small => exact within (by decide) (by decide) small.1 small.2
    · split at known
      · next capital => exact within (by decide) (by decide) capital.1 capital.2
      · contradiction

namespace LiteralStyle

variable {style : LiteralStyle} {c : Char}

/-! ## What escaping writes -/

theorem isPlain_of_mem_octalByte {byte : Nat} {written : Char}
    (member : written ∈ octalByte byte) : isPlain written = true := by
  rcases List.mem_cons.mp member with rfl | digit
  · decide
  · exact isPlain_of_isDigitOf (isDigitOf_padded (by omega) (by omega) 3 byte written digit)

/-- A control character is written with printable characters, unless it is left as it is. -/
theorem of_mem_escapeControl {written : Char} (member : written ∈ style.escapeControl c) :
    written = c ∨ isPlain written = true := by
  have hexadecimal {width : Nat} (digit : written ∈ padded 16 width c.toNat) :
      isPlain written = true :=
    isPlain_of_isDigitOf (isDigitOf_padded (by omega) (by omega) width c.toNat written digit)
  cases style with
  | c =>
      obtain ⟨byte, -, digit⟩ := List.mem_flatMap.mp member
      exact .inr (isPlain_of_mem_octalByte digit)
  | java => exact .inr (isPlain_of_mem_octalByte member)
  | python | javaScript | go | cSharp | json =>
      simp only [escapeControl, List.mem_cons] at member
      rcases member with rfl | rfl | digit
      · exact .inr (by decide)
      · exact .inr (by decide)
      · exact .inr (hexadecimal digit)
  | rust =>
      simp only [escapeControl, List.mem_cons, List.mem_append, List.not_mem_nil, or_false]
        at member
      rcases member with rfl | rfl | rfl | digit | rfl
      · exact .inr (by decide)
      · exact .inr (by decide)
      · exact .inr (by decide)
      · exact .inr (isPlain_of_isDigitOf
          (isDigitOf_toDigits (by omega) (by omega) c.toNat written digit))
      · exact .inr (by decide)
  | shell => exact .inl (List.mem_singleton.mp member)

/-- Whatever is written for a character is the character itself or printable. -/
theorem of_mem_escapeChar {previous : Option Char} {written : Char}
    (member : written ∈ style.escapeChar previous c) :
    written = c ∨ isPlain written = true := by
  have shape := escaped_escapeChar style previous c
  generalize style.escapeChar previous c = escape at shape member
  cases shape with
  | short listed =>
      have marks : ∀ entry ∈ shortEscapes, isPlain entry.2 = true := by decide
      rcases List.mem_cons.mp member with rfl | mark
      · exact .inr (by decide)
      · rw [List.mem_singleton.mp mark]
        exact .inr (marks _ listed)
  | question =>
      have marks : ['\\', '?'].all isPlain = true := by decide
      exact .inr (List.all_eq_true.mp marks written member)
  | separator breaks listed =>
      have marks : ('\\' :: 'u' :: (padded 16 4 c.toNat).map Char.toUpper).all isPlain = true := by
        rcases listed with rfl | rfl <;> decide
      exact .inr (List.all_eq_true.mp marks written member)
  | control => exact of_mem_escapeControl member
  | plain => exact .inl (List.mem_singleton.mp member)

/-- Only question marks are written with an eye to what stands before them. -/
theorem escapeChar_eq_of_ne_question (noQuestion : c ≠ '?') (first second : Option Char) :
    style.escapeChar first c = style.escapeChar second c := by
  simp [escapeChar, noQuestion]

theorem escapeFrom_append (style : LiteralStyle) (previous : Option Char)
    (before after : List Char) :
    style.escapeFrom previous (before ++ after) =
      style.escapeFrom previous before ++ style.escapeFrom (before.getLast?.or previous) after := by
  induction before generalizing previous with
  | nil => rfl
  | cons first before ih =>
      rw [List.cons_append, escapeFrom, ih, escapeFrom, List.append_assoc, List.getLast?_cons]
      cases before.getLast? <;> rfl

/-- A character that is not printable occurs in an escaped text only where it is left as it is. -/
theorem mem_escapeFrom_iff (unprintable : isPlain c = false) (previous : Option Char)
    (value : List Char) :
    c ∈ style.escapeFrom previous value ↔ c ∈ value ∧ c ∈ style.escapeChar none c := by
  have noQuestion : c ≠ '?' := by
    rintro rfl
    contradiction
  induction value generalizing previous with
  | nil => simp [escapeFrom]
  | cons first value ih =>
      rw [escapeFrom, List.mem_append, List.mem_cons, or_and_right]
      refine or_congr ?_ (ih (some first))
      constructor
      · intro member
        rcases of_mem_escapeChar member with rfl | printable
        · rw [escapeChar_eq_of_ne_question noQuestion none previous]
          exact ⟨rfl, member⟩
        · rw [unprintable] at printable
          contradiction
      · rintro ⟨rfl, member⟩
        rwa [escapeChar_eq_of_ne_question noQuestion previous none]

/-! ## Ends of lines -/

/-- The line separator and the paragraph separator. -/
def separators : List Char := ['\u2028', '\u2029']

/-- The characters that end a line in the language of a style.  Two languages know others than line
feed and carriage return.  Between the single quotes of the shell no character ends a line. -/
def lineEnds : LiteralStyle → List Char
  | .c | .go | .rust | .python | .java | .json => ['\n', '\r']
  | .javaScript => '\n' :: '\r' :: separators
  | .cSharp => '\n' :: '\r' :: '\u0085' :: separators
  | .shell => []

/-- Whether a style leaves an end of line as it is. -/
def LeavesLineEnd (style : LiteralStyle) (c : Char) : Prop := style = .cSharp ∧ c ∈ separators

instance (style : LiteralStyle) (c : Char) : Decidable (style.LeavesLineEnd c) :=
  inferInstanceAs (Decidable (_ ∧ _))

theorem of_mem_lineEnds (ends : c ∈ style.lineEnds) :
    isPlain c = false ∧ (c ∈ style.escapeChar none c ↔ style.LeavesLineEnd c) := by
  have checked : ∀ style ∈ all, style.lineEnds.all (fun c => isPlain c == false &&
      decide (c ∈ style.escapeChar none c ↔ style.LeavesLineEnd c)) = true := by
    decide
  have found := List.all_eq_true.mp (checked style style.mem_all) c ends
  rwa [Bool.and_eq_true, beq_iff_eq, decide_eq_true_eq] at found

/-- Behind a backslash some marks are an escape of a style's language that stands for a character,
whatever follows. -/
def StandsFor (style : LiteralStyle) (marks : List Char) (c : Char) : Prop :=
  ∃ dialect, style.dialect? = some dialect ∧
    ∀ rest, dialect.escape? (marks ++ rest) = some (String.utf8EncodeChar c, marks.length)

/-- An end of line that a style does not leave is written as an escape that stands for it. -/
theorem exists_standsFor (ends : c ∈ style.lineEnds) (changed : ¬ style.LeavesLineEnd c) :
    ∃ marks, style.StandsFor marks c ∧
      ∀ previous, style.escapeChar previous c = '\\' :: marks := by
  obtain ⟨dialect, between⟩ : ∃ dialect, style.dialect? = some dialect := by
    cases style with
    | shell => contradiction
    | c | go | rust | python | javaScript | java | cSharp | json => exact ⟨_, rfl⟩
  by_cases feed : c = '\n'
  · subst feed
    exact ⟨['n'], ⟨dialect, between, escape?_short between (by decide)⟩, fun _ => rfl⟩
  by_cases carriage : c = '\r'
  · subst carriage
    exact ⟨['r'], ⟨dialect, between, escape?_short between (by decide)⟩, fun _ => rfl⟩
  cases style with
  | c | go | rust | python | java | json | shell => simp [lineEnds, feed, carriage] at ends
  | javaScript =>
      have separates : c = '\u2028' ∨ c = '\u2029' := by
        simpa [lineEnds, separators, feed, carriage] using ends
      cases between
      rcases separates with rfl | rfl <;> exact ⟨_, ⟨_, rfl, fun _ => rfl⟩, fun _ => rfl⟩
  | cSharp =>
      have unseparated : c ∉ separators := fun listed => changed ⟨rfl, listed⟩
      have nextLine : c = '\u0085' := by
        simpa [lineEnds, feed, carriage, unseparated] using ends
      subst nextLine
      cases between
      exact ⟨_, ⟨_, rfl, fun _ => rfl⟩, fun _ => rfl⟩

/-- An end of line stays in an escaped value exactly if it is a separator in the style that leaves
these.  Every other end of line is written, wherever it stands, as an escape that is read back as
the same character. -/
theorem lineEnd_mem_escape_iff (ends : c ∈ style.lineEnds) (value : String) :
    (c ∈ (style.escape value).toList ↔ c ∈ value.toList ∧ style.LeavesLineEnd c) ∧
      (¬ style.LeavesLineEnd c → ∀ before after, value.toList = before ++ c :: after →
        ∃ marks, style.StandsFor marks c ∧
          (style.escape value).toList =
            style.escapeChars before ++
              '\\' :: (marks ++ style.escapeFrom (some c) after)) := by
  have between (text : List Char) : style.escapeChars text = style.escapeFrom none text := by
    cases style with
    | shell => contradiction
    | c | go | rust | python | javaScript | java | cSharp | json => rfl
  obtain ⟨unprintable, left⟩ := of_mem_lineEnds ends
  rw [escape, String.toList_ofList, between]
  constructor
  · rw [mem_escapeFrom_iff unprintable, left]
  · intro changed before after split
    obtain ⟨marks, stands, written⟩ := exists_standsFor ends changed
    refine ⟨marks, stands, ?_⟩
    rw [split, between, escapeFrom_append, escapeFrom, written, List.cons_append]

/-- A next-line character between two separators is escaped in the style that leaves these. -/
theorem lineEnd_mem_escape_iff_cSharp_nextLine :
    '\u0085' ∈ cSharp.lineEnds ∧ ¬ cSharp.LeavesLineEnd '\u0085' ∧
      '\u0085' ∉ (cSharp.escape "\u2028\u0085\u2029").toList ∧
      ∃ marks, cSharp.StandsFor marks '\u0085' ∧
        (cSharp.escape "\u2028\u0085\u2029").toList =
          cSharp.escapeChars ['\u2028'] ++
            '\\' :: (marks ++ cSharp.escapeFrom (some '\u0085') ['\u2029']) := by
  have ends : '\u0085' ∈ cSharp.lineEnds := by decide
  have changed : ¬ cSharp.LeavesLineEnd '\u0085' := by decide
  obtain ⟨stays, written⟩ := lineEnd_mem_escape_iff ends "\u2028\u0085\u2029"
  exact ⟨ends, changed, fun member => changed (stays.mp member).2,
    written changed ['\u2028'] ['\u2029'] (by decide)⟩

/-- A line separator in a value is an end of line inside the literal. -/
theorem escape_cSharp_lineSeparator :
    '\u2028' ∈ cSharp.lineEnds ∧ cSharp.escape "1.0\u2028" = "1.0\u2028" ∧
      '\u2028' ∈ (cSharp.escape "1.0\u2028").toList := by
  decide

end LiteralStyle

end Imprint
