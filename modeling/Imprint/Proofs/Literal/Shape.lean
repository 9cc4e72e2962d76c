import Imprint.Literal.Escape

/-!
# The shape of escaped text

What `escapeChar` writes for one character: a short escape, an escape that only one style needs, a
control character by its code, or the character itself.  Everything that reads or skips escaped
text goes by these cases and not by the definition of `escapeChar`.
-/

namespace Imprint.LiteralStyle

open Text

/-- The quote that surrounds the literals of a style. -/
def quote : LiteralStyle → Char
  | .shell => '\''
  | _ => '"'

/-- The characters that every style between double quotes escapes with one mark. -/
def shortEscapes : List (Char × Char) :=
  [('\\', '\\'), ('"', '"'), ('\n', 'n'), ('\r', 'r'), ('\t', 't')]

/-- The ways in which a character is written between double quotes. -/
inductive Escaped (style : LiteralStyle) (previous : Option Char) (c : Char) : List Char → Prop
  | short {mark : Char} (listed : (c, mark) ∈ shortEscapes) : Escaped style previous c ['\\', mark]
  | question (trigraphs : style = .c) (self : c = '?') (doubled : previous = some '?') :
      Escaped style previous c ['\\', '?']
  | separator (breaks : style = .javaScript) (listed : c = '\u2028' ∨ c = '\u2029') :
      Escaped style previous c ('\\' :: 'u' :: (padded 16 4 c.toNat).map Char.toUpper)
  | control (unprintable : isControl c = true) : Escaped style previous c (style.escapeControl c)
  | plain (notQuote : c ≠ '"') (notBackslash : c ≠ '\\') (notFeed : c ≠ '\n')
      (notReturn : c ≠ '\r') (single : style = .c → c = '?' → previous ≠ some '?')
      (printable : isControl c = false) : Escaped style previous c [c]

/-- Every character is written in one of these ways. -/
theorem escaped_escapeChar (style : LiteralStyle) (previous : Option Char) (c : Char) :
    Escaped style previous c (style.escapeChar previous c) := by
  by_cases listed : c ∈ shortEscapes.map Prod.fst
  · simp only [shortEscapes, List.map_cons, List.map_nil, List.mem_cons, List.not_mem_nil,
      or_false] at listed
    rcases listed with rfl | rfl | rfl | rfl | rfl <;> exact .short (by decide)
  · simp only [shortEscapes, List.map_cons, List.map_nil, List.mem_cons, List.not_mem_nil,
      or_false, not_or] at listed
    obtain ⟨notBackslash, notQuote, notFeed, notReturn, notTab⟩ := listed
    simp only [escapeChar, beq_iff_eq, notBackslash, notQuote, notFeed, notReturn, notTab,
      if_false, Bool.and_eq_true, Bool.or_eq_true]
    split
    · next doubled => exact .question doubled.1.2 doubled.1.1 doubled.2
    · next single =>
        split
        · next separates => exact .separator separates.2 separates.1
        · split
          · next unprintable => exact .control unprintable
          · next printable =>
              exact .plain notQuote notBackslash notFeed notReturn
                (fun trigraphs self doubled => single ⟨⟨self, trigraphs⟩, doubled⟩)
                (Bool.eq_false_iff.mpr printable)

theorem le_toNat_of_not_isControl {c : Char} (printable : isControl c = false) :
    0x20 ≤ c.toNat := by
  simp only [isControl, Bool.or_eq_false_iff, decide_eq_false_iff_not] at printable
  omega

/-- A control character has one of the first 160 codes. -/
theorem toNat_lt_of_isControl {c : Char} (unprintable : isControl c = true) : c.toNat < 0xa0 := by
  simp only [isControl, Bool.or_eq_true, Bool.and_eq_true, decide_eq_true_eq] at unprintable
  omega

end Imprint.LiteralStyle
