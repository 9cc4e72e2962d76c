import Imprint.Proofs.Literal.Reader

/-!
# Escaped text before literals are read

Two languages rewrite a text before they look for literals: C replaces trigraphs and Java translates
Unicode escapes.  Both leave an escaped value as it is, because it never holds two question marks
side by side and never a backslash that begins a Unicode escape.
-/

namespace Imprint

open Text

/-! ## Trigraphs -/

theorem replaceTrigraphs_cons {c : Char} (noMark : c ≠ '?') (rest : List Char) :
    replaceTrigraphs (c :: rest) = c :: replaceTrigraphs rest := by
  rw [replaceTrigraphs]
  intro third more first
  exact absurd first noMark

/-- A question mark without another one behind it begins no trigraph. -/
theorem replaceTrigraphs_question {next : Char} (noMark : next ≠ '?') (rest : List Char) :
    replaceTrigraphs ('?' :: next :: rest) = '?' :: replaceTrigraphs (next :: rest) := by
  rw [replaceTrigraphs]
  rintro third more - second
  exact noMark (List.cons.inj second).1

theorem replaceTrigraphs_append {text : List Char} (noMark : ∀ c ∈ text, c ≠ '?')
    (rest : List Char) : replaceTrigraphs (text ++ rest) = text ++ replaceTrigraphs rest := by
  induction text with
  | nil => rfl
  | cons c text ih =>
      rw [List.cons_append, replaceTrigraphs_cons (noMark c List.mem_cons_self),
        ih fun d member => noMark d (List.mem_cons_of_mem c member), List.cons_append]

namespace LiteralStyle

/-- A control character is written without question marks. -/
theorem ne_question_of_mem_escapeControl {control c : Char}
    (member : c ∈ LiteralStyle.c.escapeControl control) : c ≠ '?' := by
  obtain ⟨byte, _, written⟩ := List.mem_flatMap.mp member
  rcases List.mem_cons.mp written with rfl | digit
  · decide
  · exact ne_of_mem_padded (by omega) (by omega) digit (by decide)

theorem escapeControl_ne_nil (control : Char) : LiteralStyle.c.escapeControl control ≠ [] := by
  cases bytes : String.utf8EncodeChar control with
  | nil => exact absurd bytes String.utf8EncodeChar_ne_nil
  | cons byte more =>
      rw [escapeControl, utf8Bytes, bytes, List.map_cons, List.flatMap_cons, octalByte]
      exact List.cons_ne_nil _ _

/-- What is written behind a question mark never begins with one. -/
theorem escapeFrom_after_question (value rest : List Char) :
    ∃ next more, next ≠ '?' ∧
      LiteralStyle.c.escapeFrom (some '?') value ++ '"' :: rest = next :: more := by
  cases value with
  | nil => exact ⟨'"', rest, by decide, rfl⟩
  | cons c value =>
      rw [escapeFrom, List.append_assoc]
      have shape := escaped_escapeChar .c (some '?') c
      generalize LiteralStyle.c.escapeChar (some '?') c = written at shape
      cases shape with
      | short listed => exact ⟨'\\', _, by decide, rfl⟩
      | question => exact ⟨'\\', _, by decide, rfl⟩
      | separator breaks => contradiction
      | control unprintable =>
          cases bytes : LiteralStyle.c.escapeControl c with
          | nil => exact absurd bytes (escapeControl_ne_nil c)
          | cons next more =>
              refine ⟨next, _, ?_, rfl⟩
              exact ne_question_of_mem_escapeControl (bytes ▸ List.mem_cons_self)
      | plain _ _ _ _ single => exact ⟨c, _, fun self => single rfl self rfl, rfl⟩

/-- An escaped value holds no trigraph, and none begins in it. -/
theorem replaceTrigraphs_escapeFrom (previous : Option Char) (value rest : List Char) :
    replaceTrigraphs (LiteralStyle.c.escapeFrom previous value ++ '"' :: rest) =
      LiteralStyle.c.escapeFrom previous value ++ '"' :: replaceTrigraphs rest := by
  induction value generalizing previous with
  | nil => exact replaceTrigraphs_cons (by decide) rest
  | cons c value ih =>
      rw [escapeFrom, List.append_assoc, List.append_assoc, ← ih (some c)]
      -- After a question mark the next character decides whether a trigraph can begin.
      have afterQuestion (self : c = '?') (written : List Char) (noMark : ∀ d ∈ written, d ≠ '?') :
          replaceTrigraphs (written ++ '?' ::
              (LiteralStyle.c.escapeFrom (some c) value ++ '"' :: rest)) =
            written ++ '?' ::
              replaceTrigraphs (LiteralStyle.c.escapeFrom (some c) value ++ '"' :: rest) := by
        subst self
        obtain ⟨next, more, notMark, follows⟩ := escapeFrom_after_question value rest
        rw [follows, replaceTrigraphs_append noMark, replaceTrigraphs_question notMark]
      have shape := escaped_escapeChar .c previous c
      generalize LiteralStyle.c.escapeChar previous c = written at shape
      cases shape with
      | @short mark listed =>
          apply replaceTrigraphs_append
          simp only [shortEscapes, List.mem_cons, Prod.mk.injEq, List.not_mem_nil, or_false]
            at listed
          rcases listed with ⟨-, rfl⟩ | ⟨-, rfl⟩ | ⟨-, rfl⟩ | ⟨-, rfl⟩ | ⟨-, rfl⟩ <;> simp
      | question _ self => exact afterQuestion self ['\\'] (by simp)
      | separator breaks => contradiction
      | control unprintable =>
          exact replaceTrigraphs_append (fun d => ne_question_of_mem_escapeControl) _
      | plain =>
          by_cases self : c = '?'
          · have step := afterQuestion self [] (by simp)
            rw [self] at step ⊢
            exact step
          · exact replaceTrigraphs_cons self _

end LiteralStyle

/-! ## Unicode escapes -/

theorem unicodeEscape?_eq_none {next : Char} (noMark : next ≠ 'u') (rest : List Char) :
    unicodeEscape? (next :: rest) = none := by
  simp [unicodeEscape?, noMark]

theorem translateUnicodeFrom_cons {c : Char} (noBackslash : c ≠ '\\') (odd : Bool)
    (rest : List Char) :
    translateUnicodeFrom 0 odd (c :: rest) = c :: translateUnicodeFrom 0 false rest := by
  simp [translateUnicodeFrom, noBackslash]

theorem translateUnicodeFrom_append {text : List Char} (noBackslash : ∀ c ∈ text, c ≠ '\\')
    (rest : List Char) :
    translateUnicodeFrom 0 false (text ++ rest) = text ++ translateUnicodeFrom 0 false rest := by
  induction text with
  | nil => rfl
  | cons c text ih =>
      rw [List.cons_append, translateUnicodeFrom_cons (noBackslash c List.mem_cons_self),
        ih fun d member => noBackslash d (List.mem_cons_of_mem c member), List.cons_append]

/-- A backslash with any mark but a `u` takes the mark along. -/
theorem translateUnicodeFrom_escape {mark : Char} (noMark : mark ≠ 'u') (rest : List Char) :
    translateUnicodeFrom 0 false ('\\' :: mark :: rest) =
      '\\' :: mark :: translateUnicodeFrom 0 false rest := by
  simp [translateUnicodeFrom, unicodeEscape?_eq_none noMark]

namespace LiteralStyle

/-- No backslash of an escaped value begins a Unicode escape. -/
theorem translateUnicodeFrom_escapeFrom (previous : Option Char) (value rest : List Char) :
    translateUnicodeFrom 0 false (LiteralStyle.java.escapeFrom previous value ++ '"' :: rest) =
      LiteralStyle.java.escapeFrom previous value ++ '"' :: translateUnicodeFrom 0 false rest := by
  induction value generalizing previous with
  | nil => exact translateUnicodeFrom_cons (by decide) false rest
  | cons c value ih =>
      rw [escapeFrom, List.append_assoc, List.append_assoc, ← ih (some c)]
      have shape := escaped_escapeChar .java previous c
      generalize LiteralStyle.java.escapeChar previous c = written at shape
      cases shape with
      | short listed =>
          apply translateUnicodeFrom_escape
          simp only [shortEscapes, List.mem_cons, Prod.mk.injEq, List.not_mem_nil, or_false]
            at listed
          rcases listed with ⟨-, rfl⟩ | ⟨-, rfl⟩ | ⟨-, rfl⟩ | ⟨-, rfl⟩ | ⟨-, rfl⟩ <;> decide
      | question trigraphs => contradiction
      | separator breaks => contradiction
      | control unprintable =>
          cases written : padded 8 3 c.toNat with
          | nil => simp [padded] at written
          | cons digit digits =>
              have octal : ∀ mark, isDigitOf 8 mark = false → ∀ d ∈ digit :: digits, d ≠ mark :=
                fun mark noDigit d member =>
                  ne_of_mem_padded (by omega) (by omega) (written ▸ member) noDigit
              have noMark := octal 'u' (by decide) digit List.mem_cons_self
              have noBackslash : ∀ d ∈ digits, d ≠ '\\' := fun d member =>
                octal '\\' (by decide) d (List.mem_cons_of_mem digit member)
              rw [escapeControl, octalByte, written, List.cons_append, List.cons_append,
                translateUnicodeFrom_escape noMark, translateUnicodeFrom_append noBackslash]
              rfl
      | plain _ notBackslash => exact translateUnicodeFrom_cons notBackslash false _

end LiteralStyle

end Imprint
