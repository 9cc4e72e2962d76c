import Imprint.Pair
import Imprint.Proofs.Token.Literal

/-!
# Frames

With its names filled in, a skeleton is a frame around the values: stretches of text with a place
for a value between any two.  A frame is sealed if each of its places stands between quotes that
are certain to be read as the quotes of a literal.  The identifiers of a sealed frame do not
depend on the values that fill it.
-/

namespace Imprint

/-- A text with places for values: what stands in front of the first place and, for each place,
its field and what stands behind it. -/
structure Frame where
  head : List Char
  places : List (Field × List Char)
  deriving DecidableEq

namespace Frame

/-- The frame with more text in front. -/
def prepend (text : List Char) (frame : Frame) : Frame :=
  { frame with head := text ++ frame.head }

/-- The text of some places and of what stands behind them. -/
def fillPlaces (value : Field → List Char) (places : List (Field × List Char)) : List Char :=
  places.flatMap fun place => value place.1 ++ place.2

@[simp]
theorem fillPlaces_nil (value : Field → List Char) : fillPlaces value [] = [] :=
  rfl

@[simp]
theorem fillPlaces_cons (value : Field → List Char) (field : Field) (next : List Char)
    (places : List (Field × List Char)) :
    fillPlaces value ((field, next) :: places) =
      value field ++ next ++ fillPlaces value places :=
  List.flatMap_cons

/-- The text with a value in each place. -/
def fill (frame : Frame) (value : Field → List Char) : List Char :=
  frame.head ++ fillPlaces value frame.places

@[simp]
theorem fill_prepend (text : List Char) (frame : Frame) (value : Field → List Char) :
    (frame.prepend text).fill value = text ++ frame.fill value := by
  simp [fill, prepend]

end Frame

/-! ## The frame of a skeleton -/

/-- The frame of some segments with the names filled in. -/
def frameOf (spellings : Spellings) : List Segment → Frame
  | [] => ⟨[], []⟩
  | .text written :: rest => (frameOf spellings rest).prepend written.toList
  | .slot ⟨field, .name⟩ :: rest =>
      (frameOf spellings rest).prepend (spellings.get field).toList
  | .slot ⟨field, .value⟩ :: rest =>
      ⟨[], (field, (frameOf spellings rest).head) :: (frameOf spellings rest).places⟩

/-- The frame of a skeleton with the names filled in. -/
def Skeleton.frame (skeleton : Skeleton) (spellings : Spellings) : Frame :=
  frameOf spellings skeleton.segments

theorem toList_join_fill (style : LiteralStyle) (spellings : Spellings) (record : Record)
    (segments : List Segment) :
    (String.join (segments.map (·.fill style spellings record))).toList =
      (frameOf spellings segments).fill fun field =>
        style.escapeChars (record.get field).toList := by
  induction segments with
  | nil => rfl
  | cons segment segments ih =>
      rw [List.map_cons, String.join_cons, String.toList_append, ih]
      rcases segment with written | ⟨field, kind⟩
      · rw [frameOf, Frame.fill_prepend, Segment.fill]
      · cases kind with
        | name => rw [frameOf, Frame.fill_prepend]; rfl
        | value =>
            rw [frameOf, Segment.fill, Slot.fill, LiteralStyle.escape, String.toList_ofList]
            simp [Frame.fill]

/-- A filled skeleton is its frame with the escaped values in their places. -/
theorem Skeleton.toList_fill (skeleton : Skeleton) (style : LiteralStyle) (spellings : Spellings)
    (record : Record) :
    (skeleton.fill style spellings record).toList =
      (skeleton.frame spellings).fill fun field =>
        style.escapeChars (record.get field).toList :=
  toList_join_fill style spellings record skeleton.segments

/-! ## Sealed frames -/

/-- Whether every place stands between quotes.  The text in front of a place is settled up to the
opening quote, and no colon follows the closing one. -/
def sealedPlaces (style : LiteralStyle) (hyphenated : Bool) (head : List Char) :
    List (Field × List Char) → Bool
  | [] => true
  | (_, next) :: places =>
      head.getLast? == some style.quote &&
        settledFrom style.lexicon hyphenated 0 head.dropLast &&
        next.head? == some style.quote && firstInk next.tail != some ':' &&
        (places.isEmpty || (firstInk next.tail).isSome) &&
        sealedPlaces style hyphenated next.tail places

/-- The identifiers around places that stand between quotes. -/
def placeTokens (style : LiteralStyle) (hyphenated : Bool) (head : List Char) :
    List (Field × List Char) → List (List Char)
  | [] => tokens style.lexicon hyphenated head
  | (_, next) :: places =>
      tokens style.lexicon hyphenated head.dropLast ++
        placeTokens style hyphenated next.tail places

namespace Frame

/-- Whether every value of a frame is between quotes. -/
def Sealed (frame : Frame) (style : LiteralStyle) (hyphenated : Bool) : Prop :=
  sealedPlaces style hyphenated frame.head frame.places = true
deriving Decidable

/-- The identifiers of a frame without values. -/
def tokens (frame : Frame) (style : LiteralStyle) (hyphenated : Bool) : List (List Char) :=
  placeTokens style hyphenated frame.head frame.places

/-- The identifiers of a text with quoted values in it are those around the values. -/
theorem tokens_fillPlaces {style : LiteralStyle} {hyphenated : Bool} {head : List Char}
    {places : List (Field × List Char)}
    (sealed : sealedPlaces style hyphenated head places = true) (value : Field → List Char) :
    Imprint.tokens style.lexicon hyphenated
        (head ++ fillPlaces (fun field => style.escapeChars (value field)) places) =
      placeTokens style hyphenated head places := by
  induction places generalizing head with
  | nil => rw [fillPlaces_nil, List.append_nil, placeTokens]
  | cons place places ih =>
      obtain ⟨field, next⟩ := place
      simp only [sealedPlaces, Bool.and_eq_true, beq_iff_eq, bne_iff_ne] at sealed
      obtain ⟨⟨⟨⟨⟨opens, settled⟩, closes⟩, noColon⟩, ink⟩, others⟩ := sealed
      obtain ⟨before, rfl⟩ := List.getLast?_eq_some_iff.mp opens
      obtain ⟨behind, rfl⟩ := List.head?_eq_some_iff.mp closes
      rw [List.dropLast_concat] at settled
      rw [List.tail_cons] at noColon ink others
      have noKey : firstInk (behind ++
          fillPlaces (fun field => style.escapeChars (value field)) places) ≠ some ':' := by
        rcases Bool.or_eq_true_iff.mp ink with last | inked
        · rw [List.isEmpty_iff.mp last, fillPlaces_nil, List.append_nil]
          exact noColon
        · rwa [firstInk_append_of_isSome inked]
      rw [fillPlaces_cons, placeTokens, List.dropLast_concat, List.tail_cons, ← ih others,
        ← style.tokens_escapeChars (value field) noKey, ← tokens_append settled]
      simp only [List.append_assoc, List.cons_append, List.nil_append]

/-- The identifiers of a sealed frame do not depend on its values. -/
theorem tokens_fill {frame : Frame} {style : LiteralStyle} {hyphenated : Bool}
    (sealed : frame.Sealed style hyphenated) (value : Field → List Char) :
    Imprint.tokens style.lexicon hyphenated
        (frame.fill fun field => style.escapeChars (value field)) =
      frame.tokens style hyphenated :=
  tokens_fillPlaces sealed value

end Frame

end Imprint
