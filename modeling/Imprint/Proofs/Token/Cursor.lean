import Imprint.Proofs.Token.Comment

/-!
# Reading by an index

The tokenizer as a machine that keeps nothing but an index into the text.  A turn looks at the
characters around the index, moves the index and cuts an identifier out of the text by its ends.
It fails where it would look at a character that is not there or cut outside of the text.  Main
statements: no turn fails, a reading that ends finds the identifiers of the text, and every reading
ends exactly if no line comment is opened by a line break, as in the lexicons of all styles.
-/

namespace Imprint

open Text

/-- What an end of reading relies on: no line comment is opened by a line break, which would close
it again where it began. -/
def Lexicon.IsRegular (lexicon : Lexicon) : Prop :=
  ∀ marker ∈ lexicon.lineComments, marker.toList.head? ≠ some '\n'

theorem LiteralStyle.isRegular (style : LiteralStyle) : style.lexicon.IsRegular := by
  intro marker listed breaks
  exact (lineComment_inert listed).2 (List.mem_of_mem_head? breaks)

/-! ## Beginnings of a text -/

theorem literalBody_prefix (quote : Char) (escapes : Bool) (text : List Char) :
    literalBody quote escapes text <+: text := by
  induction text using literalBody.induct quote escapes with
  | case1 => exact List.prefix_rfl
  | case2 c ends => rw [literalBody, if_pos ends]; exact List.nil_prefix
  | case3 c goesOn => simp only [literalBody, if_neg goesOn, List.prefix_refl]
  | case4 c next rest ends => rw [literalBody, if_pos ends]; exact List.nil_prefix
  | case5 c next rest goesOn escaped ih =>
      rw [literalBody, if_neg goesOn, if_pos escaped, List.prefix_cons_inj, List.prefix_cons_inj]
      exact ih
  | case6 c next rest goesOn single ih =>
      rw [literalBody, if_neg goesOn, if_neg single, List.prefix_cons_inj]
      exact ih

theorem identifierRun_prefix (hyphenated : Bool) (text : List Char) :
    identifierRun hyphenated text <+: text := by
  induction text using identifierRun.induct hyphenated with
  | case1 => exact List.prefix_rfl
  | case2 c rest goesOn ih =>
      rw [identifierRun, if_pos goesOn, List.prefix_cons_inj]
      exact ih
  | case3 c rest stops => rw [identifierRun, if_neg stops]; exact List.nil_prefix

namespace Cursor

/-! ## One turn -/

/-- Whether a marker stands at an index.  The characters behind the end of a text differ from every
character, and an empty marker stands nowhere. -/
def standsAt (text : List Char) (index : Nat) (marker : List Char) : Bool :=
  !marker.isEmpty && agrees index marker
where
  /-- Whether a text goes on with the given characters at an index. -/
  agrees : Nat → List Char → Bool
    | _, [] => true
    | index, c :: marker => text[index]? == some c && agrees (index + 1) marker

/-- The characters from one index up to another, which must lie in the text in this order. -/
def cut? (text : List Char) (start stop : Nat) : Option (List Char) :=
  if start ≤ stop ∧ stop ≤ text.length then some (text.extract start stop) else none

/-- Where an index that moves over a text comes to rest: behind the end, or where its step is zero.
It fails with its step. -/
def advance (text : List Char) (step : Nat → Option Nat) (index : Nat) : Option Nat :=
  if index < text.length then
    match step index with
    | none => none
    | some 0 => some index
    | some (more + 1) => advance text step (index + (more + 1))
  else some index
termination_by text.length - index

/-- Goes on over the characters that belong to a class. -/
def whileStep (text : List Char) (belongs : Char → Bool) (index : Nat) : Option Nat :=
  text[index]?.map fun c => if belongs c then 1 else 0

/-- Goes on to the mark that closes a comment. -/
def blockStep (text : List Char) (closing : List Char) (index : Nat) : Option Nat :=
  some (if standsAt text index closing then 0 else 1)

/-- Goes on to the quote that closes a literal, which may lead behind the end of the text. -/
def literalStep (text : List Char) (quote : Char) (escapes : Bool) (index : Nat) : Option Nat :=
  text[index]?.map fun c => if c == quote then 0 else if escapes && c == '\\' then 2 else 1

/-- Goes on to the end of an identifier. -/
def identifierStep (text : List Char) (hyphenated : Bool) (index : Nat) : Option Nat :=
  text[index]?.map fun c =>
    if isAlphanumeric c || c == '_' ||
        (hyphenated && c == '-' && text[index + 1]?.any isAlphanumeric) then 1
    else 0

/-- The next index behind a literal whose quote stands at an index, and the key that it is. -/
def literalTurn (lexicon : Lexicon) (text : List Char) (quote : Char) (index : Nat) :
    Option (Nat × Option (List Char)) := do
  let reached ← advance text (literalStep text quote lexicon.escapesInQuotes) (index + 1)
  let stop := min reached text.length
  let ink ← advance text (whileStep text isBlank) (stop + 1)
  if text[ink]? == some ':' then
    let literal ← cut? text (index + 1) stop
    some (stop + 1, if isKey literal then some literal else none)
  else some (stop + 1, none)

/-- The next index behind an identifier that begins at an index, and the identifier. -/
def identifierTurn (hyphenated : Bool) (text : List Char) (index : Nat) :
    Option (Nat × Option (List Char)) := do
  let stop ← advance text (identifierStep text hyphenated) index
  let run ← cut? text index stop
  some (stop, some run)

/-- The next index where no comment begins, and the identifier that has been read. -/
def plainTurn (lexicon : Lexicon) (hyphenated : Bool) (text : List Char) (c : Char) (index : Nat) :
    Option (Nat × Option (List Char)) :=
  if lexicon.quotes.contains c then literalTurn lexicon text c index
  else if c == '\\' then some (index + 2, none)
  else if startsIdentifier c then identifierTurn hyphenated text index
  else some (index + 1, none)

/-- One turn of reading: the next index, and the identifier that has been read if there is one. -/
def turn (lexicon : Lexicon) (hyphenated : Bool) (text : List Char) (index : Nat) :
    Option (Nat × Option (List Char)) := do
  let c ← text[index]?
  if lexicon.lineComments.any fun marker => standsAt text index marker.toList then
    let next ← advance text (whileStep text (· != '\n')) index
    some (next, none)
  else
    match lexicon.blockComment.filter fun marks => standsAt text index marks.1.toList with
    | some (opening, closing) =>
        let inside ← advance text (blockStep text closing.toList) (index + opening.length)
        some (inside + closing.length, none)
    | none => plainTurn lexicon hyphenated text c index

/-- Reading from an index on ends without a failure and finds the given identifiers. -/
inductive Reads (lexicon : Lexicon) (hyphenated : Bool) (text : List Char) :
    Nat → List (List Char) → Prop
  | done {index : Nat} (outside : text.length ≤ index) : Reads lexicon hyphenated text index []
  | turn {index next : Nat} {token : Option (List Char)} {found : List (List Char)}
      (inside : index < text.length)
      (turned : turn lexicon hyphenated text index = some (next, token))
      (behind : Reads lexicon hyphenated text next found) :
      Reads lexicon hyphenated text index (token.toList ++ found)

variable {lexicon : Lexicon} {hyphenated : Bool} {text : List Char} {index : Nat}

/-- Reading finds one list of identifiers at most. -/
theorem Reads.unique {found other : List (List Char)}
    (first : Reads lexicon hyphenated text index found)
    (second : Reads lexicon hyphenated text index other) : found = other := by
  induction first generalizing other with
  | done outside =>
      cases second with
      | done => rfl
      | turn inside => omega
  | turn inside turned _ ih =>
      cases second with
      | done outside => omega
      | turn _ turned' behind =>
          rw [turned, Option.some.injEq, Prod.mk.injEq] at turned'
          obtain ⟨rfl, rfl⟩ := turned'
          rw [ih behind]

/-- There is no reading from an index that its turn leaves where it is. -/
theorem Reads.moves {found : List (List Char)}
    (reads : Reads lexicon hyphenated text index found) (inside : index < text.length)
    (token : Option (List Char)) :
    Cursor.turn lexicon hyphenated text index ≠ some (index, token) := by
  induction reads with
  | done outside => omega
  | turn inside turned _ ih =>
      intro rests
      rw [rests, Option.some.injEq, Prod.mk.injEq] at turned
      obtain ⟨rfl, -⟩ := turned
      exact ih inside rests

/-! ## The text from an index on -/

theorem getElem?_of_drop {c : Char} {rest : List Char} (here : text.drop index = c :: rest) :
    text[index]? = some c := by
  rw [← List.head?_drop, here, List.head?_cons]

theorem drop_succ_of_drop {c : Char} {rest : List Char} (here : text.drop index = c :: rest) :
    text.drop (index + 1) = rest := by
  rw [← List.tail_drop, here, List.tail_cons]

theorem lt_length_of_drop {c : Char} {rest : List Char} (here : text.drop index = c :: rest) :
    index < text.length := by
  rw [← Nat.not_le, ← List.drop_eq_nil_iff, here]
  exact List.cons_ne_nil c rest

theorem standsAt_eq (marker : List Char) :
    standsAt text index marker = (!marker.isEmpty && marker.isPrefixOf (text.drop index)) := by
  have agree : standsAt.agrees text index marker = marker.isPrefixOf (text.drop index) := by
    induction marker generalizing index with
    | nil => rw [standsAt.agrees, List.isPrefixOf_nil_left]
    | cons c marker ih =>
        rw [standsAt.agrees, ih]
        cases here : text.drop index with
        | nil =>
            rw [List.getElem?_eq_none (List.drop_eq_nil_iff.mp here)]
            rfl
        | cons first rest =>
            rw [getElem?_of_drop here, drop_succ_of_drop here, List.isPrefixOf,
              Option.some_beq_some, BEq.comm]
  rw [standsAt, agree]

/-- A piece at an index lies in the text and is cut out by its ends. -/
theorem cut?_of_drop {piece rest : List Char} (here : text.drop index = piece ++ rest)
    (inside : index ≤ text.length) : cut? text index (index + piece.length) = some piece := by
  have room : text.length - index = piece.length + rest.length := by
    rw [← List.length_drop, here, List.length_append]
  rw [cut?, if_pos (by omega), List.extract_eq_take_drop, here, Nat.add_sub_cancel_left,
    List.take_left]

/-! ## Moving the index -/

/-- An index moves by the distance that its steps count off from the text in front of it. -/
theorem advance_eq {step : Nat → Option Nat} (distance : List Char → Nat)
    (finished : distance [] = 0)
    (each : ∀ index c rest, text.drop index = c :: rest →
      (step index = some 0 ∧ distance (c :: rest) = 0) ∨
        ∃ more, step index = some (more + 1) ∧
          distance (c :: rest) = distance (rest.drop more) + (more + 1))
    (index : Nat) : advance text step index = some (index + distance (text.drop index)) := by
  induction left : text.length - index using Nat.strong_induction_on generalizing index with
  | _ left ih =>
      cases here : text.drop index with
      | nil =>
          rw [advance, if_neg (Nat.not_lt.mpr (List.drop_eq_nil_iff.mp here)), finished,
            Nat.add_zero]
      | cons c rest =>
          have inside := lt_length_of_drop here
          rw [advance, if_pos inside]
          rcases each index c rest here with ⟨rests, none⟩ | ⟨more, goesOn, count⟩
          · rw [rests, none]
            rfl
          · have behind : text.drop (index + (more + 1)) = rest.drop more := by
              rw [← List.drop_drop, here, List.drop_succ_cons]
            rw [goesOn, count]
            dsimp only
            rw [ih _ (by omega) (index + (more + 1)) rfl, behind, Nat.add_assoc,
              Nat.add_comm _ (more + 1)]

theorem advance_whileStep (belongs : Char → Bool) (index : Nat) :
    advance text (whileStep text belongs) index =
      some (index + ((text.drop index).takeWhile belongs).length) := by
  refine advance_eq (fun rest => (rest.takeWhile belongs).length) rfl
    (fun index c rest here => ?_) index
  rw [whileStep, getElem?_of_drop here, List.takeWhile_cons]
  by_cases goesOn : belongs c = true
  · exact .inr ⟨0, by simp [goesOn], by simp [goesOn]⟩
  · exact .inl ⟨by simp [goesOn], by simp [goesOn]⟩

theorem advance_blockStep (closing : List Char) (index : Nat) :
    advance text (blockStep text closing) index =
      some (index + distanceTo closing (text.drop index)) := by
  refine advance_eq (distanceTo closing) rfl (fun index c rest here => ?_) index
  rw [blockStep, standsAt_eq, here, distanceTo]
  by_cases stands : (!closing.isEmpty && closing.isPrefixOf (c :: rest)) = true
  · exact .inl ⟨by rw [if_pos stands], if_pos stands⟩
  · exact .inr ⟨0, by rw [if_neg stands], by rw [if_neg stands]; rfl⟩

theorem advance_identifierStep (index : Nat) :
    advance text (identifierStep text hyphenated) index =
      some (index + (identifierRun hyphenated (text.drop index)).length) := by
  refine advance_eq (fun rest => (identifierRun hyphenated rest).length) rfl
    (fun index c rest here => ?_) index
  have next : text[index + 1]? = rest.head? := by
    rw [← List.head?_drop, drop_succ_of_drop here]
  rw [identifierStep, getElem?_of_drop here, next, identifierRun, Option.map_some]
  split
  · exact .inr ⟨0, rfl, List.length_cons⟩
  · exact .inl ⟨rfl, rfl⟩

/-- How far reading goes inside of a literal.  A backslash at the end of the text leads behind the
end. -/
def literalDistance (quote : Char) (escapes : Bool) : List Char → Nat
  | [] => 0
  | c :: rest =>
      if c == quote then 0
      else if escapes && c == '\\' then
        match rest with
        | [] => 2
        | _ :: rest => literalDistance quote escapes rest + 2
      else literalDistance quote escapes rest + 1

theorem advance_literalStep (quote : Char) (escapes : Bool) (index : Nat) :
    advance text (literalStep text quote escapes) index =
      some (index + literalDistance quote escapes (text.drop index)) := by
  refine advance_eq (literalDistance quote escapes) rfl (fun index c rest here => ?_) index
  rw [literalStep, getElem?_of_drop here, literalDistance.eq_def, Option.map_some]
  dsimp only
  split
  · exact .inl ⟨rfl, rfl⟩
  · split
    · refine .inr ⟨1, rfl, ?_⟩
      cases rest with
      | nil => rfl
      | cons next rest => rfl
    · exact .inr ⟨0, rfl, rfl⟩

/-- The inside of a literal ends where reading does, or with the text. -/
theorem min_literalDistance (quote : Char) (escapes : Bool) (text : List Char) :
    min (literalDistance quote escapes text) text.length =
      (literalBody quote escapes text).length := by
  induction text using literalBody.induct quote escapes with
  | case1 => rfl
  | case2 c ends => rw [literalDistance, literalBody, if_pos ends, if_pos ends]; rfl
  | case3 c goesOn =>
      rw [literalDistance, literalBody, if_neg goesOn, if_neg goesOn]
      split
      · rfl
      · rfl
  | case4 c next rest ends =>
      rw [literalDistance, literalBody, if_pos ends, if_pos ends, Nat.zero_min]
      rfl
  | case5 c next rest goesOn escaped ih =>
      rw [literalDistance, literalBody, if_neg goesOn, if_pos escaped, if_neg goesOn,
        if_pos escaped]
      simp only [List.length_cons]
      omega
  | case6 c next rest goesOn single ih =>
      rw [literalDistance, literalBody, if_neg goesOn, if_neg single, if_neg goesOn, if_neg single]
      simp only [List.length_cons] at ih ⊢
      omega

/-! ## Turns and lexemes -/

/-- The character at which an index comes to rest that goes on over white space. -/
theorem getElem?_behind_blanks (text : List Char) (index : Nat) :
    text[index + ((text.drop index).takeWhile isBlank).length]? = firstInk (text.drop index) := by
  have behind : (text.drop index).drop ((text.drop index).takeWhile isBlank).length =
      (text.drop index).dropWhile isBlank :=
    calc (text.drop index).drop ((text.drop index).takeWhile isBlank).length
      _ = ((text.drop index).takeWhile isBlank ++ (text.drop index).dropWhile isBlank).drop
            ((text.drop index).takeWhile isBlank).length := by
          rw [List.takeWhile_append_dropWhile]
      _ = (text.drop index).dropWhile isBlank := List.drop_left
  rw [← List.head?_drop, ← List.drop_drop, behind]
  rfl

theorem literalTurn_eq {quote : Char} {rest : List Char} (here : text.drop index = quote :: rest) :
    literalTurn lexicon text quote index =
      some (index + (literalLexeme lexicon quote rest).length,
        (literalLexeme lexicon quote rest).token) := by
  have inside := lt_length_of_drop here
  have behind := drop_succ_of_drop here
  have room : rest.length = text.length - (index + 1) := by rw [← behind, List.length_drop]
  have ends := min_literalDistance quote lexicon.escapesInQuotes rest
  obtain ⟨more, split⟩ := literalBody_prefix quote lexicon.escapesInQuotes rest
  rw [literalTurn, literalLexeme, advance_literalStep, behind, Option.bind_eq_bind,
    Option.bind_some]
  generalize literalBody quote lexicon.escapesInQuotes rest = body at ends split ⊢
  have stop : min (index + 1 + literalDistance quote lexicon.escapesInQuotes rest) text.length =
      index + 1 + body.length := by
    omega
  have piece : cut? text (index + 1) (index + 1 + body.length) = some body :=
    cut?_of_drop (behind.trans split.symm) inside
  have next : index + 1 + body.length + 1 = index + (body.length + 2) := by omega
  have beyond : text.drop (index + (body.length + 2)) = rest.drop (body.length + 1) := by
    rw [← behind, List.drop_drop]
    congr 1
    omega
  have ink := getElem?_behind_blanks text (index + (body.length + 2))
  rw [beyond, firstInk] at ink
  simp only [stop, next, advance_whileStep, beyond, Option.bind_some, ink, piece,
    Option.bind_eq_bind]
  by_cases colon : ((trimStart (rest.drop (body.length + 1))).head? == some ':') = true
  · simp only [colon, if_true, Bool.true_and]
  · simp only [colon, Bool.false_eq_true, if_false, Bool.false_and]

theorem identifierTurn_eq {c : Char} {rest : List Char} (here : text.drop index = c :: rest) :
    identifierTurn hyphenated text index =
      some (index + (identifierRun hyphenated (c :: rest)).length,
        some (identifierRun hyphenated (c :: rest))) := by
  obtain ⟨more, split⟩ := identifierRun_prefix hyphenated (c :: rest)
  have piece : cut? text index (index + (identifierRun hyphenated (c :: rest)).length) =
      some (identifierRun hyphenated (c :: rest)) :=
    cut?_of_drop (here.trans split.symm) (lt_length_of_drop here).le
  rw [identifierTurn, advance_identifierStep, here, Option.bind_eq_bind, Option.bind_some, piece]
  rfl

theorem plainTurn_eq {c : Char} {rest : List Char} (here : text.drop index = c :: rest)
    (noComment : commentLength lexicon (c :: rest) = none) :
    plainTurn lexicon hyphenated text c index =
      some (index + (lexeme lexicon hyphenated c rest).length,
        (lexeme lexicon hyphenated c rest).token) := by
  simp only [plainTurn, lexeme, noComment]
  split
  · exact literalTurn_eq here
  · split
    · rfl
    · split
      · exact identifierTurn_eq here
      · rfl

/-- A turn finds the lexeme at the index and goes on behind it. -/
theorem turn_eq (lexicon : Lexicon) (hyphenated : Bool) {c : Char} {rest : List Char}
    (here : text.drop index = c :: rest) :
    turn lexicon hyphenated text index =
      some (index + (lexeme lexicon hyphenated c rest).length,
        (lexeme lexicon hyphenated c rest).token) := by
  have marked (marker : String) : standsAt text index marker.toList =
      (!marker.isEmpty && marker.toList.isPrefixOf (c :: rest)) := by
    have same : marker.toList.isEmpty = marker.isEmpty := by
      rw [Bool.eq_iff_iff, List.isEmpty_iff, String.toList_eq_nil_iff, String.isEmpty_iff]
    rw [standsAt_eq, here, same]
  rw [turn, getElem?_of_drop here, Option.bind_eq_bind, Option.bind_some]
  simp only [marked]
  by_cases lines : (lexicon.lineComments.any fun marker =>
      !marker.isEmpty && marker.toList.isPrefixOf (c :: rest)) = true
  · rw [if_pos lines, advance_whileStep, here, lexeme, commentLength, if_pos lines]
    rfl
  · rw [if_neg lines]
    cases marks : lexicon.blockComment with
    | none =>
        have noComment : commentLength lexicon (c :: rest) = none := by
          rw [commentLength, if_neg lines, marks]
        exact plainTurn_eq here noComment
    | some found =>
        obtain ⟨opening, closing⟩ := found
        by_cases opens : (!opening.isEmpty && opening.toList.isPrefixOf (c :: rest)) = true
        · have commented : commentLength lexicon (c :: rest) =
              some (opening.length + distanceTo closing.toList ((c :: rest).drop opening.length) +
                closing.length) := by
            rw [commentLength, if_neg lines, marks]
            exact if_pos opens
          rw [Option.filter_some, if_pos opens, lexeme, commented]
          dsimp only
          rw [advance_blockStep, ← List.drop_drop, here, Option.bind_eq_bind, Option.bind_some,
            Nat.add_assoc, Nat.add_assoc, Nat.add_assoc]
        · have noComment : commentLength lexicon (c :: rest) = none := by
            rw [commentLength, if_neg lines, marks]
            exact if_neg opens
          rw [Option.filter_some, if_neg opens]
          exact plainTurn_eq here noComment

/-- No turn looks or cuts outside of the text. -/
theorem isSome_turn (lexicon : Lexicon) (hyphenated : Bool) (inside : index < text.length) :
    (turn lexicon hyphenated text index).isSome = true := by
  rw [turn_eq lexicon hyphenated (List.drop_eq_getElem_cons inside)]
  rfl

/-- A line comment that is opened by a line break ends where it begins. -/
theorem turn_of_lineBreak {marker : String} (listed : marker ∈ lexicon.lineComments)
    {rest : List Char} (breaks : marker.toList = '\n' :: rest) (hyphenated : Bool) :
    turn lexicon hyphenated marker.toList 0 = some (0, none) := by
  have present : marker.toList ≠ [] := by
    rw [breaks]
    exact List.cons_ne_nil '\n' rest
  have commented := commentLength_lineComment listed present []
  rw [List.append_nil, breaks, List.takeWhile_cons_of_neg (by decide)] at commented
  have here : marker.toList.drop 0 = '\n' :: rest := breaks
  rw [turn_eq lexicon hyphenated here, lexeme, commented]
  rfl

/-! ## Reading a text -/

theorem commentLength_pos (regular : lexicon.IsRegular) {c : Char} {rest : List Char}
    {length : Nat} (commented : commentLength lexicon (c :: rest) = some length) :
    0 < length := by
  rw [commentLength] at commented
  split at commented
  · next opened =>
      obtain ⟨marker, listed, stands⟩ := List.any_eq_true.mp opened
      rw [Bool.and_eq_true, Bool.not_eq_true', ← Bool.not_eq_true, String.isEmpty_iff,
        ← String.toList_eq_nil_iff, List.isPrefixOf_iff_prefix] at stands
      obtain ⟨present, stands⟩ := stands
      have visible : c ≠ '\n' := by
        rintro rfl
        refine regular marker listed ?_
        obtain ⟨first, marker', written⟩ := List.exists_cons_of_ne_nil present
        rw [written, List.cons_prefix_cons] at stands
        rw [written, List.head?_cons, stands.1]
      rw [List.takeWhile_cons, if_pos (by simpa using visible)] at commented
      cases commented
      exact Nat.succ_pos _
  · split at commented
    · next opening closing marks =>
        split at commented
        · next opens =>
            rw [Bool.and_eq_true, Bool.not_eq_true', ← Bool.not_eq_true, String.isEmpty_iff,
              ← String.length_eq_zero_iff] at opens
            cases commented
            omega
        · contradiction
    · contradiction

/-- Every lexeme has a character at least. -/
theorem lexeme_length_pos (regular : lexicon.IsRegular) (hyphenated : Bool) (c : Char)
    (rest : List Char) : 0 < (lexeme lexicon hyphenated c rest).length := by
  rw [lexeme]
  cases commented : commentLength lexicon (c :: rest) with
  | some length => exact commentLength_pos regular commented
  | none =>
      dsimp only
      split
      · exact Nat.succ_pos _
      · split
        · exact Nat.succ_pos _
        · split
          · next starts =>
              rw [identifierRun, if_pos]
              · exact Nat.succ_pos _
              · rw [isAlphanumeric_of_startsIdentifier starts, Bool.true_or]
          · exact Nat.succ_pos _

/-- A reading that ends has found the identifiers of the text behind its index. -/
theorem Reads.eq_tokens_drop {found : List (List Char)}
    (reads : Reads lexicon hyphenated text index found) :
    found = tokens lexicon hyphenated (text.drop index) := by
  induction reads with
  | done outside =>
      rw [List.drop_eq_nil_iff.mpr outside]
      rfl
  | @turn index next token found inside turned behind ih =>
      obtain ⟨c, rest, here⟩ : ∃ c rest, text.drop index = c :: rest :=
        ⟨_, _, List.drop_eq_getElem_cons inside⟩
      have moves := (Reads.turn inside turned behind).moves inside token
      rw [turn_eq lexicon hyphenated here, Option.some.injEq, Prod.mk.injEq] at turned
      obtain ⟨rfl, rfl⟩ := turned
      have present : 0 < (lexeme lexicon hyphenated c rest).length := by
        apply Nat.pos_of_ne_zero
        intro empty
        apply moves
        rw [turn_eq lexicon hyphenated here, empty, Nat.add_zero]
      rw [ih, ← List.drop_drop, here]
      exact (tokens_of_lexeme rfl present).symm

/-- With a regular lexicon reading from an index ends. -/
theorem reads_tokens_drop (regular : lexicon.IsRegular) (hyphenated : Bool) (text : List Char)
    (index : Nat) :
    Reads lexicon hyphenated text index (tokens lexicon hyphenated (text.drop index)) := by
  induction left : text.length - index using Nat.strong_induction_on generalizing index with
  | _ left ih =>
      cases here : text.drop index with
      | nil => exact .done (List.drop_eq_nil_iff.mp here)
      | cons c rest =>
          have inside := lt_length_of_drop here
          have present := lexeme_length_pos regular hyphenated c rest
          have behind := ih _ (by omega) (index + (lexeme lexicon hyphenated c rest).length) rfl
          rw [← List.drop_drop, here] at behind
          rw [tokens_of_lexeme rfl present]
          exact .turn inside (turn_eq lexicon hyphenated here) behind

/-- Every reading ends exactly if the lexicon is regular. -/
theorem isRegular_iff :
    lexicon.IsRegular ↔
      ∀ hyphenated text, ∃ found, Reads lexicon hyphenated text 0 found := by
  constructor
  · intro regular hyphenated text
    exact ⟨_, reads_tokens_drop regular hyphenated text 0⟩
  · intro ends marker listed breaks
    obtain ⟨rest, breaks⟩ := List.head?_eq_some_iff.mp breaks
    obtain ⟨found, reads⟩ := ends false marker.toList
    have inside : 0 < marker.toList.length := by
      rw [breaks]
      exact Nat.succ_pos rest.length
    exact reads.moves inside none (turn_of_lineBreak listed breaks false)

end Cursor

end Imprint
