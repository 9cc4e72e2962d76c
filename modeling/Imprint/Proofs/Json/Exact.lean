import Imprint.Proofs.Json.Reader

/-!
# The JSON reader accepts nothing but the grammar

What is read from the front of a text is derived by the grammar, piece by piece: escapes and
strings, the parts of a number, and values with the lists inside them.  Main statement:
`parse?_eq_some_iff`, a text is read as a value exactly if it is a document that stands for it.
-/

namespace Imprint.Json

open Text

variable {text rest : List Char} {code : Nat}

/-- White space that is passed over stands in front of what is left. -/
theorem exists_space (text : List Char) : ∃ space, Space space ∧ text = space ++ skipSpace text :=
  ⟨text.takeWhile isSpace,
    fun c member => (isSpace_iff c).mp (List.all_eq_true.mp List.all_takeWhile c member),
    List.takeWhile_append_dropWhile.symm⟩

/-! ## Strings -/

theorem codeUnit_of_unit? (read : unit? text = some code) :
    ∃ digits rest, CodeUnit digits code ∧ text = digits ++ rest := by
  rw [unit?] at read
  split at read
  · next four => exact ⟨text.take 4, text.drop 4, ⟨four, read⟩, (List.take_append_drop 4 text).symm⟩
  · contradiction

theorem startsLow_of_lowSurrogate? {low : Nat} (read : lowSurrogate? text = some low) :
    ∃ digits rest, CodeUnit digits low ∧ IsLow low ∧ text = '\\' :: 'u' :: (digits ++ rest) := by
  unfold lowSurrogate? at read
  split at read
  · next text =>
      obtain ⟨code, found, checked⟩ := Option.bind_eq_some_iff.mp read
      obtain ⟨digits, rest, unit, rfl⟩ := codeUnit_of_unit? found
      split at checked
      · next isLow =>
          cases checked
          exact ⟨digits, rest, unit, isLow, rfl⟩
      · contradiction
  · contradiction

/-- Four hexadecimal digits are a number of sixteen bits. -/
theorem lt_of_codeUnit {digits : List Char} (unit : CodeUnit digits code) : code < 0x10000 := by
  obtain ⟨length, read⟩ := unit
  match digits, length with
  | [first, second, third, fourth], _ =>
      simp only [hexNumber?, List.foldlM_cons, List.foldlM_nil, Option.bind_eq_bind,
        Option.bind_eq_some_iff, Option.map_eq_some_iff] at read
      obtain ⟨_, ⟨_, knownFirst, rfl⟩, _, ⟨_, knownSecond, rfl⟩, _, ⟨_, knownThird, rfl⟩, _,
        ⟨_, knownFourth, rfl⟩, same⟩ := read
      cases same
      have firstSmall := hexValue?_lt knownFirst
      have secondSmall := hexValue?_lt knownSecond
      have thirdSmall := hexValue?_lt knownThird
      have fourthSmall := hexValue?_lt knownFourth
      omega

/-- Whether an escape stands for a character, or for none, in every string that goes on with the
rest. -/
def Means (taken rest : List Char) (c : Option Char) : Prop :=
  ∀ body chars more, rest = body ++ '"' :: more → Chars body chars →
    Chars ('\\' :: (taken ++ body)) (c.bind fun c => chars.map (c :: ·))

theorem means_mark {mark c : Char} (listed : (mark, c) ∈ escapeMarks) (rest : List Char) :
    Means [mark] rest (some c) := by
  intro body chars more _ inside
  exact .marked listed inside

/-- A code unit that is no first half means the character of its code, if there is one. -/
theorem means_unit {digits : List Char} (unit : CodeUnit digits code) (notHigh : ¬ IsHigh code)
    (rest : List Char) : Means ('u' :: digits) rest (scalar? code) := by
  intro body chars more _ inside
  by_cases isLow : IsLow code
  · have nothing : scalar? code = none := by
      rw [IsLow] at isLow
      rw [scalar?, if_neg (by omega)]
    rw [nothing]
    exact .half unit (.inr isLow) (fun isHigh => absurd isHigh notHigh) inside
  · have small := lt_of_codeUnit unit
    rw [IsHigh] at notHigh
    rw [IsLow] at isLow
    have known : scalar? code = some (Char.ofNat code) := if_pos (by omega)
    rw [known]
    exact .unit ((toNat_of_scalar? known).symm ▸ unit) inside

theorem means_pair {first second : List Char} {high low : Nat} (firstUnit : CodeUnit first high)
    (isHigh : IsHigh high) (secondUnit : CodeUnit second low) (isLow : IsLow low)
    (rest : List Char) :
    Means ('u' :: (first ++ '\\' :: 'u' :: second)) rest
      (some (Char.ofNat (0x10000 + (high - 0xd800) * 0x400 + (low - 0xdc00)))) := by
  intro body chars more _ inside
  simpa using Chars.pair firstUnit isHigh secondUnit isLow inside

/-- A first half in front of no second half means nothing. -/
theorem means_half {digits : List Char} (unit : CodeUnit digits code) (isHigh : IsHigh code)
    (alone : lowSurrogate? rest = none) : Means ('u' :: digits) rest none := by
  rintro body chars more rfl inside
  refine .half unit (.inl isHigh) (fun _ => ?_) inside
  rintro ⟨second, low, others, rfl, secondUnit, isLow⟩
  rw [List.cons_append, List.cons_append, List.append_assoc, lowSurrogate?_of_unit secondUnit,
    if_pos isLow] at alone
  contradiction

/-- What an escape is read as is what it means. -/
theorem means_of_escape? {c : Option Char} {length : Nat}
    (known : escape? text = some (c, length)) :
    ∃ taken rest, taken.length = length ∧ text = taken ++ rest ∧ Means taken rest c := by
  unfold escape? at known
  split at known
  case h_9 text =>
    split at known
    · contradiction
    · next high found =>
        obtain ⟨digits, rest, unit, rfl⟩ := codeUnit_of_unit? found
        rw [drop_of_codeUnit unit] at known
        have length_eq : ('u' :: digits).length = 5 := by rw [List.length_cons, unit.length_eq]
        split at known
        · next isHigh =>
            split at known
            · next low paired =>
                cases known
                obtain ⟨second, rest, secondUnit, isLow, rfl⟩ := startsLow_of_lowSurrogate? paired
                refine ⟨_, rest, ?_, ?_, means_pair unit isHigh secondUnit isLow rest⟩
                · simp [unit.length_eq, secondUnit.length_eq]
                · simp
            · next alone =>
                cases known
                exact ⟨_, rest, length_eq, rfl, means_half unit isHigh alone⟩
        · next notHigh =>
            cases known
            exact ⟨_, rest, length_eq, rfl, means_unit unit notHigh rest⟩
  case h_10 => contradiction
  -- The eight marks.
  all_goals
    cases known
    exact ⟨[_], _, rfl, rfl, means_mark (by simp [escapeMarks]) _⟩

/-- The inside of a string is what is read up to the closing quote. -/
theorem chars_of_stringFrom {chars : Option (List Char)}
    (read : stringFrom 0 text = some (chars, rest)) :
    ∃ body, Chars body chars ∧ text = body ++ '"' :: rest := by
  induction length : text.length using Nat.strongRecOn generalizing text chars with
  | ind number ih =>
      subst length
      cases text with
      | nil => contradiction
      | cons c text =>
          rw [stringFrom] at read
          split at read
          · next quote =>
              cases read
              rw [beq_iff_eq.mp quote]
              exact ⟨[], .nil, rfl⟩
          · next notQuote =>
              split at read
              · next backslash =>
                  split at read
                  · next char length known =>
                      obtain ⟨taken, after, rfl, rfl, meaning⟩ := means_of_escape? known
                      rw [stringFrom_length] at read
                      obtain ⟨⟨others, left⟩, readAfter, same⟩ := Option.map_eq_some_iff.mp read
                      cases same
                      have shorter : after.length < (c :: (taken ++ after)).length := by
                        rw [List.length_cons, List.length_append]
                        omega
                      obtain ⟨body, inside, rfl⟩ := ih after.length shorter readAfter rfl
                      rw [beq_iff_eq.mp backslash]
                      exact ⟨_, meaning body others left rfl inside, by simp⟩
                  · contradiction
              · next notBackslash =>
                  split at read
                  · contradiction
                  · next printable =>
                      obtain ⟨⟨others, left⟩, readAfter, same⟩ := Option.map_eq_some_iff.mp read
                      cases same
                      obtain ⟨body, inside, rfl⟩ :=
                        ih text.length (Nat.lt_succ_self text.length) readAfter rfl
                      refine ⟨c :: body, ?_, rfl⟩
                      exact .plain (Nat.not_lt.mp printable)
                        (fun quote => notQuote (beq_iff_eq.mpr quote))
                        (fun backslash => notBackslash (beq_iff_eq.mpr backslash)) inside

theorem quoted_of_string? {string : Option String} (read : string? text = some (string, rest)) :
    ∃ name, Quoted name string ∧ '"' :: text = name ++ rest := by
  obtain ⟨⟨chars, left⟩, found, same⟩ := Option.map_eq_some_iff.mp read
  cases same
  obtain ⟨body, inside, rfl⟩ := chars_of_stringFrom found
  exact ⟨_, ⟨body, chars, inside, rfl, rfl⟩, by simp⟩

/-! ## Numbers -/

theorem digits_of_digitRun? {digits : List Char} (read : digitRun? text = some (digits, rest)) :
    Digits digits ∧ text = digits ++ rest := by
  rw [digitRun?] at read
  split at read
  · contradiction
  · next nonempty =>
      cases read
      refine ⟨⟨?_, fun c member => List.all_eq_true.mp List.all_takeWhile c member⟩,
        List.takeWhile_append_dropWhile.symm⟩
      rintro empty
      rw [empty] at nonempty
      exact nonempty rfl

theorem integral_of_integral? {integral : List Char}
    (read : integral? text = some (integral, rest)) :
    Integral integral ∧ text = integral ++ rest := by
  unfold integral? at read
  split at read
  · cases read
    exact ⟨.inl rfl, rfl⟩
  · next noZero =>
      obtain ⟨digital, rfl⟩ := digits_of_digitRun? read
      refine ⟨.inr ⟨digital, fun first => ?_⟩, rfl⟩
      obtain ⟨others, rfl⟩ := List.head?_eq_some_iff.mp first
      exact noZero _ rfl

theorem fraction_of_fraction? {fraction : List Char}
    (read : fraction? text = some (fraction, rest)) :
    Fraction fraction ∧ text = fraction ++ rest := by
  unfold fraction? at read
  split at read
  · obtain ⟨⟨digits, left⟩, run, same⟩ := Option.map_eq_some_iff.mp read
    cases same
    obtain ⟨digital, rfl⟩ := digits_of_digitRun? run
    exact ⟨.inr ⟨digits, digital, rfl⟩, rfl⟩
  · cases read
    exact ⟨.inl rfl, rfl⟩

theorem exponent_of_exponent? {exponent : List Char}
    (read : exponent? text = some (exponent, rest)) :
    Exponent exponent ∧ text = exponent ++ rest := by
  unfold exponent? at read
  split at read
  · cases read
    exact ⟨.inl rfl, rfl⟩
  · next mark text =>
      split at read
      · next marked =>
          have marks : mark = 'e' ∨ mark = 'E' := by simpa using marked
          split at read
          all_goals
            obtain ⟨⟨digits, left⟩, run, same⟩ := Option.map_eq_some_iff.mp read
            cases same
            obtain ⟨digital, rfl⟩ := digits_of_digitRun? run
          · exact ⟨.inr ⟨mark, ['+'], digits, marks, .inr (.inl rfl), digital, rfl⟩, rfl⟩
          · exact ⟨.inr ⟨mark, ['-'], digits, marks, .inr (.inr rfl), digital, rfl⟩, rfl⟩
          · exact ⟨.inr ⟨mark, [], digits, marks, .inl rfl, digital, rfl⟩, rfl⟩
      · cases read
        exact ⟨.inl rfl, rfl⟩

/-- The parts of a number behind its sign. -/
theorem number_of_parts {sign spelling : List Char}
    (signed : sign = [] ∨ sign = ['-'])
    (read : (do
      let (integral, rest) ← integral? text
      let (fraction, rest) ← fraction? rest
      let (exponent, rest) ← exponent? rest
      some (sign ++ integral ++ fraction ++ exponent, rest)) = some (spelling, rest)) :
    Number spelling ∧ sign ++ text = spelling ++ rest := by
  simp only [Option.bind_eq_bind, Option.bind_eq_some_iff] at read
  obtain ⟨⟨integral, behind⟩, readIntegral, ⟨fraction, behind⟩, readFraction,
    ⟨exponent, behind⟩, readExponent, same⟩ := read
  cases same
  obtain ⟨whole, rfl⟩ := integral_of_integral? readIntegral
  obtain ⟨broken, rfl⟩ := fraction_of_fraction? readFraction
  obtain ⟨scaled, rfl⟩ := exponent_of_exponent? readExponent
  exact ⟨.mk signed whole broken scaled, by simp⟩

theorem number_of_number? {spelling : List Char} (read : number? text = some (spelling, rest)) :
    Number spelling ∧ text = spelling ++ rest := by
  unfold number? at read
  split at read
  next sign behind found =>
    split at found
    · cases found
      exact number_of_parts (.inr rfl) read
    · cases found
      exact number_of_parts (.inl rfl) read

/-! ## Values -/

/-- Whether a value that is read with some fuel is derived. -/
def ValueDerived (fuel : Nat) : Prop := ∀ ⦃text value rest⦄,
  value? fuel text = some (value, rest) → ∃ body, Derives (.value value) body ∧ text = body ++ rest

/-- Whether the values of an array that are read with some fuel are derived. -/
def ItemsDerived (fuel : Nat) : Prop := ∀ ⦃text items rest⦄,
  items? fuel text = some (items, rest) →
    ∃ body, Derives (.items items) body ∧ text = body ++ ']' :: rest

/-- Whether the members of an object that are read with some fuel are derived. -/
def MembersDerived (fuel : Nat) : Prop := ∀ ⦃text members rest⦄,
  members? fuel text = some (members, rest) →
    ∃ body, Derives (.members members) body ∧ text = body ++ '}' :: rest

theorem valueDerived_succ {fuel : Nat} (ofItems : ItemsDerived fuel)
    (ofMembers : MembersDerived fuel) : ValueDerived (fuel + 1) := by
  intro text value rest read
  unfold value? at read
  split at read
  · next inside =>
      obtain ⟨⟨string, left⟩, found, same⟩ := Option.map_eq_some_iff.mp read
      cases same
      obtain ⟨name, quoted, split⟩ := quoted_of_string? found
      exact ⟨name, .string quoted, split⟩
  · next inside =>
      obtain ⟨space, blank, split⟩ := exists_space inside
      split at read
      · next closed =>
          cases read
          rw [split, closed]
          exact ⟨_, .emptyArray blank, by simp⟩
      · obtain ⟨⟨items, left⟩, found, same⟩ := Option.map_eq_some_iff.mp read
        cases same
        obtain ⟨body, listed, behind⟩ := ofItems found
        rw [split, behind]
        exact ⟨_, .array (listed.items_prepend blank), by simp⟩
  · next inside =>
      obtain ⟨space, blank, split⟩ := exists_space inside
      split at read
      · next closed =>
          cases read
          rw [split, closed]
          exact ⟨_, .emptyObject blank, by simp⟩
      · obtain ⟨⟨members, left⟩, found, same⟩ := Option.map_eq_some_iff.mp read
        cases same
        obtain ⟨body, listed, behind⟩ := ofMembers found
        rw [split, behind]
        exact ⟨_, .object (listed.members_prepend blank), by simp⟩
  · cases read
    exact ⟨_, .null, rfl⟩
  · cases read
    exact ⟨_, .true, rfl⟩
  · cases read
    exact ⟨_, .false, rfl⟩
  · obtain ⟨⟨spelling, left⟩, found, same⟩ := Option.map_eq_some_iff.mp read
    cases same
    obtain ⟨number, rfl⟩ := number_of_number? found
    exact ⟨spelling, .number number, rfl⟩

theorem itemsDerived_succ {fuel : Nat} (ofValue : ValueDerived fuel)
    (ofItems : ItemsDerived fuel) : ItemsDerived (fuel + 1) := by
  intro text items rest read
  unfold items? at read
  obtain ⟨⟨item, left⟩, found, continued⟩ := Option.bind_eq_some_iff.mp read
  obtain ⟨body, written, rfl⟩ := ofValue found
  obtain ⟨space, blank, split⟩ := exists_space left
  have spaced := Derives.spaced space_nil written blank
  dsimp only at continued
  split at continued
  · next closed =>
      cases continued
      rw [split, closed]
      exact ⟨_, .lastItem spaced, by simp⟩
  · next next goesOn =>
      obtain ⟨⟨others, left⟩, readOthers, same⟩ := Option.bind_eq_some_iff.mp continued
      cases same
      obtain ⟨nextSpace, nextBlank, nextSplit⟩ := exists_space next
      obtain ⟨nextBody, listed, behind⟩ := ofItems readOthers
      rw [split, goesOn, nextSplit, behind]
      exact ⟨_, .item spaced (listed.items_prepend nextBlank), by simp⟩
  · contradiction

theorem eq_cons_of_expect? {c : Char} (read : expect? c text = some rest) : text = c :: rest := by
  unfold expect? at read
  split at read
  · contradiction
  · split at read
    · next same =>
        cases read
        rw [beq_iff_eq.mp same]
    · contradiction

theorem membersDerived_succ {fuel : Nat} (ofValue : ValueDerived fuel)
    (ofMembers : MembersDerived fuel) : MembersDerived (fuel + 1) := by
  intro text members rest read
  unfold members? at read
  obtain ⟨inside, quote, readKey⟩ := Option.bind_eq_some_iff.mp read
  obtain ⟨⟨key, behindKey⟩, named, readColon⟩ := Option.bind_eq_some_iff.mp readKey
  obtain ⟨body, colon, readValue⟩ := Option.bind_eq_some_iff.mp readColon
  obtain ⟨⟨value, left⟩, found, continued⟩ := Option.bind_eq_some_iff.mp readValue
  obtain rfl := eq_cons_of_expect? quote
  replace colon := eq_cons_of_expect? colon
  obtain ⟨name, quoted, nameSplit⟩ := quoted_of_string? named
  obtain ⟨keySpace, keyBlank, keySplit⟩ := exists_space behindKey
  obtain ⟨valueSpace, valueBlank, valueSplit⟩ := exists_space body
  obtain ⟨written, derives, writtenSplit⟩ := ofValue found
  obtain ⟨space, blank, split⟩ := exists_space left
  have member := Derives.member space_nil quoted keyBlank (.spaced valueBlank derives blank)
  rw [nameSplit, keySplit, colon, valueSplit, writtenSplit, split]
  dsimp only at continued
  split at continued
  · next closed =>
      cases continued
      rw [closed]
      exact ⟨_, .lastMember member, by simp⟩
  · next next goesOn =>
      obtain ⟨⟨others, left⟩, readOthers, same⟩ := Option.bind_eq_some_iff.mp continued
      cases same
      obtain ⟨nextSpace, nextBlank, nextSplit⟩ := exists_space next
      obtain ⟨nextBody, listed, behind⟩ := ofMembers readOthers
      rw [goesOn, nextSplit, behind]
      exact ⟨_, .members member (listed.members_prepend nextBlank), by simp⟩
  · contradiction

/-- Values and lists are read from one another, so that all three are derived together. -/
theorem partsDerived (fuel : Nat) :
    ValueDerived fuel ∧ ItemsDerived fuel ∧ MembersDerived fuel := by
  induction fuel with
  | zero =>
      refine ⟨?_, ?_, ?_⟩ <;> intro text part rest read <;> contradiction
  | succ fuel ih =>
      obtain ⟨ofValue, ofItems, ofMembers⟩ := ih
      exact ⟨valueDerived_succ ofItems ofMembers, itemsDerived_succ ofValue ofItems,
        membersDerived_succ ofValue ofMembers⟩

/-- A text is read as a value exactly if it is a document that stands for it. -/
theorem parse?_eq_some_iff {value : Value} : parse? text = some value ↔ Document text value := by
  constructor
  · intro read
    obtain ⟨⟨document, left⟩, found, finished⟩ := Option.bind_eq_some_iff.mp read
    obtain ⟨body, written, split⟩ := (partsDerived _).1 found
    obtain ⟨before, opens, textSplit⟩ := exists_space text
    obtain ⟨after, closes, leftSplit⟩ := exists_space left
    dsimp only at finished
    split at finished
    · next empty =>
        cases finished
        rw [List.isEmpty_iff.mp empty, List.append_nil] at leftSplit
        rw [textSplit, split, leftSplit, ← List.append_assoc]
        exact .spaced opens written closes
    · contradiction
  · exact parse?_of_document

end Imprint.Json
