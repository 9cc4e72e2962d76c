import Imprint.Json.Parser
import Imprint.Proofs.Json.Grammar
import Imprint.Proofs.Text.Numeral

/-!
# The JSON reader accepts the grammar

Whatever the grammar derives is read, and as the value that it stands for.  A part of a document
is read from in front of what follows it: strings and lists end at their closing mark, but numbers
go on as far as they can, so that what follows a value must be known to stop it.  Main statements:
`parse?_of_document` and `Document.unique`.
-/

namespace Imprint.Json

open Text

variable {digits body rest : List Char} {code : Nat}

/-! ## White space -/

theorem isSpace_iff (c : Char) :
    isSpace c = true ↔ c = ' ' ∨ c = '\t' ∨ c = '\n' ∨ c = '\r' := by
  simp [isSpace, or_assoc]

/-- White space is passed over whatever follows it. -/
theorem skipSpace_append {space : List Char} (blank : Space space) (text : List Char) :
    skipSpace (space ++ text) = skipSpace text :=
  List.dropWhile_append_of_pos fun c member => (isSpace_iff c).mpr (blank c member)

theorem skipSpace_cons {c : Char} (ink : isSpace c = false) (text : List Char) :
    skipSpace (c :: text) = c :: text :=
  List.dropWhile_cons_of_neg (by simp [ink])

/-- The characters that end a value in front of them. -/
def stopChars : List Char := [' ', '\t', '\n', '\r', ',', ']', '}']

/-- Whether a text ends a value in front of it. -/
def Stops (text : List Char) : Prop := ∀ c ∈ text.head?, c ∈ stopChars

theorem stops_nil : Stops [] := by
  rintro c ⟨⟩

theorem stops_cons {c : Char} (listed : c ∈ stopChars) (text : List Char) : Stops (c :: text) := by
  rintro first ⟨⟩
  exact listed

theorem stops_append {space : List Char} (blank : Space space) {text : List Char}
    (stops : Stops text) : Stops (space ++ text) := by
  cases space with
  | nil => exact stops
  | cons c space =>
      refine stops_cons ?_ _
      rcases blank c List.mem_cons_self with rfl | rfl | rfl | rfl <;> decide

/-- What is true of all characters that end a value is true of the first one behind it. -/
theorem Stops.head {text : List Char} (stops : Stops text) {property : Char → Prop}
    [DecidablePred property] (every : (stopChars.all fun c => property c) = true) :
    ∀ c ∈ text.head?, property c :=
  fun c first => of_decide_eq_true (List.all_eq_true.mp every c (stops c first))

/-! ## Strings -/

/-- Characters that belong to an escape are passed over. -/
theorem stringFrom_length (taken rest : List Char) :
    stringFrom taken.length (taken ++ rest) = stringFrom 0 rest := by
  induction taken with
  | nil => rfl
  | cons c taken ih => exact ih

/-- An escape is read as what it stands for. -/
theorem stringFrom_escape {taken : List Char} {c : Option Char}
    (known : escape? (taken ++ rest) = some (c, taken.length)) :
    stringFrom 0 ('\\' :: (taken ++ rest)) = (stringFrom 0 rest).map (Read.cons c) := by
  rw [← stringFrom_length taken rest]
  simp [stringFrom, known]

theorem drop_of_codeUnit (unit : CodeUnit digits code) (rest : List Char) :
    (digits ++ rest).drop 4 = rest := by
  rw [← unit.length_eq, List.drop_left]

theorem unit?_append (unit : CodeUnit digits code) (rest : List Char) :
    unit? (digits ++ rest) = some code := by
  have four : (digits ++ rest).take 4 = digits := by
    rw [← unit.length_eq, List.take_left]
  simp only [unit?, four, unit.length_eq, if_true, unit.number_eq]

theorem not_surrogate (c : Char) : ¬ IsHigh c.toNat ∧ ¬ IsLow c.toNat := by
  have valid : c.toNat < 0xd800 ∨ (0xdfff < c.toNat ∧ c.toNat < 0x110000) := c.valid
  rw [IsHigh, IsLow]
  omega

theorem not_isLow_of_isHigh (isHigh : IsHigh code) : ¬ IsLow code := by
  rw [IsHigh] at isHigh
  rw [IsLow]
  omega

theorem lowSurrogate?_of_unit (unit : CodeUnit digits code) (rest : List Char) :
    lowSurrogate? ('\\' :: 'u' :: (digits ++ rest)) = if IsLow code then some code else none := by
  rw [lowSurrogate?, unit?_append unit, Option.bind_some]
  rfl

/-- The inside of a string that does not begin with a second half is not read as one. -/
theorem lowSurrogate?_eq_none {text : Option (List Char)} (inside : Chars body text)
    (alone : ¬ StartsLow body) (rest : List Char) :
    lowSurrogate? (body ++ '"' :: rest) = none := by
  cases inside with
  | nil => rfl
  | plain printable notQuote notBackslash others =>
      rw [List.cons_append, lowSurrogate?]
      intro more same
      exact notBackslash (List.cons.inj same).1
  | marked listed others =>
      rw [List.cons_append, List.cons_append, lowSurrogate?]
      rintro more ⟨⟩
      simp [escapeMarks] at listed
  | @unit digits body c text unit others =>
      rw [List.cons_append, List.cons_append, List.append_assoc, lowSurrogate?_of_unit unit,
        if_neg (not_surrogate c).2]
  | pair first high second low others =>
      rw [List.cons_append, List.cons_append, List.append_assoc, lowSurrogate?_of_unit first,
        if_neg (not_isLow_of_isHigh high)]
  | half unit surrogate apart others =>
      rw [List.cons_append, List.cons_append, List.append_assoc, lowSurrogate?_of_unit unit,
        if_neg fun low => alone ⟨_, _, _, rfl, unit, low⟩]

theorem escape?_mark {mark c : Char} (listed : (mark, c) ∈ escapeMarks) (rest : List Char) :
    escape? ([mark] ++ rest) = some (some c, [mark].length) := by
  simp only [escapeMarks, List.mem_cons, Prod.mk.injEq, List.not_mem_nil, or_false] at listed
  rcases listed with ⟨rfl, rfl⟩ | ⟨rfl, rfl⟩ | ⟨rfl, rfl⟩ | ⟨rfl, rfl⟩ | ⟨rfl, rfl⟩ |
    ⟨rfl, rfl⟩ | ⟨rfl, rfl⟩ | ⟨rfl, rfl⟩ <;> rfl

/-- A code unit that is no first half is read on its own. -/
theorem escape?_unit (unit : CodeUnit digits code) (notHigh : ¬ IsHigh code) (rest : List Char) :
    escape? (('u' :: digits) ++ rest) = some (scalar? code, ('u' :: digits).length) := by
  rw [List.cons_append, escape?, unit?_append unit, List.length_cons, unit.length_eq]
  exact if_neg notHigh

/-- A first half is read together with the second half behind it. -/
theorem escape?_pair (unit : CodeUnit digits code) (isHigh : IsHigh code) {low : Nat}
    (found : lowSurrogate? rest = some low) :
    escape? (('u' :: digits) ++ rest) =
      some (some (Char.ofNat (0x10000 + (code - 0xd800) * 0x400 + (low - 0xdc00))), 11) := by
  rw [List.cons_append, escape?, unit?_append unit]
  refine (if_pos isHigh).trans ?_
  rw [drop_of_codeUnit unit, found]

/-- A first half stands for nothing if no second half is behind it. -/
theorem escape?_half (unit : CodeUnit digits code) (isHigh : IsHigh code)
    (alone : lowSurrogate? rest = none) :
    escape? (('u' :: digits) ++ rest) = some (none, ('u' :: digits).length) := by
  rw [List.cons_append, escape?, unit?_append unit, List.length_cons, unit.length_eq]
  refine (if_pos isHigh).trans ?_
  rw [drop_of_codeUnit unit, alone]

/-- The inside of a string is read up to the closing quote. -/
theorem stringFrom_append {text : Option (List Char)} (inside : Chars body text)
    (rest : List Char) : stringFrom 0 (body ++ '"' :: rest) = some (text, rest) := by
  induction inside with
  | nil => rfl
  | plain printable notQuote notBackslash others ih =>
      have printed : ¬ _ < 0x20 := Nat.not_lt.mpr printable
      simp [stringFrom, notQuote, notBackslash, printed, ih]
      rfl
  | @marked mark c body text listed others ih =>
      have known := escape?_mark listed (body ++ '"' :: rest)
      exact (stringFrom_escape known).trans (by rw [ih]; rfl)
  | @unit digits body c text unit others ih =>
      have known := escape?_unit unit (not_surrogate c).1 (body ++ '"' :: rest)
      rw [scalar?_toNat] at known
      rw [List.cons_append, List.cons_append, List.append_assoc]
      exact (stringFrom_escape known).trans (by rw [ih]; rfl)
  | @pair first second body high low text firstUnit isHigh secondUnit isLow others ih =>
      -- Both halves are one escape for the reader, eleven characters behind the backslash.
      let escape := 'u' :: (first ++ '\\' :: 'u' :: second)
      have split : '\\' :: 'u' :: (first ++ '\\' :: 'u' :: (second ++ body)) ++ '"' :: rest =
          '\\' :: (escape ++ (body ++ '"' :: rest)) := by
        simp [escape]
      have known : escape? (escape ++ (body ++ '"' :: rest)) = some
          (some (Char.ofNat (0x10000 + (high - 0xd800) * 0x400 + (low - 0xdc00))),
            escape.length) := by
        have found := lowSurrogate?_of_unit secondUnit (body ++ '"' :: rest)
        rw [if_pos isLow] at found
        simpa [escape, firstUnit.length_eq, secondUnit.length_eq] using
          escape?_pair firstUnit isHigh found
      rw [split, stringFrom_escape known, ih]
      rfl
  | @half digits body code text unit surrogate alone others ih =>
      have known : escape? (('u' :: digits) ++ (body ++ '"' :: rest)) =
          some (none, ('u' :: digits).length) := by
        by_cases isHigh : IsHigh code
        · exact escape?_half unit isHigh (lowSurrogate?_eq_none others (alone isHigh) rest)
        · have isLow := surrogate.resolve_left isHigh
          rw [escape?_unit unit isHigh, scalar?, if_neg (by rw [IsLow] at isLow; omega)]
      rw [List.cons_append, List.cons_append, List.append_assoc]
      exact (stringFrom_escape known).trans (by rw [ih]; rfl)

/-- A string is read behind its opening quote. -/
theorem string?_of_quoted {text : List Char} {string : Option String} (quoted : Quoted text string)
    (rest : List Char) :
    ∃ inside, text ++ rest = '"' :: inside ∧ string? inside = some (string, rest) := by
  obtain ⟨body, chars, inside, rfl, rfl⟩ := quoted
  refine ⟨body ++ '"' :: rest, by simp, ?_⟩
  rw [string?, stringFrom_append inside, Option.map_some]

/-! ## Numbers -/

/-- Digits are taken as a whole if no digit follows. -/
theorem digitRun?_append (digital : Digits digits) (stops : ∀ c ∈ rest.head?, c.isDigit = false) :
    digitRun? (digits ++ rest) = some (digits, rest) := by
  obtain ⟨nonempty, allDigits⟩ := digital
  have taken : (digits ++ rest).takeWhile Char.isDigit = digits := by
    rw [List.takeWhile_append_of_pos allDigits]
    cases rest with
    | nil => simp
    | cons c rest => simp [stops c rfl]
  have left : (digits ++ rest).dropWhile Char.isDigit = rest := by
    rw [List.dropWhile_append_of_pos allDigits]
    cases rest with
    | nil => rfl
    | cons c rest => simp [stops c rfl]
  simp [digitRun?, taken, left, nonempty]

theorem exists_cons_of_digits (digital : Digits digits) :
    ∃ c others, digits = c :: others ∧ c.isDigit = true := by
  obtain ⟨c, others, rfl⟩ := List.exists_cons_of_ne_nil digital.1
  exact ⟨c, others, rfl, digital.2 c List.mem_cons_self⟩

theorem exists_cons_of_integral {integral : List Char} (whole : Integral integral) :
    ∃ c others, integral = c :: others ∧ c.isDigit = true := by
  rcases whole with rfl | ⟨digital, -⟩
  · exact ⟨'0', [], rfl, by decide⟩
  · exact exists_cons_of_digits digital

theorem integral?_append {integral : List Char} (whole : Integral integral)
    (stops : ∀ c ∈ rest.head?, c.isDigit = false) :
    integral? (integral ++ rest) = some (integral, rest) := by
  rcases whole with rfl | ⟨digital, noZero⟩
  · rfl
  · rw [← digitRun?_append digital stops]
    obtain ⟨c, others, rfl, -⟩ := exists_cons_of_digits digital
    rw [List.cons_append, integral?]
    rintro more ⟨⟩
    exact noZero rfl

theorem fraction?_append {fraction : List Char} (broken : Fraction fraction)
    (noDot : ∀ c ∈ rest.head?, c ≠ '.') (stops : ∀ c ∈ rest.head?, c.isDigit = false) :
    fraction? (fraction ++ rest) = some (fraction, rest) := by
  rcases broken with rfl | ⟨digits, digital, rfl⟩
  · rw [List.nil_append, fraction?]
    rintro more rfl
    exact noDot '.' rfl rfl
  · rw [List.cons_append, fraction?, digitRun?_append digital stops, Option.map_some]

/-- What stands behind the integral part begins with a dot or with what is behind the fraction. -/
theorem head_fraction_append {fraction : List Char} (broken : Fraction fraction)
    {property : Char → Prop} (dot : property '.') (behind : ∀ c ∈ rest.head?, property c) :
    ∀ c ∈ (fraction ++ rest).head?, property c := by
  rcases broken with rfl | ⟨digits, digital, rfl⟩
  · exact behind
  · rintro c ⟨⟩
    exact dot

theorem exponent?_append {exponent : List Char} (scaled : Exponent exponent) (stops : Stops rest) :
    exponent? (exponent ++ rest) = some (exponent, rest) := by
  rcases scaled with rfl | ⟨mark, sign, digits, marks, signs, digital, rfl⟩
  · cases rest with
    | nil => rfl
    | cons c rest =>
        have noMark : ∀ first ∈ (c :: rest).head?, first ≠ 'e' ∧ first ≠ 'E' :=
          stops.head (by decide)
        simp [exponent?, noMark c rfl]
  · have marked : (mark == 'e' || mark == 'E') = true := by simpa using marks
    have run := digitRun?_append digital (stops.head (by decide))
    rcases signs with rfl | rfl | rfl
    · obtain ⟨c, others, split, isDigit⟩ := exists_cons_of_digits digital
      have unsigned {sign : Char} (signed : sign.isDigit = false) (tail : List Char) :
          digits ++ rest ≠ sign :: tail := by
        rw [split]
        rintro ⟨⟩
        exact absurd isDigit (by simp [signed])
      rw [List.nil_append, List.cons_append, exponent?, if_pos marked, run, Option.map_some]
      · exact unsigned (by decide)
      · exact unsigned (by decide)
    · rw [List.cons_append, List.append_assoc, List.singleton_append, exponent?, if_pos marked,
        run, Option.map_some]
      rfl
    · rw [List.cons_append, List.append_assoc, List.singleton_append, exponent?, if_pos marked,
        run, Option.map_some]
      rfl

/-- What stands behind the fraction begins with the mark of an exponent or with what is behind the
number. -/
theorem head_exponent_append {exponent : List Char} (scaled : Exponent exponent)
    {property : Char → Prop} (marks : property 'e' ∧ property 'E')
    (behind : ∀ c ∈ rest.head?, property c) : ∀ c ∈ (exponent ++ rest).head?, property c := by
  rcases scaled with rfl | ⟨mark, sign, digits, rfl | rfl, signs, digital, rfl⟩
  · exact behind
  · rintro c ⟨⟩
    exact marks.1
  · rintro c ⟨⟩
    exact marks.2

/-- A number is read up to what stops it. -/
theorem number?_append {text : List Char} (number : Number text) (stops : Stops rest) :
    number? (text ++ rest) = some (text, rest) := by
  cases number with
  | @mk sign integral fraction exponent signed whole broken scaled =>
      have readExponent := exponent?_append scaled stops
      have readFraction := fraction?_append broken
        (head_exponent_append scaled (by decide) (stops.head (by decide)))
        (head_exponent_append scaled (by decide) (stops.head (by decide)))
      have readIntegral := integral?_append whole
        (head_fraction_append broken (by decide)
          (head_exponent_append scaled (by decide) (stops.head (by decide))))
      rcases signed with rfl | rfl
      · obtain ⟨c, others, split, isDigit⟩ := exists_cons_of_integral whole
        rw [number?]
        · simp [readIntegral, readFraction, readExponent]
        · rw [split]
          rintro tail ⟨⟩
          exact absurd isDigit (by decide)
      · simp [number?, readIntegral, readFraction, readExponent]

/-! ## Productions

How the reader goes on at each production, given what it makes of the parts. -/

theorem exists_cons_of_number {text : List Char} (number : Number text) :
    ∃ c others, text = c :: others ∧ (c = '-' ∨ c.isDigit = true) := by
  obtain ⟨rfl | rfl, whole, broken, scaled⟩ := number
  · obtain ⟨c, others, rfl, isDigit⟩ := exists_cons_of_integral whole
    exact ⟨c, _, rfl, .inr isDigit⟩
  · exact ⟨'-', _, rfl, .inl rfl⟩

/-- Nothing else begins like a number. -/
theorem value?_number {text : List Char} (number : Number text) (stops : Stops rest)
    (fuel : Nat) :
    value? (fuel + 1) (text ++ rest) = some (.number (String.ofList text), rest) := by
  obtain ⟨c, others, split, head⟩ := exists_cons_of_number number
  rw [value?, number?_append number stops, Option.map_some]
  all_goals
    rw [split, List.cons_append]
    intro tail same
    obtain rfl := (List.cons.inj same).1
    exact absurd head (by decide)

theorem value?_space {c : Char} (space : isSpace c = true) (fuel : Nat) (text : List Char) :
    value? fuel (c :: text) = none := by
  rcases (isSpace_iff c).mp space with rfl | rfl | rfl | rfl <;> cases fuel <;> rfl

/-- A text that a value is read from does not begin with white space. -/
theorem skipSpace_of_value? {text : List Char} {fuel : Nat} {read : Value × List Char}
    (found : value? fuel text = some read) : skipSpace text = text := by
  cases text with
  | nil => rfl
  | cons c text =>
      refine skipSpace_cons (Bool.eq_false_iff.mpr fun space => ?_) text
      rw [value?_space space] at found
      contradiction

/-- A list that an item is read from is not closed at once. -/
theorem value?_array {text : List Char} {items : List Value} {fuel : Nat}
    (read : items? fuel (skipSpace text) = some (items, rest)) :
    value? (fuel + 1) ('[' :: text) = some (.array items, rest) := by
  rw [value?]
  split
  · next tail closed =>
      rw [closed] at read
      cases fuel with
      | zero => contradiction
      | succ fuel => cases fuel <;> contradiction
  · rw [read, Option.map_some]

theorem value?_object {text : List Char} {members : List (Option String × Value)} {fuel : Nat}
    (read : members? fuel (skipSpace text) = some (members, rest)) :
    value? (fuel + 1) ('{' :: text) = some (.object members, rest) := by
  rw [value?]
  split
  · next tail closed =>
      rw [closed] at read
      cases fuel <;> contradiction
  · rw [read, Option.map_some]

theorem items?_last {text left : List Char} {item : Value} {fuel : Nat}
    (read : value? fuel text = some (item, left)) (closes : skipSpace left = ']' :: rest) :
    items? (fuel + 1) text = some ([item], rest) := by
  simp [items?, read, closes]

theorem items?_more {text left next : List Char} {item : Value} {items : List Value} {fuel : Nat}
    (read : value? fuel text = some (item, left)) (goesOn : skipSpace left = ',' :: next)
    (others : items? fuel (skipSpace next) = some (items, rest)) :
    items? (fuel + 1) text = some (item :: items, rest) := by
  simp [items?, read, goesOn, others]

/-- Whether a member is read at the head of a text, with what is left of the text. -/
def ReadsMember (fuel : Nat) (text : List Char) (key : Option String) (value : Value)
    (left : List Char) : Prop :=
  ∃ inside behind body, expect? '"' text = some inside ∧ string? inside = some (key, behind) ∧
    expect? ':' (skipSpace behind) = some body ∧ value? fuel (skipSpace body) = some (value, left)

theorem members?_last {text left : List Char} {key : Option String} {value : Value} {fuel : Nat}
    (read : ReadsMember fuel text key value left) (closes : skipSpace left = '}' :: rest) :
    members? (fuel + 1) text = some ([(key, value)], rest) := by
  obtain ⟨inside, behind, body, quote, named, colon, found⟩ := read
  simp [members?, quote, named, colon, found, closes]

theorem members?_more {text left next : List Char} {key : Option String} {value : Value}
    {members : List (Option String × Value)} {fuel : Nat}
    (read : ReadsMember fuel text key value left) (goesOn : skipSpace left = ',' :: next)
    (others : members? fuel (skipSpace next) = some (members, rest)) :
    members? (fuel + 1) text = some ((key, value) :: members, rest) := by
  obtain ⟨inside, behind, body, quote, named, colon, found⟩ := read
  simp [members?, quote, named, colon, found, goesOn, others]

/-! ## Documents -/

/-- What the reader makes of a text that stands for a part and of what follows it.  White space in
front of a part is passed over first, and some may be left behind it. -/
def Reads : Part → List Char → Prop
  | .value value, text => ∀ rest fuel, Stops rest → 2 * text.length ≤ fuel →
      value? (fuel + 1) (text ++ rest) = some (value, rest)
  | .spaced value, text => ∀ rest fuel, Stops rest → 2 * text.length < fuel →
      ∃ left, value? fuel (skipSpace (text ++ rest)) = some (value, left) ∧
        skipSpace left = skipSpace rest
  | .items items, text => ∀ rest fuel, 2 * text.length < fuel →
      items? (fuel + 1) (skipSpace (text ++ ']' :: rest)) = some (items, rest)
  | .member key value, text => ∀ rest fuel, Stops rest → 2 * text.length < fuel →
      ∃ left, ReadsMember fuel (skipSpace (text ++ rest)) key value left ∧
        skipSpace left = skipSpace rest
  | .members members, text => ∀ rest fuel, 2 * text.length < fuel →
      members? (fuel + 1) (skipSpace (text ++ '}' :: rest)) = some (members, rest)

/-- Whatever the grammar derives is read.  Two units of fuel for every character are enough: a list
takes one for its brackets and each of its items one more. -/
theorem reads_of_derives {part : Part} {text : List Char} (derives : Derives part text) :
    Reads part text := by
  induction derives with
  | null | true | false =>
      intro rest fuel stops enough
      rfl
  | number number =>
      intro rest fuel stops enough
      exact value?_number number stops fuel
  | string quoted =>
      intro rest fuel stops enough
      obtain ⟨inside, split, read⟩ := string?_of_quoted quoted rest
      rw [split, value?, read, Option.map_some]
  | emptyArray blank =>
      intro rest fuel stops enough
      rw [List.cons_append, List.append_assoc, value?, skipSpace_append blank]
      rfl
  | array listed ih =>
      intro rest fuel stops enough
      rw [List.length_cons, List.length_append, List.length_singleton] at enough
      rw [List.cons_append, List.append_assoc, List.singleton_append]
      cases fuel with
      | zero => omega
      | succ fuel => exact value?_array (ih rest fuel (by omega))
  | emptyObject blank =>
      intro rest fuel stops enough
      rw [List.cons_append, List.append_assoc, value?, skipSpace_append blank]
      rfl
  | object listed ih =>
      intro rest fuel stops enough
      rw [List.length_cons, List.length_append, List.length_singleton] at enough
      rw [List.cons_append, List.append_assoc, List.singleton_append]
      cases fuel with
      | zero => omega
      | succ fuel => exact value?_object (ih rest fuel (by omega))
  | @spaced value before text after opens written closes ih =>
      intro rest fuel stops enough
      simp only [List.length_append] at enough
      cases fuel with
      | zero => omega
      | succ fuel =>
          have read := ih (after ++ rest) fuel (stops_append closes stops) (by omega)
          refine ⟨after ++ rest, ?_, skipSpace_append closes rest⟩
          rw [List.append_assoc, List.append_assoc, skipSpace_append opens,
            skipSpace_of_value? read, read]
  | lastItem written ih =>
      intro rest fuel enough
      obtain ⟨left, read, same⟩ := ih (']' :: rest) fuel (stops_cons (by decide) rest) enough
      exact items?_last read same
  | @item item items text others written listed ih ihOthers =>
      intro rest fuel enough
      rw [List.length_append, List.length_cons] at enough
      rw [List.append_assoc, List.cons_append]
      obtain ⟨left, read, same⟩ :=
        ih (',' :: (others ++ ']' :: rest)) fuel (stops_cons (by decide) _) (by omega)
      cases fuel with
      | zero => omega
      | succ fuel => exact items?_more read same (ihOthers rest fuel (by omega))
  | @member key value before name after text opens named closes written ih =>
      intro rest fuel stops enough
      simp only [List.length_append, List.length_cons] at enough
      obtain ⟨left, read, same⟩ := ih rest fuel stops (by omega)
      obtain ⟨inside, split, found⟩ := string?_of_quoted named (after ++ ':' :: (text ++ rest))
      refine ⟨left, ⟨inside, _, text ++ rest, ?_, found, ?_, read⟩, same⟩
      · rw [List.append_assoc, List.append_assoc, List.append_assoc, List.cons_append,
          skipSpace_append opens, split]
        rfl
      · rw [skipSpace_append closes]
        rfl
  | lastMember written ih =>
      intro rest fuel enough
      obtain ⟨left, read, same⟩ := ih ('}' :: rest) fuel (stops_cons (by decide) rest) enough
      exact members?_last read same
  | @members key value members text others written listed ih ihOthers =>
      intro rest fuel enough
      rw [List.length_append, List.length_cons] at enough
      rw [List.append_assoc, List.cons_append]
      obtain ⟨left, read, same⟩ :=
        ih (',' :: (others ++ '}' :: rest)) fuel (stops_cons (by decide) _) (by omega)
      cases fuel with
      | zero => omega
      | succ fuel => exact members?_more read same (ihOthers rest fuel (by omega))

/-- Every document is read as the value that it stands for. -/
theorem parse?_of_document {text : List Char} {value : Value} (document : Document text value) :
    parse? text = some value := by
  cases document with
  | @spaced value before text after opens written closes =>
      have stops : Stops after := List.append_nil after ▸ stops_append closes stops_nil
      -- The fuel is counted from the first character that is not white space.
      have enough : 2 * text.length ≤ 2 * (text ++ after).length + 1 := by
        rw [List.length_append]
        omega
      have read := reads_of_derives written after _ stops enough
      have source : skipSpace (before ++ text ++ after) = text ++ after := by
        rw [List.append_assoc, skipSpace_append opens, skipSpace_of_value? read]
      have done : skipSpace after = [] := List.append_nil after ▸ skipSpace_append closes []
      rw [parse?]
      simp only [source, read, done, Option.bind_eq_bind, Option.bind_some]
      rfl

/-- A document stands for one value only. -/
theorem Document.unique {text : List Char} {first second : Value} (one : Document text first)
    (other : Document text second) : first = second :=
  Option.some.inj ((parse?_of_document one).symm.trans (parse?_of_document other))

theorem document_iff_eq {text : List Char} {value : Value} (document : Document text value)
    (other : Value) : Document text other ↔ other = value :=
  ⟨fun derives => derives.unique document, fun same => same ▸ document⟩

end Imprint.Json
