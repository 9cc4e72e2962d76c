import Imprint.Json.Value
import Imprint.Text.Numeral

/-!
# The grammar of JSON

Which texts are JSON documents, and for which values they stand.  There is one constructor for each
production, and a text is related to what it stands for without saying how it is read.
-/

namespace Imprint.Json

open Text

/-! ## Tokens -/

/-- Text that is white space only. -/
def Space (text : List Char) : Prop := ∀ c ∈ text, c = ' ' ∨ c = '\t' ∨ c = '\n' ∨ c = '\r'

/-- The marks that stand for a character behind a backslash. -/
def escapeMarks : List (Char × Char) :=
  [('"', '"'), ('\\', '\\'), ('/', '/'), ('b', '\x08'), ('f', '\x0c'), ('n', '\n'), ('r', '\r'),
   ('t', '\t')]

/-- Four hexadecimal digits and the code unit that they are. -/
structure CodeUnit (digits : List Char) (code : Nat) : Prop where
  length_eq : digits.length = 4
  number_eq : hexNumber? digits = some code

/-- Whether a code unit is the first half of a surrogate pair. -/
def IsHigh (code : Nat) : Prop := 0xd800 ≤ code ∧ code < 0xdc00
deriving Decidable

/-- Whether a code unit is the second half of a surrogate pair. -/
def IsLow (code : Nat) : Prop := 0xdc00 ≤ code ∧ code < 0xe000
deriving Decidable

/-- Whether a text begins with the escape of a second half. -/
def StartsLow (text : List Char) : Prop :=
  ∃ digits code rest, text = '\\' :: 'u' :: (digits ++ rest) ∧ CodeUnit digits code ∧ IsLow code

/-- The inside of a string and the characters that it stands for.  Half of a surrogate pair may be
written without the other half, but then the string stands for no characters. -/
inductive Chars : List Char → Option (List Char) → Prop where
  | nil : Chars [] (some [])
  | plain {c : Char} {body : List Char} {text : Option (List Char)} (printable : 0x20 ≤ c.toNat)
      (notQuote : c ≠ '"') (notBackslash : c ≠ '\\') (rest : Chars body text) :
      Chars (c :: body) (text.map (c :: ·))
  | marked {mark c : Char} {body : List Char} {text : Option (List Char)}
      (listed : (mark, c) ∈ escapeMarks) (rest : Chars body text) :
      Chars ('\\' :: mark :: body) (text.map (c :: ·))
  | unit {digits body : List Char} {c : Char} {text : Option (List Char)}
      (unit : CodeUnit digits c.toNat) (rest : Chars body text) :
      Chars ('\\' :: 'u' :: (digits ++ body)) (text.map (c :: ·))
  | pair {first second body : List Char} {high low : Nat} {text : Option (List Char)}
      (firstUnit : CodeUnit first high) (isHigh : IsHigh high)
      (secondUnit : CodeUnit second low) (isLow : IsLow low) (rest : Chars body text) :
      Chars ('\\' :: 'u' :: (first ++ '\\' :: 'u' :: (second ++ body)))
        (text.map (Char.ofNat (0x10000 + (high - 0xd800) * 0x400 + (low - 0xdc00)) :: ·))
  | half {digits body : List Char} {code : Nat} {text : Option (List Char)}
      (unit : CodeUnit digits code) (surrogate : IsHigh code ∨ IsLow code)
      (alone : IsHigh code → ¬ StartsLow body) (rest : Chars body text) :
      Chars ('\\' :: 'u' :: (digits ++ body)) none

/-- A string with its quotes. -/
def Quoted (text : List Char) (string : Option String) : Prop :=
  ∃ body chars, Chars body chars ∧ text = '"' :: (body ++ ['"']) ∧ string = chars.map String.ofList

/-! ## Numbers -/

/-- Decimal digits, at least one. -/
def Digits (text : List Char) : Prop := text ≠ [] ∧ ∀ c ∈ text, c.isDigit = true

/-- The integral part of a number has no zero in front. -/
def Integral (text : List Char) : Prop := text = ['0'] ∨ Digits text ∧ text.head? ≠ some '0'

/-- The fraction of a number may be left out. -/
def Fraction (text : List Char) : Prop := text = [] ∨ ∃ digits, Digits digits ∧ text = '.' :: digits

/-- The exponent of a number may be left out, and so may the sign of an exponent. -/
def Exponent (text : List Char) : Prop :=
  text = [] ∨ ∃ mark sign digits, (mark = 'e' ∨ mark = 'E') ∧
    (sign = [] ∨ sign = ['+'] ∨ sign = ['-']) ∧ Digits digits ∧ text = mark :: (sign ++ digits)

/-- A number. -/
inductive Number : List Char → Prop where
  | mk {sign integral fraction exponent : List Char} (signed : sign = [] ∨ sign = ['-'])
      (whole : Integral integral) (broken : Fraction fraction) (scaled : Exponent exponent) :
      Number (sign ++ integral ++ fraction ++ exponent)

/-! ## Values -/

/-- What a text can stand for: a value, a value among white space, the values of an array, or one
or all of the members of an object. -/
inductive Part where
  | value (value : Value)
  | spaced (value : Value)
  | items (items : List Value)
  | member (key : Option String) (value : Value)
  | members (members : List (Option String × Value))

/-- The texts that stand for a part. -/
inductive Derives : Part → List Char → Prop where
  | null : Derives (.value .null) ['n', 'u', 'l', 'l']
  | true : Derives (.value (.boolean true)) ['t', 'r', 'u', 'e']
  | false : Derives (.value (.boolean false)) ['f', 'a', 'l', 's', 'e']
  | number {text : List Char} (number : Number text) :
      Derives (.value (.number (String.ofList text))) text
  | string {text : List Char} {string : Option String} (quoted : Quoted text string) :
      Derives (.value (.string string)) text
  | emptyArray {space : List Char} (blank : Space space) :
      Derives (.value (.array [])) ('[' :: (space ++ [']']))
  | array {items : List Value} {body : List Char} (listed : Derives (.items items) body) :
      Derives (.value (.array items)) ('[' :: (body ++ [']']))
  | emptyObject {space : List Char} (blank : Space space) :
      Derives (.value (.object [])) ('{' :: (space ++ ['}']))
  | object {members : List (Option String × Value)} {body : List Char}
      (listed : Derives (.members members) body) :
      Derives (.value (.object members)) ('{' :: (body ++ ['}']))
  | spaced {value : Value} {before text after : List Char} (opens : Space before)
      (written : Derives (.value value) text) (closes : Space after) :
      Derives (.spaced value) (before ++ text ++ after)
  | lastItem {item : Value} {text : List Char} (written : Derives (.spaced item) text) :
      Derives (.items [item]) text
  | item {item : Value} {items : List Value} {text rest : List Char}
      (written : Derives (.spaced item) text) (others : Derives (.items items) rest) :
      Derives (.items (item :: items)) (text ++ ',' :: rest)
  | member {key : Option String} {value : Value} {before name after text : List Char}
      (opens : Space before) (named : Quoted name key) (closes : Space after)
      (written : Derives (.spaced value) text) :
      Derives (.member key value) (before ++ name ++ after ++ ':' :: text)
  | lastMember {key : Option String} {value : Value} {text : List Char}
      (written : Derives (.member key value) text) : Derives (.members [(key, value)]) text
  | members {key : Option String} {value : Value} {members : List (Option String × Value)}
      {text rest : List Char} (written : Derives (.member key value) text)
      (others : Derives (.members members) rest) :
      Derives (.members ((key, value) :: members)) (text ++ ',' :: rest)

/-- Whether a text is a document that stands for a value: nothing but white space surrounds the
value. -/
def Document (text : List Char) (value : Value) : Prop := Derives (.spaced value) text

/-! ## Putting texts together -/

theorem space_nil : Space [] := by simp [Space]

theorem space_append {first second : List Char} (one : Space first) (other : Space second) :
    Space (first ++ second) := fun c member =>
  (List.mem_append.mp member).elim (one c) (other c)

/-- Whether a character stands for itself in a string. -/
def isPlain (c : Char) : Bool := 0x20 ≤ c.toNat && c != '"' && c != '\\'

theorem chars_self {text : List Char} (plain : text.all isPlain = true) :
    Chars text (some text) := by
  induction text with
  | nil => exact .nil
  | cons c text ih =>
      rw [List.all_cons, Bool.and_eq_true] at plain
      obtain ⟨self, others⟩ := plain
      rw [isPlain, Bool.and_eq_true, Bool.and_eq_true, decide_eq_true_eq, bne_iff_ne,
        bne_iff_ne] at self
      exact .plain self.1.1 self.1.2 self.2 (ih others)

theorem quoted_of_chars {body : List Char} {text : String}
    (inside : Chars body (some text.toList)) : Quoted ('"' :: (body ++ ['"'])) (some text) :=
  ⟨body, _, inside, rfl, by rw [Option.map_some, String.ofList_toList]⟩

namespace Derives

/-- More white space may follow a value among white space. -/
theorem spaced_append {value : Value} {text space : List Char}
    (derives : Derives (.spaced value) text) (blank : Space space) :
    Derives (.spaced value) (text ++ space) := by
  cases derives with
  | spaced opens written closes =>
      rw [List.append_assoc]
      exact .spaced opens written (space_append closes blank)

/-- More white space may follow a member. -/
theorem member_append {key : Option String} {value : Value} {text space : List Char}
    (derives : Derives (.member key value) text) (blank : Space space) :
    Derives (.member key value) (text ++ space) := by
  cases derives with
  | member opens named closes written =>
      rw [List.append_assoc, List.cons_append]
      exact .member opens named closes (written.spaced_append blank)

/-- More white space may stand in front of a value among white space. -/
theorem spaced_prepend {value : Value} {text space : List Char} (blank : Space space)
    (derives : Derives (.spaced value) text) : Derives (.spaced value) (space ++ text) := by
  cases derives with
  | spaced opens written closes =>
      rw [← List.append_assoc, ← List.append_assoc]
      exact .spaced (space_append blank opens) written closes

theorem items_prepend {items : List Value} {text space : List Char} (blank : Space space)
    (derives : Derives (.items items) text) : Derives (.items items) (space ++ text) := by
  cases derives with
  | lastItem written => exact .lastItem (written.spaced_prepend blank)
  | item written others =>
      rw [← List.append_assoc]
      exact .item (written.spaced_prepend blank) others

theorem member_prepend {key : Option String} {value : Value} {text space : List Char}
    (blank : Space space) (derives : Derives (.member key value) text) :
    Derives (.member key value) (space ++ text) := by
  cases derives with
  | member opens named closes written =>
      rw [← List.append_assoc, ← List.append_assoc, ← List.append_assoc]
      exact .member (space_append blank opens) named closes written

theorem members_prepend {members : List (Option String × Value)} {text space : List Char}
    (blank : Space space) (derives : Derives (.members members) text) :
    Derives (.members members) (space ++ text) := by
  cases derives with
  | lastMember written => exact .lastMember (written.member_prepend blank)
  | members written others =>
      rw [← List.append_assoc]
      exact .members (written.member_prepend blank) others

/-- Members with commas between them, and white space behind the last one. -/
theorem members_map {α : Type} {key : α → String} {value : α → Value} {text : α → List Char}
    (written : ∀ entry, Derives (.member (some (key entry)) (value entry)) (text entry))
    {space : List Char} (blank : Space space) (entry : α) (entries : List α) :
    Derives (.members ((entry :: entries).map fun entry => (some (key entry), value entry)))
      ([','].intercalate ((entry :: entries).map text) ++ space) := by
  induction entries generalizing entry with
  | nil =>
      simp only [List.map_cons, List.map_nil, List.intercalate_singleton]
      exact .lastMember ((written entry).member_append blank)
  | cons next entries ih =>
      simp only [List.map_cons] at ih ⊢
      rw [List.intercalate_cons_cons, List.append_assoc, List.append_assoc]
      exact .members (written entry) (ih next)

end Derives

end Imprint.Json
