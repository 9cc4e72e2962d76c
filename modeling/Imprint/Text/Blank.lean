/-!
# Blank characters

White space in the sense of the Unicode character database, and the two ways texts are freed of
it: at both ends, or everywhere.
-/

namespace Imprint.Text

/-- Whether a character is white space. -/
def isBlank (c : Char) : Bool :=
  let code := c.toNat
  (9 ≤ code && code ≤ 13) || code == 0x20 || code == 0x85 || code == 0xa0 || code == 0x1680 ||
    (0x2000 ≤ code && code ≤ 0x200a) || code == 0x2028 || code == 0x2029 || code == 0x202f ||
    code == 0x205f || code == 0x3000

/-- A text without the white space that it starts with. -/
def trimStart (text : List Char) : List Char := text.dropWhile isBlank

/-- A text without the white space that it ends with. -/
def trimEnd (text : List Char) : List Char := (text.reverse.dropWhile isBlank).reverse

/-- A text without the white space at both ends. -/
def trim (text : List Char) : List Char := trimEnd (trimStart text)

/-- A string without the white space at both ends. -/
def trimmed (text : String) : String := String.ofList (trim text.toList)

/-- Whether a string is empty or white space only. -/
def isBlankText (text : String) : Bool := text.toList.all isBlank

@[simp]
theorem trimStart_nil : trimStart [] = [] := rfl

theorem trimStart_cons (c : Char) (rest : List Char) :
    trimStart (c :: rest) = if isBlank c then trimStart rest else c :: rest := by
  simp [trimStart, List.dropWhile_cons]

end Imprint.Text
