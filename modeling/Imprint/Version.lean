import Imprint.Error
import Imprint.Pattern.Parser

/-!
# Versions in texts

A version is picked out of a text by a pattern: it is what the first group captures in the first
match.
-/

namespace Imprint

/-- The pattern that is used on tags: an optional letter, then digits and dots. -/
def defaultTagPattern : String := "^v?([0-9.]+)$"

/-- The pattern that is used on files: digits and dots on a line behind a label. -/
def defaultFilePattern : String := "Version: ([0-9.]+)\n"

/-- The part of a text that the first group of a pattern captures. -/
def Pattern.firstCapture? (pattern : Pattern) (text : String) : Option String :=
  ((pattern.search none text.toList).bind Place.captured).map String.ofList

/-- The version that a pattern picks out of a text; `origin` names the text in errors. -/
def extractVersion (origin text pattern : String) : Except Error String :=
  match Pattern.parse? pattern with
  | none => .error (.invalidPattern pattern .malformed)
  | some parsed =>
      if parsed.groupCount = 0 then .error (.invalidPattern pattern .noCaptureGroup)
      else
        match parsed.firstCapture? text with
        | some version => .ok version
        | none => .error (.noVersion origin pattern)

end Imprint
