/-!
# Commit descriptors

A commit is described by its tag if it has one, else by its branch and the beginning of its hash.
Characters of a branch that do not belong into file names are replaced.
-/

namespace Imprint

/-- The number of characters of a hash that identify a commit. -/
def shortHashLength : Nat := 7

/-- The beginning of a hash. -/
def shortHash (hash : List Char) : List Char := hash.take shortHashLength

/-- Characters of a branch that are kept. -/
def isBranchChar (c : Char) : Bool := c.isAlphanum || c == '_' || c == '-'

/-- A branch in which every run of other characters has become one hyphen; `inRun` tells whether
such a run is under way. -/
def cleanFrom (inRun : Bool) : List Char → List Char
  | [] => []
  | c :: rest =>
      if isBranchChar c then c :: cleanFrom false rest
      else if inRun then cleanFrom true rest
      else '-' :: cleanFrom true rest

/-- A branch in which every run of other characters has become one hyphen. -/
def cleanBranch (branch : List Char) : List Char := cleanFrom false branch

/-- Two parts with a hyphen between them, unless one is empty. -/
def joinParts (first second : List Char) : List Char :=
  if first.isEmpty then second
  else if second.isEmpty then first
  else first ++ '-' :: second

/-- The descriptor of a commit. -/
def smartDescriptor (tag branch : Option String) (hash : String) : String :=
  let tag := tag.getD ""
  if tag.isEmpty then
    String.ofList (joinParts (cleanBranch (branch.getD "").toList) (shortHash hash.toList))
  else tag

end Imprint
