import Imprint.Field
import Imprint.Json.Parser
import Imprint.Json.Printer

/-!
# Records as documents

A record is exchanged as a JSON object with five string members.  Other members are passed over,
missing ones count as empty, and a member may not be given twice.  A list of up to five strings is
read as the values in canonical order.
-/

namespace Imprint

open Json (Value)

/-- The member under which a field is written. -/
def Field.memberKey : Field → String
  | .version => "version"
  | .commitHash => "git_hash"
  | .commitDate => "git_date"
  | .commitDescriptor => "git_smart"
  | .buildDate => "build_date"

/-- The field that a member gives.  The descriptor has a second key. -/
def Field.ofMemberKey? (key : String) : Option Field :=
  if key = "git_tag_or_branch" then some .commitDescriptor
  else Field.all.find? fun field => field.memberKey = key

namespace Record

/-- Values for some of the fields. -/
abbrev Partial := PerField (Option String)

/-- Takes one more member into account. -/
def addMember (known : Partial) (key : Option String) (member : Value) : Option Partial := do
  let key ← key
  match Field.ofMemberKey? key with
  | none => some known
  | some field =>
      match known.get field with
      | some _ => none
      | none => (member.text?).map fun text => known.set field (some text)

/-- The record whose missing values are empty. -/
def ofPartial (known : Partial) : Record :=
  PerField.ofFunction fun field => (known.get field).getD ""

/-- The record that a JSON value describes. -/
def ofValue? : Value → Option Record
  | .object members =>
      (members.foldlM (fun known (key, member) => addMember known key member)
        (PerField.const none)).map ofPartial
  | .array items =>
      if items.length ≤ 5 then
        (items.mapM Value.text?).map fun texts =>
          PerField.ofFunction fun field => texts[field.index]?.getD ""
      else none
  | _ => none

/-- The record that a JSON document describes. -/
def ofJson? (text : String) : Option Record := (Json.parse? text.toList).bind ofValue?

/-- A record as a JSON object. -/
def toValue (record : Record) : Value :=
  .ofEntries (record.entries.map fun (field, value) => (field.memberKey, .ofString value))

end Record

end Imprint
