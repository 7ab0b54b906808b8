/-
  VulkanValidity.Catalog.Entry

  The entries of rule catalogs, and how they are read. A catalog is a list of records; before it,
  attributes may enable extensions of the notation. A record names its fields in any order, and no
  field that counts is written twice. Fields of other names are skipped.
-/

import VulkanValidity.Catalog.Value
import VulkanValidity.Rule

namespace VulkanValidity

/-! ## Entries -/

/-- What a catalog says of a rule, without the predicate that it is checked with. -/
structure CatalogEntry where
  /-- The name of the rule, and of its predicate. -/
  rule : String
  vuid : String
  kind : ErrorKind
  severity : Severity := .error
  checkpoint : Option Checkpoint := none
deriving DecidableEq, Repr

/-- The rule that an entry stands for, with a given predicate. -/
def CatalogEntry.toRule (entry : CatalogEntry) (predicate : Predicate) : Rule where
  name := entry.rule
  vuid := entry.vuid
  kind := entry.kind
  severity := entry.severity
  checkpoint := entry.checkpoint
  predicate := predicate

/-- A field of an entry as it is written. -/
inductive EntryField
  | rule (name : String)
  | vuid (name : String)
  | kind (value : ErrorKind)
  | severity (value : Severity)
  | checkpoint (value : Option Checkpoint)
  | skipped
deriving DecidableEq, Repr

namespace EntryField

/-- What `f` picks out of the fields if it picks once, or `missing` if it picks nothing. -/
def pick? {α : Type} (fields : List EntryField) (missing : Option α) (f : EntryField → Option α) :
    Option α :=
  match fields.filterMap f with
  | [] => missing
  | [value] => some value
  | _ => none

/-- The entry that has the given fields. Only the severity and the checkpoint may be left out. -/
def entry? (fields : List EntryField) : Option CatalogEntry := do
  let rule ← pick? fields none fun | rule name => some name | _ => none
  let vuid ← pick? fields none fun | vuid name => some name | _ => none
  let kind ← pick? fields none fun | kind value => some value | _ => none
  let severity ← pick? fields (some .error) fun | severity value => some value | _ => none
  let checkpoint ← pick? fields (some none) fun | checkpoint value => some value | _ => none
  pure { rule, vuid, kind, severity, checkpoint }

end EntryField

/-! ## Reading -/

namespace Catalog.Reader

/-- How deep the parts of a text may nest. -/
def depthLimit : Nat := 128

/-- How deep the value of a field is: in a list, which is one level, as an element of the list, in
the record that this element is, and as a part of the record. -/
def fieldDepth : Nat := 4

/-- Takes a field of an entry. A field that entries do not have is skipped. -/
def entryField (ext : Extensions) : Reader EntryField := do
  match ← key with
  | "rule" => .rule <$> text
  | "vuid" => .vuid <$> text
  | "kind" => .kind <$> named
  | "severity" => .severity <$> named
  | "checkpoint" => .checkpoint <$> option ext named
  | _ =>
    skip ext (depthLimit - fieldDepth)
    pure .skipped

/-- Takes an entry, which may have the name of its structure before the fields. -/
def entry (ext : Extensions) : Reader CatalogEntry := do
  let name ← optionally identifier
  guard (name.all (· == "CatalogEntry"))
  blank
  expect "("
  let fields ← items ")" (entryField ext)
  EntryField.entry? fields

/-- Reads an attribute, which enables further extensions. -/
def enabling (ext : Extensions) : Reader Extensions := do
  symbol "#"
  symbol "!"
  symbol "["
  symbol "enable"
  symbol "("
  let names ← items ")" identifier
  guard !names.isEmpty
  blank
  symbol "]"
  (names.foldlM Extensions.enable? ext : Option Extensions)

/-- Reads at most `fuel` attributes, for as long as there are some. -/
def enablingAll (ext : Extensions) : Nat → Reader Extensions
  | 0 => failure
  | fuel + 1 => do
    if (← peek?) = some '#' then
      let ext ← enabling ext
      enablingAll ext fuel
    else pure ext

/-- Reads the attributes at the start of a text. Each of them takes at least one character. -/
def extensions : Reader Extensions := fun cs => enablingAll {} (cs.length + 1) cs

/-- Takes a whole catalog: the extensions that it enables, and the list of its entries. -/
def catalog : Reader (List CatalogEntry) := do
  blank
  let ext ← extensions
  expect "["
  let entries ← items "]" (entry ext)
  blank
  pure entries

end Catalog.Reader

/-- The entries of the text of a catalog, if it can be read. -/
def catalogEntries? (source : String) : Option (List CatalogEntry) :=
  Catalog.Reader.whole? Catalog.Reader.catalog source

end VulkanValidity
