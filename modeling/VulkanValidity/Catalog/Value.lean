/-
  VulkanValidity.Catalog.Value

  The values of the notation that rule catalogs are written in. A value is a number, a character, a
  string, a list, a map, an optional value, or a name with or without parts; the parts of a record
  have names of their own. Values nest up to a limit, of which every bracket takes one level and
  every part between brackets one more.

  A catalog has a use for strings, names and optional names alone. Values of any kind are skipped,
  which also checks them.
-/

import VulkanValidity.Catalog.Lexeme
import VulkanValidity.Named

namespace VulkanValidity.Catalog

/-- The extensions of the notation that a text enables. -/
structure Extensions where
  /-- An optional value may be written without saying that it is present. -/
  implicitPresent : Bool := false
deriving DecidableEq, Repr

/-- Enables the extension of the given name. The extensions about wrapped values are known, but no
value of a catalog is wrapped. -/
def Extensions.enable? (ext : Extensions) : String → Option Extensions
  | "implicit_some" => some { ext with implicitPresent := true }
  | "unwrap_newtypes" => some ext
  | "unwrap_variant_newtypes" => some ext
  | _ => none

namespace Reader

variable {α : Type}

/-! ## Values of a known kind -/

/-- Reads the name of a value of an enumeration. -/
def named [Named α] : Reader α := do
  let name ← identifier
  (Named.ofName? name : Option α)

/-- Reads the value that is present, after the word for that if the text has it. -/
def present (value : Reader α) : Reader α := do
  let isMarked ← accept "Some"
  if isMarked then blank
  if isMarked && (← accept "(") then
    blank
    let found ← value
    let _ ← comma
    expect ")"
    pure found
  else value

/-- Reads a value that may be absent. Only an extension allows to leave out the brackets around one
that is present. -/
def option (ext : Extensions) (value : Reader α) : Reader (Option α) := do
  if ← accept "None" then pure none
  else
    let isWrapped ← ahead do
      expect "Some"
      blank
      expect "("
    guard (isWrapped || ext.implicitPresent)
    some <$> present value

/-- Takes the name of a field and the colon after it. -/
def key : Reader String := do
  let name ← identifier
  blank
  symbol ":"
  pure name

/-! ## Values of any kind -/

/-- The names that are values in themselves, and that no parts follow. -/
def constants : List String := ["true", "false", "None", "inf", "NaN"]

/-- Takes one of the given names, and tells whether there was one. -/
def acceptAny : List String → Reader Bool
  | [] => pure false
  | name :: others => do
    if ← acceptName name then pure true else acceptAny others

/-- Skips the parts of a tuple or a record after the opening bracket. -/
def skipParts (part : Reader Unit) : Reader Unit := do
  let isRecord ← ahead do
    blank
    key
  let _ ← items ")" (if isRecord then key *> part else part)

/-- Skips a key of a map and its value. -/
def skipPair (part : Reader Unit) : Reader Unit := do
  part
  blank
  symbol ":"
  part

/-- Skips what stands between brackets, if it may nest that deep. -/
def skipNested (part? : Option (Reader Unit)) (nested : Reader Unit → Reader Unit) : Reader Unit :=
  part?.elim failure nested

/-- Skips a value: `inner` skips what an optional value holds, and `part?` what stands between
brackets, unless there may be none. -/
def skipValue (ext : Extensions) (inner : Reader Unit) (part? : Option (Reader Unit)) :
    Reader Unit := do
  if ← acceptAny constants then pure ()
  else if ← namedAhead "Some" then
    let _ ← option ext inner
  else if ← accept "()" then pure ()
  else
    let isNamed := (← optionally identifier).isSome
    if isNamed then blank
    if ← accept "(" then skipNested part? skipParts
    else if isNamed then pure ()
    else if ← accept "[" then
      skipNested part? fun part => do
        let _ ← items "]" part
    else if ← accept "\x7b" then
      skipNested part? fun part => do
        let _ ← items "\x7d" (skipPair part)
    else
      match ← peek? with
      | some '"' | some 'r' =>
        let _ ← text
      | some '\'' =>
        let _ ← character
      | some c =>
        guard (c.isDigit || c == '+' || c == '-' || c == '.')
        number
      | none => failure

/-- Skips a value that may nest to the given depth. -/
def skip (ext : Extensions) : Nat → Reader Unit
  | 0, cs => skipValue ext failure none cs
  | 1, cs => skipValue ext (skip ext 0) (some failure) cs
  | depth + 2, cs => skipValue ext (skip ext (depth + 1)) (some (skip ext depth)) cs

end Reader

end VulkanValidity.Catalog
