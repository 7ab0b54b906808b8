/-
  VulkanValidity.Catalog

  Rule catalogs: lists of entries that name the rules of an engine. An entry takes its predicate from
  a table by the name of the rule, and says which identifier, kind and severity the diagnostics have
  and at which checkpoint the rule is evaluated. The whole text is read before any entry is used;
  then the first entry that cannot be used is the error.

  The text is read by a reader that is given (`Engine.ofCatalog`), and nothing is supposed of it. The
  reader for catalogs in their notation is one of them (`Engine.ofText`).
-/

import VulkanValidity.Catalog.Entry

namespace VulkanValidity

/-- The reasons why an engine cannot be made from a catalog. -/
inductive CatalogError
  | unreadable
  /-- There is no predicate for the rule of an entry. -/
  | unknownRule (name : String)
  /-- A rule cannot be registered. -/
  | notRegistered (cause : DuplicateRule)
deriving DecidableEq, Repr

/-- The message of an error. -/
def CatalogError.text : CatalogError → String
  | unreadable => "the rule catalog could not be parsed"
  | unknownRule name => s!"the rule catalog names an unknown predicate `{name}`"
  | notRegistered _ => "a rule of the catalog could not be registered"

namespace Engine

/-- Registers the rule of an entry, with its predicate from the table. -/
def registerEntry (table : PredicateTable) (engine : Engine) (entry : CatalogEntry) :
    Except CatalogError Engine :=
  match table.find? entry.rule with
  | none => .error (.unknownRule entry.rule)
  | some predicate =>
    match engine.register (entry.toRule predicate) with
    | .ok engine => .ok engine
    | .error cause => .error (.notRegistered cause)

/-- The engine with the rules of a list of entries. -/
def ofEntries (entries : List CatalogEntry) (table : PredicateTable) : Except CatalogError Engine :=
  entries.foldlM (registerEntry table) {}

/-- The engine with the rules of a catalog, as a reader finds its entries in the text. -/
def ofCatalog (read? : String → Option (List CatalogEntry)) (source : String) (table : PredicateTable) :
    Except CatalogError Engine :=
  match read? source with
  | some entries => ofEntries entries table
  | none => .error .unreadable

/-- The engine with the rules of a catalog in its notation. -/
def ofText : String → PredicateTable → Except CatalogError Engine := ofCatalog catalogEntries?

end Engine

end VulkanValidity
