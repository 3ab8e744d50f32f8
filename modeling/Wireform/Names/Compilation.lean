import Wireform.Syntax.Parse
import Wireform.Names.Declaration
import Wireform.Text.Basic

namespace Wireform.Names

/-! A compilation: the source files of a crate and the crates that it can name. -/

open Wireform.Syntax

/-- A source file and the module that it holds. Its items are what its text says. -/
structure SourceUnit where
  path : String
  module : ModulePath
  source : String
  items : List Item
  parses : parseFile? source = some items

def SourceUnit.parse? (path : String) (module : String) (source : String) : Option SourceUnit :=
  match parses : parseFile? source with
  | some items => some ⟨path, .ofText module, source, items, parses⟩
  | none => none

theorem SourceUnit.parse?_eq_some_iff {path module source : String} {unit : SourceUnit} :
    parse? path module source = some unit ↔
      ∃ items, ∃ parses : parseFile? source = some items,
        unit = ⟨path, .ofText module, source, items, parses⟩ := by
  rw [parse?]
  split
  · rename_i items parses
    simp [parses, eq_comm]
  · rename_i fails
    simp [fails]

/-- A text that is given by its letters is read without encoding them. A literal is such a text. -/
theorem SourceUnit.parse?_ofList {path module : String} {letters : List Char} :
    parse? path module (String.ofList letters) =
      match parses : parseLetters? letters with
      | some items => some
          ⟨path, .ofText module, String.ofList letters, items, parseFile?_ofList.trans parses⟩
      | none => none := by
  have same : parseFile? (String.ofList letters) = parseLetters? letters := parseFile?_ofList
  rw [parse?]
  split <;> split <;> simp_all

def SourceUnit.parseFailure (path : String) : String := s!"Failed to parse {path}"

/-- A crate that sources can name. `exports` holds the names at its root where they are known; of a
crate without them any path is accepted. -/
structure ExternalCrate where
  localName : String
  crateName : String
  exports : Option (List String)
  deriving DecidableEq, Repr, Inhabited

/-- The package whose markers and traits generated code relies on. -/
def runtimePackage : String := "autoser"

def runtimeExports : List String :=
  ["BinaryReader", "BinaryWriter", "DynEq", "Error", "HashField", "Serializable", "Serializer",
    "auto_serialize", "from_bytes", "hash_field_via_hash", "non_serialized", "to_bytes"]

namespace ExternalCrate

/-- A crate of which nothing is known. -/
def opaqueCrate (localName crateName : String) : ExternalCrate := ⟨localName, crateName, none⟩

def exporting (localName crateName : String) (names : List String) : ExternalCrate :=
  ⟨localName, crateName, some (Text.sortedOnce names)⟩

/-- The runtime package under a name of its user's choice. -/
def runtime (localName : String) : ExternalCrate :=
  ⟨localName, runtimePackage, some runtimeExports⟩

/-- Whether a path leads to something that the crate can export. -/
def exportsPath (external : ExternalCrate) (path : List String) : Bool :=
  match external.exports with
  | none => true
  | some exports =>
    match path with
    | [] => true
    | [name] => exports.contains name
    | _ => false

end ExternalCrate

/-- The crates of the language itself, which need no dependency. -/
def standardCrates : List String := ["std", "core", "alloc"]

/-- Adds a crate. A crate of the same local name is replaced where it stands. -/
def insertCrate (crates : List ExternalCrate) (external : ExternalCrate) : List ExternalCrate :=
  if crates.any (·.localName = external.localName) then
    crates.map fun other => if other.localName = external.localName then external else other
  else
    crates ++ [external]

structure Compilation where
  units : List SourceUnit
  crates : List ExternalCrate
  declarations : Declarations

namespace Compilation

/-- The facts that a unit states, that of its own module's existence first. -/
def declarationsOf (unit : SourceUnit) : Declarations :=
  Declaration.ofPath unit.module ++ Declaration.ofItems unit.path unit.module unit.items

def ofUnits (units : List SourceUnit) (externalCrates : List ExternalCrate) : Compilation where
  units := units
  crates :=
    (standardCrates.map fun name => .opaqueCrate name name).foldl insertCrate [] |>
      externalCrates.foldl insertCrate
  declarations := units.flatMap declarationsOf

variable (compilation : Compilation)

def crate? (name : String) : Option ExternalCrate :=
  compilation.crates.find? (·.localName = name)

def module? (path : ModulePath) : Option ModulePath :=
  if compilation.declarations.hasModule path then some path else none

/-- The symbol of an item by the name of its package and its path in it, as long as some crate is
that package and can export the item. -/
def externalSymbol? (name : String) : Option String :=
  match splitPath name with
  | package :: item :: rest =>
    match compilation.crates.find? (·.crateName = package) with
    | some external => if external.exportsPath (item :: rest) then some ("::" ++ name) else none
    | none => none
  | _ => none

/-- The identity of an item of this crate by its module and its name. -/
def declaredSymbol (module : ModulePath) (name : Name) : String :=
  module.qualifiedName ++ "::" ++ name.text

/-- The visibility with which a module is declared; none for the root and for modules that no
source declares. -/
def moduleVisibility? (path : ModulePath) : Option Visibility :=
  if compilation.declarations.hasModule path then compilation.declarations.visibility? path
  else none

end Compilation

end Wireform.Names
