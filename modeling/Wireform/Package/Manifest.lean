import Wireform.Names.Compilation
import Wireform.Toml.Document

/-! # Manifests

What a package's manifest says about the crates that its sources can name. -/

namespace Wireform.Package

open Names

/-- A dependency, under the name that sources give it. -/
structure Dependency where
  name : String
  package : String
  deriving DecidableEq, Repr, Inhabited

structure Manifest where
  dependencies : List Dependency
  deriving DecidableEq, Repr, Inhabited

namespace Manifest

/-- The crate of a package. Package names can have hyphens, names in sources cannot. -/
def crateName (package : String) : String :=
  package.map fun character => if character = '-' then '_' else character

/-- A dependency by its key. It can name a package that its key does not. -/
def dependencyOf (key : String) (value : Toml.Item) : Dependency :=
  let package := ((value.get? "package").bind Toml.Item.text?).getD key
  ⟨crateName key, crateName package⟩

def dependenciesIn (item : Toml.Item) : List Dependency :=
  match item.table? with
  | some table => table.entries.map fun (key, value) => dependencyOf key value
  | none => []

/-- The tables of dependencies: that of the package, and then those of its targets. -/
def dependencyTables (document : Toml.Table) : List Toml.Item :=
  let targets := match (document.find? "target").bind Toml.Item.table? with
    | some targets => targets.entries.filterMap fun (_, target) => target.get? "dependencies"
    | none => []
  (document.find? "dependencies").toList ++ targets

/-- Leaves out every dependency that has the name of an earlier one. -/
def firstOfEachName : List Dependency → List Dependency
  | [] => []
  | first :: rest => first :: (firstOfEachName rest).filter (·.name ≠ first.name)

def ofDocument (document : Toml.Table) : Manifest :=
  ⟨firstOfEachName ((dependencyTables document).flatMap dependenciesIn)⟩

def parse? (text : String) : Option Manifest := (Toml.parse? text).map ofDocument

variable (manifest : Manifest)

def dependsOn (package : String) : Bool :=
  manifest.dependencies.any (·.package = package)

/-- The crates that sources can name: the runtime package with what it exports, and all others
without. -/
def externalCrates : List ExternalCrate :=
  manifest.dependencies.map fun dependency =>
    if dependency.package = runtimePackage then .runtime dependency.name
    else .opaqueCrate dependency.name dependency.package

end Manifest

end Wireform.Package
