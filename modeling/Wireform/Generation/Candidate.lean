import Wireform.Names.Compilation
import Wireform.Generation.Diagnostic

namespace Wireform.Generation

/-! Candidates: the structs that have an attribute which could be the opt-in marker. -/

open Wireform.Names Wireform.Syntax

structure Candidate where
  declaration : Struct
  module : ModulePath
  file : String
  deriving Inhabited

namespace Candidate

def typeName (candidate : Candidate) : String := candidate.declaration.name.text

def typePath (candidate : Candidate) : String :=
  "::".intercalate (candidate.module ++ [candidate.typeName])

def location (candidate : Candidate) : Location :=
  ⟨candidate.file, candidate.declaration.position⟩

/-- Whether a struct has an attribute that is no documentation. -/
def isAttributed (declaration : Struct) : Bool :=
  declaration.attributes.any fun tag => !tag.path.isName "doc"

mutual
def ofItem (file : String) (module : ModulePath) : Item → List Candidate
  | .struct declaration =>
    if isAttributed declaration then [⟨declaration, module, file⟩] else []
  | .module _ _ name (some items) => ofItems file (module ++ [name.text]) items
  | _ => []

def ofItems (file : String) (module : ModulePath) : List Item → List Candidate
  | [] => []
  | head :: tail => ofItem file module head ++ ofItems file module tail
end

/-- All candidates, in source order. -/
def select (compilation : Compilation) : List Candidate :=
  compilation.units.flatMap fun unit => ofItems unit.path unit.module unit.items

end Candidate

end Wireform.Generation
