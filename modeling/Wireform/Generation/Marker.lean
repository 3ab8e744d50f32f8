import Wireform.Names.Resolve

namespace Wireform.Generation

/-! Markers: the attribute that opts a struct in, and the one that leaves a field out. Both are
known by identity, whatever name a source gives them. -/

open Wireform.Names Wireform.Syntax

def optInName : String := "auto_serialize"

def exclusionName : String := "non_serialized"

structure Markers where
  optIn : String
  exclusion : String
  deriving DecidableEq, Repr, Inhabited

/-- The markers; none if the crate cannot name the runtime package, in which case nothing is ever
generated for it. -/
def Markers.of? (compilation : Compilation) : Option Markers := do
  let optIn ← compilation.externalSymbol? (runtimePackage ++ "::" ++ optInName)
  let exclusion ← compilation.externalSymbol? (runtimePackage ++ "::" ++ exclusionName)
  return ⟨optIn, exclusion⟩

def isMarker (compilation : Compilation) (module : ModulePath) (marker : String)
    (tag : Attribute) : Bool :=
  match compilation.symbol? module tag.path .macro_ with
  | some symbol => symbol.id = marker
  | none => false

end Wireform.Generation
