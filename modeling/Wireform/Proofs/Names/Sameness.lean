import Wireform.Proofs.Names.Identity

/-! # What paths have in common

Two paths lead to the same thing if what they lead to has the same names, by the package where it is
an item of another crate. The identity of a symbol is the text of these names, so that it says the
same wherever no name holds a separator itself. -/

namespace Wireform.Names

open Wireform.Syntax

namespace Resolved

/-- Both are one thing. A crate can have several names here, and an item is known by its own. -/
inductive Same : Resolved → Resolved → Prop where
  | module (path : ModulePath) : Same (.module path) (.module path)
  | item (owner : ModulePath) (name : String) (definition other : Definition) :
      Same (.item owner name definition) (.item owner name other)
  | external {crate other : ExternalCrate} (package : crate.crateName = other.crateName)
      (path : List String) : Same (.external crate path) (.external other path)
  | builtin (id : String) : Same (.builtin id) (.builtin id)

/-- The names that an identity is joined from. -/
def pieces : Resolved → List String
  | .module path => "crate" :: path
  | .item owner name _ => "crate" :: (owner ++ [name])
  | .external crate path => crate.crateName :: path
  | .builtin _ => []

/-- No name holds a colon. -/
def IsPlain (found : Resolved) : Prop := ∀ piece ∈ found.pieces, ':' ∉ piece.toList

end Resolved

/-- Items are of other kinds than all else that a path can lead to. -/
theorem Defines.kind_ne {item : Item} {space : Namespace} {name : String} {definition : Definition}
    {kind : SymbolKind} (defines : Defines item space name definition)
    (among : kind ∈ [SymbolKind.module, .external, .builtin]) : definition.kind ≠ kind := by
  rintro rfl
  cases defines with
  | declaration kind name => cases kind <;> simp [Definition.kind, symbolOf] at among
  | _ => simp [Definition.kind] at among

theorem Resolved.pieces_inj {found other : Resolved} (plain : found.IsPlain)
    (otherPlain : other.IsPlain) (names : found.pieces ≠ []) (otherNames : other.pieces ≠ [])
    (same : String.intercalate "::" found.pieces = String.intercalate "::" other.pieces) :
    found.pieces = other.pieces :=
  eq_of_joined_eq rfl names otherNames plain otherPlain same

namespace Compilation

variable {units : List SourceUnit} {externalCrates : List ExternalCrate} {space : Namespace}
  {found other : Resolved}

/-- Things of one symbol are one thing, unless a name holds a separator. -/
theorem same_of_symbol_eq (grounded : (ofUnits units externalCrates).Grounded space found)
    (otherGrounded : (ofUnits units externalCrates).Grounded space other)
    (plain : found.IsPlain) (otherPlain : other.IsPlain) (same : found.symbol = other.symbol) :
    found.Same other := by
  have kinds := congrArg Symbol.kind same
  have ids := congrArg Symbol.id same
  cases grounded with
  | module introduced =>
    cases otherGrounded with
    | module =>
      have names := Resolved.pieces_inj plain otherPlain nofun nofun ids
      cases names
      exact .module _
    | item _ defines => exact absurd kinds.symm (defines.kind_ne (by simp [Resolved.symbol]))
    | external => cases kinds
    | builtin => cases kinds
  | item contains defines =>
    cases otherGrounded with
    | module => exact absurd kinds (defines.kind_ne (by simp [Resolved.symbol]))
    | item =>
      simp only [Resolved.symbol, ← qualifiedName_concat] at ids
      have names := Resolved.pieces_inj plain otherPlain nofun nofun ids
      rcases List.append_inj' (List.cons.inj names).2 rfl with ⟨rfl, last⟩
      cases last
      exact .item _ _ _ _
    | external => exact absurd kinds (defines.kind_ne (by simp [Resolved.symbol]))
    | builtin => exact absurd kinds (defines.kind_ne (by simp [Resolved.symbol]))
  | external registered exported =>
    cases otherGrounded with
    | module => cases kinds
    | item _ defines => exact absurd kinds.symm (defines.kind_ne (by simp [Resolved.symbol]))
    | external =>
      have joined := congrArg String.toList ids
      simp only [Resolved.symbol, String.toList_append, List.append_cancel_left_eq,
        String.toList_inj] at joined
      have names := Resolved.pieces_inj plain otherPlain nofun nofun joined
      rcases List.cons.inj names with ⟨package, rfl⟩
      exact .external package _
    | builtin => cases kinds
  | builtin among =>
    cases otherGrounded with
    | module => cases kinds
    | item _ defines => exact absurd kinds.symm (defines.kind_ne (by simp [Resolved.symbol]))
    | external => cases kinds
    | builtin =>
      cases ids
      exact .builtin _

end Compilation

end Wireform.Names
