namespace Wireform.Names

/-! Symbols: what names stand for, and whether types own their values. -/

/-- A module, by the names on the way from the root of the crate. -/
abbrev ModulePath := List String

def colonPieces : List Char → List (List Char)
  | [] => [[]]
  | ':' :: ':' :: rest => [] :: colonPieces rest
  | letter :: rest =>
    match colonPieces rest with
    | [] => [[letter]]
    | first :: others => (letter :: first) :: others

/-- The names in a text such as `a::b`. -/
def splitPath (text : String) : List String := (colonPieces text.toList).map String.ofList

example : splitPath "a::b" = ["a", "b"] := by decide
example : splitPath "" = [""] := by decide

/-- The module that a text such as `a::b` names. The empty text is the root. -/
def ModulePath.ofText (text : String) : ModulePath := (splitPath text).filter (· ≠ "")

/-- The module as text, without the root. -/
def ModulePath.text (path : ModulePath) : String := String.intercalate "::" path

/-- The module as text, from the root on. -/
def ModulePath.qualifiedName (path : ModulePath) : String :=
  String.intercalate "::" ("crate" :: path)

def ModulePath.parent? : ModulePath → Option ModulePath
  | [] => none
  | path => some path.dropLast

@[simp] theorem ModulePath.parent?_concat (outer : ModulePath) (name : String) :
    ModulePath.parent? (outer ++ [name]) = some outer := by
  cases outer with
  | nil => rfl
  | cons head tail => exact congrArg some List.dropLast_concat

example : ModulePath.parent? ["a", "b"] = some ["a"] := rfl

/-- Names of different kinds of things do not clash. -/
inductive Namespace where
  | type
  | value
  | macro_
  deriving DecidableEq, Repr, Inhabited

inductive SymbolKind where
  | module
  | struct
  | enumeration
  | union
  | typeAlias
  | trait
  | constant
  | static
  | function
  | macroRules
  | builtin
  | external
  deriving DecidableEq, Repr, Inhabited

/-- What a path names. Items of this crate have an identity that starts with `crate`, items of other
crates one that starts with a separator and the name of their package. -/
structure Symbol where
  id : String
  kind : SymbolKind
  deriving DecidableEq, Repr, Inhabited

/-- Whether a type owns its value, or borrows or shares it. -/
inductive TypeKind where
  | value
  | reference
  deriving DecidableEq, Repr, Inhabited

/-- The kind of a whole from the kinds of its parts: one reference makes it a reference, and else
one unknown part makes it unknown. -/
def TypeKind.join (parts : List (Option TypeKind)) : Option TypeKind :=
  if parts.contains (some .reference) then some .reference
  else if parts.contains none then none
  else some .value

example : TypeKind.join [] = some .value := rfl
example : TypeKind.join [none, some .reference] = some .reference := by decide
example : TypeKind.join [some .value, none] = none := by decide

/-- A whole is a value if all its parts are known to be values. -/
theorem TypeKind.join_eq_value_iff {parts : List (Option TypeKind)} :
    join parts = some .value ↔ ∀ part ∈ parts, part = some .value := by
  unfold join
  constructor
  · intro joined part among
    by_cases borrows : parts.contains (some .reference) = true
    · rw [if_pos borrows] at joined
      cases joined
    · rw [if_neg borrows] at joined
      by_cases unknown : parts.contains none = true
      · rw [if_pos unknown] at joined
        cases joined
      · cases part with
        | none => exact absurd (List.contains_iff_mem.mpr among) unknown
        | some kind =>
          cases kind with
          | value => rfl
          | reference => exact absurd (List.contains_iff_mem.mpr among) borrows
  · intro values
    have borrows : ¬parts.contains (some .reference) = true := by
      intro contained
      exact absurd (values _ (List.contains_iff_mem.mp contained)) nofun
    have unknown : ¬parts.contains none = true := by
      intro contained
      exact absurd (values _ (List.contains_iff_mem.mp contained)) nofun
    rw [if_neg borrows, if_neg unknown]

end Wireform.Names
