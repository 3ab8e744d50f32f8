import Mathlib.Logic.Relation
import Wireform.Names.Kind

/-! # Owned parts of types

Values of a type hold values of its parts, so that a type borrows if one of its parts does. The kind
of a type shows that through any number of levels, past unknown parts beside the one that borrows,
but not through a path that leads nowhere: of that nothing is known, whatever its arguments are. -/

namespace Wireform.Syntax

def Argument.type? : Argument → Option Ty
  | .type ty => some ty
  | _ => none

def Path.typeArguments (path : Path) : List Ty :=
  match path.segments.getLast? with
  | some (.mk _ (.angled _ arguments _)) => arguments.filterMap Argument.type?
  | _ => []

/-- The types of which values of this type hold values, one level down. -/
def Ty.ownedParts : Ty → List Ty
  | .grouped inner => [inner]
  | .array item _ => [item]
  | .slice item => [item]
  | .tuple items _ => items
  | .path written => written.typeArguments
  | _ => []

theorem Path.sizeOf_lt_of_mem_typeArguments {path : Path} {part : Ty}
    (among : part ∈ path.typeArguments) : sizeOf part < sizeOf path := by
  rcases path with ⟨global, segments⟩
  unfold typeArguments at among
  split at among
  · rename_i name marked arguments trailing last
    rcases List.mem_filterMap.mp among with ⟨argument, inArguments, isType⟩
    have inSegments := List.sizeOf_lt_of_mem (List.mem_of_getLast? last)
    have smaller := List.sizeOf_lt_of_mem inArguments
    cases argument with
    | type ty =>
      cases isType
      simp only [Path.segments, Path.mk.sizeOf_spec, Segment.mk.sizeOf_spec,
        Arguments.angled.sizeOf_spec, Argument.type.sizeOf_spec] at inSegments smaller ⊢
      omega
    | _ => cases isType
  · cases among

theorem Ty.sizeOf_lt_of_mem_ownedParts {whole part : Ty} (among : part ∈ whole.ownedParts) :
    sizeOf part < sizeOf whole := by
  cases whole with
  | path path =>
    have smaller := Path.sizeOf_lt_of_mem_typeArguments among
    simp only [Ty.path.sizeOf_spec]
    omega
  | tuple items trailing =>
    have inItems : part ∈ items := among
    have smaller := List.sizeOf_lt_of_mem inItems
    simp only [Ty.tuple.sizeOf_spec]
    omega
  | grouped inner | slice inner =>
    cases List.mem_singleton.mp among
    simp
  | array inner length =>
    cases List.mem_singleton.mp among
    simp only [Ty.array.sizeOf_spec]
    omega
  | _ => cases among

end Wireform.Syntax

namespace Wireform.Names

open Wireform.Syntax

theorem TypeKind.join_eq_reference_iff {parts : List (Option TypeKind)} :
    join parts = some .reference ↔ some .reference ∈ parts := by
  unfold join
  by_cases borrows : parts.contains (some .reference) = true
  · rw [if_pos borrows]
    exact iff_of_true rfl (List.contains_iff_mem.mp borrows)
  · rw [if_neg borrows]
    apply iff_of_false
    · split <;> nofun
    · exact fun among => borrows (List.contains_iff_mem.mpr among)

namespace Compilation

variable (compilation : Compilation) (ofAlias : KindFunction) (module : ModulePath)
  (parameters : List Name)

/-! ## Kinds of parts -/

theorem kindsWith_eq_map (items : List Ty) :
    compilation.kindsWith ofAlias module parameters items =
      items.map (compilation.kindWith? ofAlias module parameters) := by
  induction items with
  | nil => rfl
  | cons head tail induction => rw [kindsWith, induction, List.map_cons]

theorem argumentKindsWith_eq_map (arguments : List Argument) :
    compilation.argumentKindsWith ofAlias module parameters arguments =
      (arguments.filterMap Argument.type?).map
        (compilation.kindWith? ofAlias module parameters) := by
  induction arguments with
  | nil => rfl
  | cons head tail induction =>
    cases head with
    | type ty => exact congrArg (_ :: ·) induction
    | _ => exact induction

theorem lastKindsWith_eq_map (global : Bool) (segments : List Segment) :
    compilation.lastKindsWith ofAlias module parameters segments =
      (Syntax.Path.mk global segments).typeArguments.map
        (compilation.kindWith? ofAlias module parameters) := by
  induction segments with
  | nil => rfl
  | cons first rest induction =>
    rcases first with ⟨name, arguments⟩
    cases rest with
    | nil =>
      cases arguments with
      | angled marked arguments trailing => exact argumentKindsWith_eq_map _ _ _ _ arguments
      | _ => rfl
    | cons second rest =>
      have later : (Syntax.Path.mk global (.mk name arguments :: second :: rest)).typeArguments =
          (Syntax.Path.mk global (second :: rest)).typeArguments := by
        simp only [Path.typeArguments, Path.segments, List.getLast?_cons_cons]
      rw [later, ← induction]
      cases arguments <;> rfl

/-- Whether a type has a kind of its own to be joined with those of its parts: all have but paths
that lead to nothing that has one. -/
def isKnown : Ty → Bool
  | .path path =>
    isParameter parameters path || (compilation.headKind? ofAlias module path).isSome
  | _ => true

/-- Whether a type borrows whatever its parts are. -/
def borrowsItself : Ty → Bool
  | .reference _ _ _ => true
  | .pointer _ _ => true
  | .path path =>
    !isParameter parameters path &&
      compilation.headKind? ofAlias module path = some .reference
  | _ => false

variable {compilation ofAlias module parameters}

theorem kindWith?_path (path : Path) :
    compilation.kindWith? ofAlias module parameters (.path path) =
      compilation.pathKind? ofAlias module parameters path
        (path.typeArguments.map (compilation.kindWith? ofAlias module parameters)) := by
  rcases path with ⟨global, segments⟩
  rw [kindWith?, lastKindsWith_eq_map _ _ _ _ global]

theorem pathKind?_eq_reference_iff {path : Path} {arguments : List (Option TypeKind)} :
    compilation.pathKind? ofAlias module parameters path arguments = some .reference ↔
      compilation.borrowsItself ofAlias module parameters (.path path) = true ∨
        compilation.isKnown ofAlias module parameters (.path path) = true ∧
          some .reference ∈ arguments := by
  unfold pathKind? borrowsItself isKnown
  by_cases bound : isParameter parameters path = true
  · simp [bound, TypeKind.join_eq_reference_iff]
  · cases head : compilation.headKind? ofAlias module path with
    | none => simp [bound, head]
    | some own =>
      simp [bound, head, TypeKind.join_eq_reference_iff, @eq_comm _ TypeKind.reference own]

/-- What makes a type a reference, one level down. -/
theorem kindWith?_eq_reference_iff {whole : Ty} :
    compilation.kindWith? ofAlias module parameters whole = some .reference ↔
      compilation.borrowsItself ofAlias module parameters whole = true ∨
        compilation.isKnown ofAlias module parameters whole = true ∧
          ∃ part ∈ whole.ownedParts,
            compilation.kindWith? ofAlias module parameters part = some .reference := by
  cases whole with
  | path path =>
    rw [kindWith?_path, pathKind?_eq_reference_iff]
    simp [Ty.ownedParts]
  | tuple items trailing =>
    rw [kindWith?, TypeKind.join_eq_reference_iff, kindsWith_eq_map]
    simp [borrowsItself, isKnown, Ty.ownedParts]
  | _ => simp [kindWith?, borrowsItself, isKnown, Ty.ownedParts]

theorem kindWith?_eq_none_of_not_isKnown {whole : Ty}
    (unknown : compilation.isKnown ofAlias module parameters whole = false) :
    compilation.kindWith? ofAlias module parameters whole = none := by
  cases whole with
  | path path =>
    have parts := Bool.or_eq_false_iff.mp unknown
    rw [kindWith?_path, pathKind?, if_neg (by simp [parts.1])]
    rw [Option.isSome_eq_false_iff, Option.isNone_iff_eq_none] at parts
    rw [parts.2]
  | _ => cases unknown

/-! ## Parts at any depth -/

/-- A type is directly a part of another. -/
def Owns (whole part : Ty) : Prop := part ∈ whole.ownedParts

variable (compilation ofAlias module parameters)

/-- A type directly shows the kind of a part. -/
def Shows (whole part : Ty) : Prop :=
  compilation.isKnown ofAlias module parameters whole = true ∧ Owns whole part

variable {compilation ofAlias module parameters}

theorem kindWith?_of_shown {whole part : Ty}
    (shown : Relation.ReflTransGen (compilation.Shows ofAlias module parameters) whole part)
    (borrows : compilation.kindWith? ofAlias module parameters part = some .reference) :
    compilation.kindWith? ofAlias module parameters whole = some .reference := by
  induction shown using Relation.ReflTransGen.head_induction_on with
  | refl => exact borrows
  | head shows _ induction =>
    exact kindWith?_eq_reference_iff.mpr (.inr ⟨shows.1, _, shows.2, induction⟩)

theorem exists_shown_of_kindWith? (whole : Ty)
    (borrows : compilation.kindWith? ofAlias module parameters whole = some .reference) :
    ∃ part, Relation.ReflTransGen (compilation.Shows ofAlias module parameters) whole part ∧
      compilation.borrowsItself ofAlias module parameters part = true := by
  rcases kindWith?_eq_reference_iff.mp borrows with itself | ⟨known, part, owned, partBorrows⟩
  · exact ⟨whole, .refl, itself⟩
  · rcases exists_shown_of_kindWith? part partBorrows with ⟨inner, shown, itself⟩
    exact ⟨inner, .head ⟨known, owned⟩ shown, itself⟩
termination_by sizeOf whole
decreasing_by exact Ty.sizeOf_lt_of_mem_ownedParts owned

/-- Where a part is not shown, a type of which nothing is known stands in between. -/
theorem shown_or_exists_unknown {whole part : Ty} (owned : Relation.ReflTransGen Owns whole part) :
    Relation.ReflTransGen (compilation.Shows ofAlias module parameters) whole part ∨
      ∃ between, Relation.ReflTransGen (compilation.Shows ofAlias module parameters) whole between ∧
        Relation.TransGen Owns between part ∧
        compilation.isKnown ofAlias module parameters between = false := by
  induction owned using Relation.ReflTransGen.head_induction_on with
  | refl => exact .inl .refl
  | @head whole next first rest induction =>
    by_cases known : compilation.isKnown ofAlias module parameters whole = true
    · rcases induction with shown | ⟨between, shown, inside, unknown⟩
      · exact .inl (.head ⟨known, first⟩ shown)
      · exact .inr ⟨between, .head ⟨known, first⟩ shown, inside, unknown⟩
    · exact .inr ⟨whole, .refl, .head' first rest, by simpa using known⟩

end Compilation

end Wireform.Names
