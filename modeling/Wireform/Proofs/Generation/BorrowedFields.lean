import Wireform.Generation.Field
import Wireform.Proofs.Names.OwnedParts

/-! # Fields that borrow

A field is reported as a reference exactly if a part of its type borrows, at any depth, that the
type shows. What is not shown stands in the arguments of a path that leads to no type: such a field
is left out without a word. -/

namespace Wireform.Generation

open Wireform.Names Wireform.Syntax

namespace FieldContext

variable {context : FieldContext} {field : Field} {index : Nat}

/-- Whether a diagnostic says that the field borrows. -/
def reportsReference (context : FieldContext) (field : Field) (index : Nat) : Bool :=
  (context.judge field index).2.any fun diagnostic => diagnostic.code = .referenceField

/-- What the kind of a field's type decides. -/
theorem verdict_of_sized (context : FieldContext) (sized : isZeroSized field.ty = false) :
    let kind? := context.compilation.typeKind? context.candidate.module field.ty
      context.candidate.declaration.parameters.typeNames
    (context.verdict field = .reference ↔ kind? = some .reference) ∧
      (context.verdict field = .unresolved ↔ kind? = none) := by
  intro kind?
  unfold verdict
  rw [if_neg (by simp [sized])]
  cases kind : context.compilation.typeKind? context.candidate.module field.ty
    context.candidate.declaration.parameters.typeNames with
  | none => simp [kind?, kind]
  | some known =>
    cases known with
    | reference => simp [kind?, kind]
    | value =>
      simp only [kind?, kind]
      split <;> simp

theorem reportsReference_iff :
    context.reportsReference field index = true ↔ context.verdict field = .reference := by
  have renamed : ∀ diagnostic ∈ context.renamedMarkers field (field.member index),
      diagnostic.code ≠ .referenceField := by
    intro diagnostic among
    rcases List.mem_map.mp among with ⟨tag, _, rfl⟩
    exact nofun
  unfold reportsReference judge fieldDiagnostics
  rw [List.any_append, Bool.or_eq_true]
  constructor
  · rintro (own | marker)
    · by_cases borrows : context.verdict field = .reference
      · exact borrows
      · rw [if_neg borrows] at own
        cases own
    · rcases List.any_eq_true.mp marker with ⟨diagnostic, among, code⟩
      exact absurd (of_decide_eq_true code) (renamed diagnostic among)
  · intro borrows
    rw [if_pos borrows]
    exact .inl rfl

end FieldContext

open FieldContext in
/-- A part that borrows makes the whole borrow, through any number of levels and whatever is beside
it, exactly if the types around it show it. What can hide it is a path without a kind of its own,
and a whole that is such a path has no kind at all. A field is reported with the kind of its
type. -/
theorem typeKind?_of_borrowedPart (compilation : Compilation) (module : ModulePath)
    (parameters : List Name) (whole : Ty) :
    let kind? := fun ty => compilation.typeKind? module ty parameters
    let ofAlias := compilation.kindAtDepth? (maxDepth - 1)
    let Shows := compilation.Shows ofAlias module parameters
    let isKnown := compilation.isKnown ofAlias module parameters
    let borrowsItself := compilation.borrowsItself ofAlias module parameters
    (∀ part, Relation.ReflTransGen Shows whole part → kind? part = some .reference →
      kind? whole = some .reference) ∧
    (kind? whole = some .reference ↔
      ∃ part, Relation.ReflTransGen Shows whole part ∧ borrowsItself part = true) ∧
    (∀ part, Relation.ReflTransGen Compilation.Owns whole part → kind? part = some .reference →
      kind? whole = some .reference ∨
        ∃ between, Relation.ReflTransGen Shows whole between ∧
          Relation.TransGen Compilation.Owns between part ∧ isKnown between = false) ∧
    (isKnown whole = false → kind? whole = none) ∧
    ∀ context : FieldContext, context.compilation = compilation →
      context.candidate.module = module →
      context.candidate.declaration.parameters.typeNames = parameters →
      ∀ (field : Field) (index : Nat), field.ty = whole → isZeroSized whole = false →
        (context.reportsReference field index = true ↔ kind? whole = some .reference) ∧
        ((context.judge field index).1.verdict = .unresolved ↔ kind? whole = none) := by
  intro kind? ofAlias Shows isKnown borrowsItself
  refine ⟨?_, ?_, ?_, ?_, ?_⟩
  · intro part shown borrows
    exact Compilation.kindWith?_of_shown shown borrows
  · constructor
    · exact Compilation.exists_shown_of_kindWith? whole
    · rintro ⟨part, shown, itself⟩
      exact Compilation.kindWith?_of_shown shown
        (Compilation.kindWith?_eq_reference_iff.mpr (.inl itself))
  · intro part owned borrows
    rcases Compilation.shown_or_exists_unknown owned with shown | hidden
    · exact .inl (Compilation.kindWith?_of_shown shown borrows)
    · exact .inr hidden
  · exact Compilation.kindWith?_eq_none_of_not_isKnown
  · rintro context rfl rfl rfl field index rfl sized
    rcases verdict_of_sized context sized with ⟨reference, unresolved⟩
    exact ⟨reportsReference_iff.trans reference, unresolved⟩

/-- An unknown type beside a reference does not hide it, and an unknown type around it does. -/
theorem typeKind?_of_borrowedPart_hidden :
    let compilation := Compilation.ofUnits [] []
    let text : Ty := .reference none false (.path (.ofName (.plain "str")))
    let beside : Ty := .tuple [.path (.ofName (.plain "Missing")), text] false
    let around : Ty := .path (.mk false [.mk (.plain "Missing") (.angled false [.type text] false)])
    Compilation.Owns beside text ∧ Compilation.Owns around text ∧
      compilation.typeKind? [] text [] = some .reference ∧
      compilation.typeKind? [] beside [] = some .reference ∧
      compilation.typeKind? [] around [] = none := by
  intro compilation text beside around
  have inBeside : text ∈ beside.ownedParts := List.mem_cons_of_mem _ List.mem_cons_self
  have inAround : text ∈ around.ownedParts := List.mem_cons_self
  refine ⟨inBeside, inAround, ?_⟩
  decide +kernel

end Wireform.Generation
