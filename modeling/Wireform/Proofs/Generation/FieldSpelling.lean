import Wireform.Proofs.Generation.FileNames
import Wireform.Proofs.Names.OwnedParts
import Wireform.Proofs.Names.Sameness

/-! # Spellings of field types

What a field's type owns is found by what its path leads to, however the path is written. Only
whether the type holds a value at all is told from the last name that is written. So a field keeps
its verdict under another path to the same type exactly if both paths, or neither, end in the name
of a type without a value. -/

namespace Wireform.Names.Compilation

open Wireform.Syntax

/-- Both paths lead to one thing. -/
def LeadAlike (compilation : Compilation) (module : ModulePath) (path other : Path) : Prop :=
  ∃ found another, compilation.resolvePath? module path .type = some found ∧
    compilation.resolvePath? module other .type = some another ∧ found.Same another

variable {compilation : Compilation} {module : ModulePath} {path other : Path}

theorem isSharedPointer_congr {external another : ExternalCrate}
    (package : external.crateName = another.crateName) (names : List String) :
    isSharedPointer external names = isSharedPointer another names := by
  simp only [isSharedPointer, package]

/-- What can be told apart about two paths to one thing is at most by which name a crate was
reached. -/
theorem headKind?_eq_of_leadAlike (alike : compilation.LeadAlike module path other)
    (ofAlias : KindFunction) :
    compilation.headKind? ofAlias module other = compilation.headKind? ofAlias module path := by
  rcases alike with ⟨found, another, leads, otherLeads, same⟩
  unfold headKind?
  rw [leads, otherLeads]
  cases same with
  | item owner name definition otherDefinition =>
    -- The first definition of a name counts for both.
    have first := definition?_of_leads (leads_of_resolve? leads)
    have second := definition?_of_leads (leads_of_resolve? otherLeads)
    rw [first] at second
    cases second
    rfl
  | external package names =>
    simp only [bind, Option.bind_some, isSharedPointer_congr package names]
  | _ => rfl

theorem typeKind?_eq_of_leadAlike (alike : compilation.LeadAlike module path other)
    {parameters : List Name} (free : isParameter parameters path = false)
    (otherFree : isParameter parameters other = false)
    (kept : other.typeArguments = path.typeArguments) :
    compilation.typeKind? module (.path other) parameters =
      compilation.typeKind? module (.path path) parameters := by
  change compilation.kindWith? _ _ _ _ = compilation.kindWith? _ _ _ _
  rw [kindWith?_path, kindWith?_path, pathKind?, pathKind?, free, otherFree, kept,
    headKind?_eq_of_leadAlike alike]

/-- Paths of one symbol lead to one thing, unless a name on the way holds a separator. -/
theorem leadAlike_of_symbol?_eq {units : List SourceUnit} {externalCrates : List ExternalCrate}
    (introduces : (ofUnits units externalCrates).Introduces module) {symbol : Symbol}
    (named : (ofUnits units externalCrates).symbol? module path .type = some symbol)
    (otherNamed : (ofUnits units externalCrates).symbol? module other .type = some symbol)
    (plain : ∀ written ∈ [path, other], ∀ found,
      (ofUnits units externalCrates).resolvePath? module written .type = some found →
        found.IsPlain) :
    (ofUnits units externalCrates).LeadAlike module path other := by
  rcases Option.map_eq_some_iff.mp named with ⟨found, leads, rfl⟩
  rcases Option.map_eq_some_iff.mp otherNamed with ⟨another, otherLeads, same⟩
  refine ⟨found, another, leads, otherLeads, ?_⟩
  apply same_of_symbol_eq (grounded_of_leads introduces (leads_of_resolve? leads))
    (grounded_of_leads introduces (leads_of_resolve? otherLeads))
  · exact plain path List.mem_cons_self found leads
  · exact plain other (List.mem_cons_of_mem _ List.mem_cons_self) another otherLeads
  · exact same.symm

theorem headKind?_of_sharedPointer {external : ExternalCrate} {names : List String}
    (leads : compilation.resolvePath? module path .type = some (.external external names))
    (shared : isSharedPointer external names = true) (ofAlias : KindFunction) :
    compilation.headKind? ofAlias module path = some .reference := by
  unfold headKind?
  rw [leads]
  simp [shared]

end Wireform.Names.Compilation

namespace Wireform.Generation

open Wireform.Names Wireform.Syntax

namespace FieldContext

variable {context : FieldContext}

/-- The type parameters of the struct, and `Self`, stand for themselves. -/
def isOwnParameter (context : FieldContext) (path : Path) : Bool :=
  Compilation.isParameter context.candidate.declaration.parameters.typeNames path

theorem verdict_eq_zeroSized_iff (context : FieldContext) (field : Field) :
    context.verdict field = .zeroSized ↔ isZeroSized field.ty = true := by
  unfold verdict
  by_cases named : isZeroSized field.ty = true
  · simp [named]
  · rw [if_neg named]
    apply iff_of_false _ named
    split
    · nofun
    · nofun
    · split <;> nofun

theorem verdict_of_kind_eq (field other : Field) (attributes : other.attributes = field.attributes)
    (named : isZeroSized other.ty = isZeroSized field.ty)
    (kinds : context.compilation.typeKind? context.candidate.module other.ty
        context.candidate.declaration.parameters.typeNames =
      context.compilation.typeKind? context.candidate.module field.ty
        context.candidate.declaration.parameters.typeNames) :
    context.verdict other = context.verdict field := by
  unfold verdict
  rw [attributes, named, kinds]

theorem verdict_of_sharedPointer {field : Field} {path : Path} {external : ExternalCrate}
    {names : List String} (written : field.ty = .path path) (free : context.isOwnParameter path = false)
    (leads : context.compilation.resolvePath? context.candidate.module path .type =
      some (.external external names))
    (shared : isSharedPointer external names = true) (sized : isZeroSized field.ty = false) :
    context.verdict field = .reference := by
  have borrows : context.compilation.typeKind? context.candidate.module field.ty
      context.candidate.declaration.parameters.typeNames = some .reference := by
    rw [written]
    apply Compilation.kindWith?_eq_reference_iff.mpr
    left
    simp [Compilation.borrowsItself, show Compilation.isParameter _ path = false from free,
      Compilation.headKind?_of_sharedPointer leads shared]
  unfold verdict
  rw [sized, borrows]
  rfl

end FieldContext

open FieldContext in
/-- A field with another path to its type in the place of the one that it has, but with the same
arguments, keeps its verdict exactly if both paths, or neither, end in the name of a type without a
value. That name alone makes a field count as one without a value, whatever the path leads to, and
under any other name such a type is serialized. A shared pointer is a reference under every name
but these. -/
theorem verdict_respelled_iff {units : List SourceUnit} {externalCrates : List ExternalCrate}
    (context : FieldContext) (built : context.compilation = .ofUnits units externalCrates)
    (selected : context.candidate ∈ Candidate.select context.compilation) (field : Field)
    {path other : Path} (written : field.ty = .path path)
    (free : context.isOwnParameter path = false) (otherFree : context.isOwnParameter other = false)
    (kept : other.typeArguments = path.typeArguments) :
    let module := context.candidate.module
    let respelled := { field with ty := .path other }
    (context.compilation.LeadAlike module path other →
      (context.verdict respelled = context.verdict field ↔
        isZeroSized (.path other) = isZeroSized (.path path))) ∧
    (context.verdict field = .zeroSized ↔
      path.last?.any (fun name => zeroSizedTypes.contains name.spelling) = true) ∧
    (∀ external names,
      context.compilation.resolvePath? module path .type = some (.external external names) →
        isSharedPointer external names = true → isZeroSized (.path path) = false →
          context.verdict field = .reference) ∧
    ∀ symbol, context.compilation.symbol? module path .type = some symbol →
      context.compilation.symbol? module other .type = some symbol →
      (∀ written ∈ [path, other], ∀ found,
        context.compilation.resolvePath? module written .type = some found → found.IsPlain) →
      context.compilation.LeadAlike module path other := by
  intro module respelled
  refine ⟨?_, ?_, ?_, ?_⟩
  · intro alike
    have kinds := Compilation.typeKind?_eq_of_leadAlike alike free otherFree kept
    constructor
    · intro same
      have named := verdict_eq_zeroSized_iff context respelled
      rw [same, verdict_eq_zeroSized_iff, written] at named
      exact Bool.eq_iff_iff.mpr named.symm
    · intro named
      apply verdict_of_kind_eq field respelled rfl
      · rw [written, ← named]
      · rw [written]
        exact kinds
  · rw [verdict_eq_zeroSized_iff, written]
    rfl
  · intro external names leads shared sized
    exact verdict_of_sharedPointer written free leads shared (by rw [written, sized])
  · intro symbol named otherNamed plain
    have introduces := (Candidate.contains_of_mem_select selected).introduces
    rw [built] at *
    exact Compilation.leadAlike_of_symbol?_eq introduces named otherNamed plain

/-- A type without a value under another name is serialized, and a type that only shares its name is
not. -/
theorem verdict_respelled_iff_ghost :
    let units := (SourceUnit.parse? "src/lib.rs" ""
      "use std::marker::PhantomData as Ghost; struct PhantomPinned(u8);
       #[on] struct Tagged<T>(Ghost<T>, PhantomPinned);").toList
    let compilation := Compilation.ofUnits units []
    let markers : Markers := ⟨"::autoser::auto_serialize", "::autoser::non_serialized"⟩
    let arguments : Arguments := .angled false [.type (.path (.ofName (.plain "T")))] false
    let ghost : Path := Syntax.Path.mk false [.mk (.plain "Ghost") arguments]
    let phantom : Path := Syntax.Path.mk true
      [.plain (.plain "std"), .plain (.plain "marker"), .mk (.plain "PhantomData") arguments]
    let field : Field := { (default : Field) with ty := .path ghost }
    (Candidate.select compilation).map Candidate.typeName = ["Tagged"] ∧
      ∀ candidate ∈ Candidate.select compilation,
        let context : FieldContext := ⟨compilation, markers, candidate⟩
        compilation.LeadAlike candidate.module ghost phantom ∧
          context.verdict field = .included ∧
          context.verdict { field with ty := .path phantom } ≠ .included ∧
          context.judgeAll.1.map FieldVerdict.verdict = [.included, .zeroSized] ∧
          compilation.symbol? candidate.module (.ofName (.plain "PhantomPinned")) .type =
            some ⟨"crate::PhantomPinned", .struct⟩ := by
  intro units compilation markers arguments ghost phantom field
  have facts : (Candidate.select compilation).map Candidate.typeName = ["Tagged"] ∧
      ∀ candidate ∈ Candidate.select compilation,
        let context : FieldContext := ⟨compilation, markers, candidate⟩
        context.isOwnParameter ghost = false ∧ context.isOwnParameter phantom = false ∧
          (∀ written ∈ [ghost, phantom],
            compilation.symbol? candidate.module written .type =
                some ⟨"::std::marker::PhantomData", .external⟩ ∧
              (compilation.resolvePath? candidate.module written .type).all (fun found =>
                found.pieces.all fun piece => !piece.toList.contains ':') = true) ∧
          context.verdict field = .included ∧
          context.judgeAll.1.map FieldVerdict.verdict = [.included, .zeroSized] ∧
          compilation.symbol? candidate.module (.ofName (.plain "PhantomPinned")) .type =
            some ⟨"crate::PhantomPinned", .struct⟩ := by
    set_option maxRecDepth 1000 in
    have read : _ = units := congrArg Option.toList SourceUnit.parse?_ofList.symm
    clear_value units
    subst read
    decide +kernel
  refine ⟨facts.1, ?_⟩
  intro candidate selected context
  rcases facts.2 candidate selected with ⟨free, otherFree, named, included, judged, own⟩
  have built : context.compilation = .ofUnits units [] := rfl
  have written : field.ty = .path ghost := rfl
  rcases verdict_respelled_iff context built selected field written free otherFree rfl with
    ⟨kept, _, _, alikeOf⟩
  have alike : compilation.LeadAlike candidate.module ghost phantom := by
    apply alikeOf _ (named ghost List.mem_cons_self).1
      (named phantom (List.mem_cons_of_mem _ List.mem_cons_self)).1
    intro path among found leads piece inPieces
    have plain := (named path among).2
    rw [show compilation.resolvePath? _ _ _ = some found from leads] at plain
    simpa using List.all_eq_true.mp plain piece inPieces
  refine ⟨alike, included, ?_, judged, own⟩
  intro same
  have spelled := (kept alike).mp (same.trans included.symm)
  exact absurd spelled (by decide)

end Wireform.Generation
