import Wireform.Proofs.Generation.FileNames
import Wireform.Proofs.Generation.Provenance
import Wireform.Proofs.Names.AliasExpansion

/-! # Existing methods

A struct with a hand-written method of the name of the generated one is rejected. The method counts
if the type of its implementation is written as a path to the struct itself. What else the type may
stand for is not asked: no alias is followed, and the parameters of the implementation are not told
apart from the names around it. -/

namespace Wireform.Names

open Wireform.Syntax Wireform.Text

/-! ## Implementations -/

theorem Compilation.mem_implementations_iff {units : List SourceUnit}
    {externalCrates : List ExternalCrate} {module : ModulePath} {self : Ty}
    {methods : List Method} :
    (∃ file, .implementation module file self methods ∈
        (ofUnits units externalCrates).declarations) ↔
      ∃ parameters, (ofUnits units externalCrates).Contains module
        (.implementation parameters self methods) := by
  constructor
  · rintro ⟨file, among⟩
    rcases mem_declarations_ofUnits among with
      ⟨_, _, same, _⟩ | ⟨unit, unitAmong, owner, item, contains, states⟩
    · cases same
    · cases states with
      | implementation parameters => exact ⟨parameters, unit, unitAmong, contains⟩
      | binding binding => cases binding
  · rintro ⟨parameters, unit, among, contains⟩
    refine ⟨unit.path, List.mem_flatMap.mpr ⟨unit, among, List.mem_append_right _ ?_⟩⟩
    exact Declaration.mem_ofItems_of_contains contains List.mem_cons_self

end Wireform.Names

namespace Wireform.Generation

open Wireform.Names Wireform.Syntax Wireform.Text

variable {units : List SourceUnit} {externalCrates : List ExternalCrate} {markers : Markers}
  {candidate : Candidate}

/-! ## Identities -/

/-- What has the identity of the struct: what its module declares under its name. -/
inductive Candidate.IsNamed (candidate : Candidate) : Resolved → Prop where
  | item (definition : Definition) :
      IsNamed candidate (.item candidate.module candidate.typeName definition)
  | module : IsNamed candidate (.module candidate.path)

theorem Candidate.declaredSymbol_eq (candidate : Candidate) :
    Compilation.declaredSymbol candidate.module candidate.declaration.name =
      ModulePath.qualifiedName candidate.path := by
  rw [Candidate.path, qualifiedName_concat]
  rfl

/-- Only what is declared under a struct's name has the struct's identity. -/
theorem id_eq_declaredSymbol_iff (parsed : Parsed units)
    (identifiers : isIdentifierPath candidate.path = true) {found : Resolved}
    (grounded : (Compilation.ofUnits units externalCrates).Grounded .type found) :
    found.symbol.id = Compilation.declaredSymbol candidate.module candidate.declaration.name ↔
      candidate.IsNamed found := by
  rw [candidate.declaredSymbol_eq]
  constructor
  · intro same
    -- Identities of external items and of built-in types do not start at the root.
    have rooted : "crate".toList <+: found.symbol.id.toList := by
      rw [same]
      exact crate_isPrefix_qualifiedName _
    rcases grounded_of_crate_isPrefix grounded rooted with
      ⟨path, introduced, rfl⟩ | ⟨owner, item, name, definition, contains, defines, rfl⟩
    · have whole := parsed.forall_isWhole_of_introduces introduced
      rw [← eq_of_qualifiedName_eq identifiers whole same.symm]
      exact .module
    · have whole : ∀ part ∈ owner ++ [name], IsWhole part.toList := by
        rw [List.forall_mem_append, List.forall_mem_singleton]
        refine ⟨parsed.forall_isWhole_of_contains contains, isWhole_of_isIdentifierText ?_⟩
        exact defines.isIdentifierText (contains.isIdentified)
      rw [Resolved.symbol, ← qualifiedName_concat] at same
      have paths := eq_of_qualifiedName_eq identifiers whole same.symm
      rcases List.append_inj' paths rfl with ⟨rfl, names⟩
      rw [← List.singleton_inj.mp names]
      exact .item definition
  · intro named
    cases named with
    | item definition =>
      rw [Resolved.symbol, Candidate.path, qualifiedName_concat]
    | module => rfl

/-! ## Methods -/

theorem mem_methodsOf_iff {compilation : Compilation} {id : String}
    {reference : Compilation.MethodReference} :
    reference ∈ compilation.methodsOf id ↔ ∃ module path methods found,
      .implementation module reference.file (.path path) methods ∈ compilation.declarations ∧
        compilation.resolvePath? module path .type = some found ∧ found.symbol.id = id ∧
        reference.method ∈ methods := by
  rw [Compilation.methodsOf, List.mem_flatMap]
  constructor
  · rintro ⟨declaration, among, chosen⟩
    split at chosen
    · rename_i module file path methods
      cases resolved : compilation.resolvePath? module path .type with
      | none => simp [Compilation.symbol?, resolved] at chosen
      | some found =>
        simp only [Compilation.symbol?, resolved, Option.map_some] at chosen
        by_cases same : found.symbol.id = id
        · rw [if_pos same] at chosen
          rcases List.mem_map.mp chosen with ⟨method, inMethods, rfl⟩
          exact ⟨module, path, methods, found, among, resolved, same, inMethods⟩
        · rw [if_neg same] at chosen
          cases chosen
    · cases chosen
  · rintro ⟨module, path, methods, found, among, resolved, same, inMethods⟩
    refine ⟨_, among, ?_⟩
    simp only [Compilation.symbol?, resolved, Option.map_some, same, if_true]
    exact List.mem_map_of_mem inMethods

/-- A struct has a method of this name exactly if an implementation for a path to it defines one. -/
theorem isSome_existingMethod?_iff (parsed : Parsed units)
    (identifiers : isIdentifierPath candidate.path = true) :
    (existingMethod? (.ofUnits units externalCrates) candidate).isSome = true ↔
      ∃ module parameters path methods found,
        (Compilation.ofUnits units externalCrates).Contains module
            (.implementation parameters (.path path) methods) ∧
          (Compilation.ofUnits units externalCrates).resolvePath? module path .type = some found ∧
          candidate.IsNamed found ∧ ∃ method ∈ methods, method.name = .plain serializeMethod := by
  rw [existingMethod?, List.find?_isSome]
  constructor
  · rintro ⟨reference, among, spelled⟩
    rcases mem_methodsOf_iff.mp among with
      ⟨module, path, methods, found, stated, resolved, same, inMethods⟩
    rcases Compilation.mem_implementations_iff.mp ⟨_, stated⟩ with ⟨parameters, contains⟩
    have grounded := Compilation.grounded_of_leads contains.introduces
      (Compilation.leads_of_resolve? resolved)
    exact ⟨module, parameters, path, methods, found, contains, resolved,
      (id_eq_declaredSymbol_iff parsed identifiers grounded).mp same, reference.method, inMethods,
      (Name.spelling_eq_iff (by decide)).mp (of_decide_eq_true spelled)⟩
  · rintro ⟨module, parameters, path, methods, found, contains, resolved, named, method, inMethods,
      plain⟩
    rcases Compilation.mem_implementations_iff.mpr ⟨parameters, contains⟩ with ⟨file, stated⟩
    have grounded := Compilation.grounded_of_leads contains.introduces
      (Compilation.leads_of_resolve? resolved)
    have same := (id_eq_declaredSymbol_iff parsed identifiers grounded).mpr named
    refine ⟨⟨file, method⟩, mem_methodsOf_iff.mpr
      ⟨module, path, methods, found, stated, resolved, same, inMethods⟩, ?_⟩
    exact decide_eq_true ((Name.spelling_eq_iff (by decide)).mpr plain)

/-- A marked struct that the root can name is rejected for its methods exactly if it has such a
one. -/
theorem rejected_iff_isSome_existingMethod? {compilation : Compilation}
    (marked : (marker? compilation markers candidate).isSome = true)
    (visible : visibilityProblem? compilation candidate = none) :
    (∃ diagnostic, validate compilation markers candidate = .rejected diagnostic ∧
        diagnostic.code = .existingMethod) ↔
      (existingMethod? compilation candidate).isSome = true := by
  rcases Option.isSome_iff_exists.mp marked with ⟨marker, first⟩
  rw [validate, first, visible]
  cases existingMethod? compilation candidate with
  | some found => simp [Diagnostic.code, Problem.code]
  | none =>
    dsimp only
    split <;> simp

/-! ## What self types stand for -/

def Candidate.resolved (candidate : Candidate) : Resolved :=
  .item candidate.module candidate.typeName (.item .struct)

/-- An implementation with these parameters is for the struct if that is what its self type expands
to. -/
def Candidate.IsMeant (candidate : Candidate) (compilation : Compilation) (module : ModulePath)
    (parameters : Parameters) (self : Ty) : Prop :=
  ∃ arguments, compilation.Expands module (.ofParameters parameters.typeNames) self
    (.named candidate.resolved arguments)

section Meaning

variable {compilation : Compilation} {module : ModulePath} {bindings : Bindings}
  {parameters : Parameters} {expanded : Expanded}

theorem exists_expandWith?_of_expands {ty : Ty}
    (expands : compilation.Expands module bindings ty expanded) :
    ∃ expandAlias, compilation.expandWith? expandAlias module bindings ty = some expanded := by
  rcases expands with ⟨bound, reached⟩
  exact ⟨_, reached (bound + 1) (Nat.le_succ bound)⟩

theorem exists_expandPath?_of_expands {path : Path}
    (expands : compilation.Expands module bindings (.path path) expanded) :
    ∃ expandAlias arguments,
      compilation.expandPath? expandAlias module bindings path arguments = some expanded := by
  rcases exists_expandWith?_of_expands expands with ⟨expandAlias, reached⟩
  rcases path with ⟨global, segments⟩
  rw [Compilation.expandWith?] at reached
  rcases Option.bind_eq_some_iff.mp reached with ⟨arguments, _, reached⟩
  exact ⟨expandAlias, arguments, reached⟩

theorem ne_named_of_bound? {path : Path} {bound : Expanded} {head : Resolved}
    {arguments : List Expanded}
    (stands : (Bindings.ofParameters parameters.typeNames).bound? path = some bound) :
    bound ≠ .named head arguments := by
  rintro rfl
  rcases Bindings.bound?_eq_some stands with same | ⟨name, among⟩
  · cases same
  · rcases List.mem_map.mp among with ⟨parameter, _, same⟩
    cases same

/-- A path to the struct stands for it unless it is a parameter. -/
theorem isMeant_path_iff {path : Path}
    (leads : compilation.resolvePath? module path .type = some candidate.resolved)
    (expands : ∃ expanded, compilation.Expands module (.ofParameters parameters.typeNames)
      (.path path) expanded) :
    candidate.IsMeant compilation module parameters (.path path) ↔
      (Bindings.ofParameters parameters.typeNames).bound? path = none := by
  constructor
  · rintro ⟨arguments, meant⟩
    rcases exists_expandPath?_of_expands meant with ⟨expandAlias, written, reached⟩
    cases stands : (Bindings.ofParameters parameters.typeNames).bound? path with
    | none => rfl
    | some bound =>
      rw [Compilation.expandPath?, stands] at reached
      exact absurd (Option.some.inj reached) (ne_named_of_bound? stands)
  · intro free
    rcases expands with ⟨expanded, expands⟩
    rcases exists_expandPath?_of_expands expands with ⟨expandAlias, written, reached⟩
    -- Whatever it expands to has the head that its path leads to.
    rw [Compilation.expandPath?, free, leads] at reached
    cases reached
    exact ⟨_, expands⟩

/-- A self type that stands for the struct is a path to it, unless it leads through an alias or
stands in parentheses. -/
theorem isMeant_cases {self : Ty} (meant : candidate.IsMeant compilation module parameters self) :
    (∃ inner, self = .grouped inner) ∨ ∃ path, self = .path path ∧
      (Bindings.ofParameters parameters.typeNames).bound? path = none ∧
      (compilation.resolvePath? module path .type = some candidate.resolved ∨
        ∃ owner name ty names, compilation.resolvePath? module path .type =
          some (.item owner name (.typeAlias ty names))) := by
  rcases meant with ⟨arguments, expands⟩
  rcases exists_expandWith?_of_expands expands with ⟨expandAlias, reached⟩
  cases self with
  | grouped inner => exact .inl ⟨inner, rfl⟩
  | path path =>
    refine .inr ⟨path, rfl, ?_⟩
    rcases exists_expandPath?_of_expands expands with ⟨expandAlias, written, reached⟩
    cases stands : (Bindings.ofParameters parameters.typeNames).bound? path with
    | some bound =>
      rw [Compilation.expandPath?, stands] at reached
      exact absurd (Option.some.inj reached) (ne_named_of_bound? stands)
    | none =>
      refine ⟨rfl, ?_⟩
      rw [Compilation.expandPath?, stands] at reached
      cases leads : compilation.resolvePath? module path .type with
      | none =>
        rw [leads] at reached
        cases reached
      | some head =>
        rw [leads] at reached
        dsimp only at reached
        split at reached
        · rename_i same
          cases same
        · rename_i owner name ty names same
          cases same
          exact .inr ⟨owner, name, ty, names, rfl⟩
        · rename_i other _ same
          cases same
          cases reached
          exact .inl rfl
  -- What is composed of other types is no item.
  | array item length =>
    rcases Option.bind_eq_some_iff.mp reached with ⟨part, _, composed⟩
    cases composed
  | slice item =>
    rcases Option.bind_eq_some_iff.mp reached with ⟨part, _, composed⟩
    cases composed
  | tuple items trailing =>
    rcases Option.bind_eq_some_iff.mp reached with ⟨parts, _, composed⟩
    cases composed
  | _ => cases reached

end Meaning

/-- A marked struct that the root can name is rejected for its methods exactly if some
implementation, wherever it stands, is written for a path that leads to what is declared under the
struct's name and has a method that is written `serialize`. Such a path stands for the struct unless
it is one of the implementation's own parameters, and whatever else stands for the struct leads
through an alias or stands in parentheses. -/
theorem rejected_existingMethod_iff (parsed : Parsed units)
    (selected : candidate ∈ Candidate.select (.ofUnits units externalCrates))
    (marked : (marker? (.ofUnits units externalCrates) markers candidate).isSome = true)
    (visible : visibilityProblem? (.ofUnits units externalCrates) candidate = none) :
    let compilation := Compilation.ofUnits units externalCrates
    ((∃ diagnostic, validate compilation markers candidate = .rejected diagnostic ∧
        diagnostic.code = .existingMethod) ↔
      ∃ module parameters path methods found,
        compilation.Contains module (.implementation parameters (.path path) methods) ∧
          compilation.resolvePath? module path .type = some found ∧ candidate.IsNamed found ∧
          ∃ method ∈ methods, method.name = .plain serializeMethod) ∧
      (∀ module parameters path,
        compilation.resolvePath? module path .type = some candidate.resolved →
        (∃ expanded, compilation.Expands module (.ofParameters parameters.typeNames) (.path path)
          expanded) →
        (candidate.IsMeant compilation module parameters (.path path) ↔
          (Bindings.ofParameters parameters.typeNames).bound? path = none)) ∧
      ∀ module parameters self, candidate.IsMeant compilation module parameters self →
        (∃ inner, self = .grouped inner) ∨ ∃ path, self = .path path ∧
          (Bindings.ofParameters parameters.typeNames).bound? path = none ∧
          (compilation.resolvePath? module path .type = some candidate.resolved ∨
            ∃ owner name ty names, compilation.resolvePath? module path .type =
              some (.item owner name (.typeAlias ty names))) := by
  have identifiers := isIdentifierPath_of_visible selected visible
  refine ⟨?_, fun module parameters path => isMeant_path_iff,
    fun module parameters self => isMeant_cases⟩
  rw [rejected_iff_isSome_existingMethod? marked visible]
  exact isSome_existingMethod?_iff parsed identifiers

/-- Four structs with implementations in another module: the raw method of the first and the alias
of the second are overlooked, the third is taken for the parameter of its name, and the fourth is
found by another name. -/
theorem rejected_existingMethod_iff_spellings :
    let structs := (SourceUnit.parse? "src/lib.rs" ""
      "use autoser::auto_serialize as on; #[on] struct A; #[on] struct B; #[on] struct D;
       #[on] struct E;").toList
    let implementations := (SourceUnit.parse? "src/inner.rs" "inner"
      "use super::{A, D, E as F}; type C = super::B; impl A \x7b fn r#serialize() {} \x7d
       impl C { fn serialize() {} } impl<D> Save for D { fn serialize() {} }
       impl F { fn serialize() {} }").toList
    let compilation :=
      Compilation.ofUnits (structs ++ implementations) [.runtime "autoser"]
    (Candidate.select compilation).map Candidate.typeName = ["A", "B", "D", "E"] ∧
      ∀ candidate ∈ Candidate.select compilation,
        candidate.typeName ∈ ["D", "E"] ↔ ∃ module parameters path methods found,
          compilation.Contains module (.implementation parameters (.path path) methods) ∧
            compilation.resolvePath? module path .type = some found ∧ candidate.IsNamed found ∧
            ∃ method ∈ methods, method.name = .plain serializeMethod := by
  intro structs implementations compilation
  let markers : Markers := ⟨"::autoser::auto_serialize", "::autoser::non_serialized"⟩
  have facts : (Candidate.select compilation).map Candidate.typeName = ["A", "B", "D", "E"] ∧
      ∀ candidate ∈ Candidate.select compilation,
        (marker? compilation markers candidate).isSome = true ∧
          visibilityProblem? compilation candidate = none ∧
          (existingMethod? compilation candidate).isSome =
            decide (candidate.typeName ∈ ["D", "E"]) := by
    set_option maxRecDepth 1000 in
    have read : _ = structs := congrArg Option.toList SourceUnit.parse?_ofList.symm
    clear_value structs
    subst read
    have read : _ = implementations := congrArg Option.toList SourceUnit.parse?_ofList.symm
    clear_value implementations
    subst read
    decide +kernel
  have parsed : Parsed (structs ++ implementations) := by
    intro unit among
    rcases List.mem_append.mp among with among | among
    · exact ⟨_, _, _, Option.mem_toList.mp among⟩
    · exact ⟨_, _, _, Option.mem_toList.mp among⟩
  refine ⟨facts.1, ?_⟩
  intro candidate selected
  rcases facts.2 candidate selected with ⟨marked, visible, found⟩
  have exact := (rejected_existingMethod_iff parsed selected marked visible).1
  rw [rejected_iff_isSome_existingMethod? marked visible, found, decide_eq_true_iff] at exact
  exact exact

end Wireform.Generation
