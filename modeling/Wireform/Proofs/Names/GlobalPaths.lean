import Wireform.Proofs.Names.Origin
import Wireform.Proofs.Names.Reexport

/-! # Global paths

A global path starts with the name of a registered crate. Without the separator in front, the same
name also stands for what an external crate declaration of the root gives it to. The two agree
wherever the registered crates decide, and a global path overlooks the names that only a declaration
gives. -/

namespace Wireform.Names.Compilation

section Crates
variable (compilation : Compilation)

def registered? (name : String) : Option Resolved :=
  (compilation.crate? name).map fun external => .external external []

/-- What the external crate declarations of the root give the name to. -/
def renamed? (name : String) : Option Resolved :=
  (compilation.declarations.crateAlias? name).bind fun target =>
    compilation.resolve? [] target .type

/-- What a module sees under the name of a crate. The declaration counts first where it is an import
of the module itself, and last elsewhere. -/
def crateSeen? (module : ModulePath) (name : String) : Option Resolved :=
  if compilation.declarations.imports module name = [] then
    (compilation.registered? name).or (compilation.renamed? name)
  else (compilation.renamed? name).or (compilation.registered? name)

variable {compilation} {module : ModulePath} {name : String}

theorem crateSeen?_eq_registered?_iff :
    compilation.crateSeen? module name = compilation.registered? name ↔
      compilation.renamed? name = none ∨
        compilation.renamed? name = compilation.registered? name ∨
        (compilation.registered? name).isSome = true ∧
          compilation.declarations.imports module name = [] := by
  unfold crateSeen?
  by_cases unimported : compilation.declarations.imports module name = []
  · rw [if_pos unimported]
    cases compilation.registered? name <;> simp [unimported]
  · rw [if_neg unimported]
    cases compilation.renamed? name <;> simp [unimported]

theorem follow?_of_isCrateTarget {target : Target} (leads : Declaration.IsCrateTarget target)
    (lookup : LookupFunction) :
    compilation.follow? lookup module target .type = compilation.resolve? [] target .type := by
  cases leads <;> rfl

theorem resolve?_of_isCrateTarget {target : Target} (leads : Declaration.IsCrateTarget target)
    {found : Resolved} (resolved : compilation.resolve? [] target .type = some found) :
    found = .module [] ∨ ∃ name, compilation.registered? name = some found := by
  cases leads with
  | root => exact .inl (Option.some.inj resolved).symm
  | registered name =>
    right
    refine ⟨name, ?_⟩
    simpa [resolve?, follow?, Resolved.members?, registered?] using resolved

theorem renamed?_of_ownName
    (given : compilation.declarations.crateAlias? name = some ⟨true, [name]⟩) :
    compilation.renamed? name = compilation.registered? name := by
  simp [renamed?, given, resolve?, follow?, Resolved.members?, registered?]

variable (crates : ∀ target, compilation.declarations.crateAlias? name = some target →
    Declaration.IsCrateTarget target)
include crates

theorem lookupEverywhere?_of_crateName
    (known : (compilation.crate? name).isSome = true ∨
      (compilation.declarations.crateAlias? name).isSome = true)
    (lookup : LookupFunction) :
    compilation.lookupEverywhere? lookup name =
      (compilation.registered? name).or (compilation.renamed? name) := by
  unfold lookupEverywhere? registered? renamed?
  cases registered : compilation.crate? name with
  | some external => rfl
  | none =>
    cases given : compilation.declarations.crateAlias? name with
    | some target =>
      simp only [Option.map_none, Option.none_or, Option.bind_some]
      exact follow?_of_isCrateTarget (crates target given) lookup
    | none => simp [registered, given] at known

/-- Imports that are all the external crate declaration of the root lead where that leads. -/
theorem findSome?_imports
    (imported : ∀ target ∈ compilation.declarations.imports module name,
      compilation.declarations.crateAlias? name = some target) (lookup : LookupFunction) :
    (compilation.declarations.imports module name).findSome?
        (compilation.follow? lookup module · .type) =
      if compilation.declarations.imports module name = [] then none
      else compilation.renamed? name := by
  generalize compilation.declarations.imports module name = targets at imported
  induction targets with
  | nil => rfl
  | cons target rest induction =>
    rcases List.forall_mem_cons.mp imported with ⟨given, others⟩
    have leads : compilation.renamed? name = compilation.follow? lookup module target .type := by
      rw [renamed?, given, Option.bind_some]
      exact (follow?_of_isCrateTarget (crates target given) lookup).symm
    rw [List.findSome?_cons, induction others, if_neg (List.cons_ne_nil _ _), leads]
    by_cases last : rest = [] <;> cases compilation.follow? lookup module target .type <;>
      simp [last]

theorem lookup?_of_crateName
    (undefined : compilation.declarations.definition? module .type name = none)
    (imported : ∀ target ∈ compilation.declarations.imports module name,
      compilation.declarations.crateAlias? name = some target)
    (known : (compilation.crate? name).isSome = true ∨
      (compilation.declarations.crateAlias? name).isSome = true) (depth : Nat)
    (unseen : compilation.globbed? (compilation.lookup? depth [⟨module, name, .type⟩])
      ⟨module, name, .type⟩ = none) :
    compilation.lookup? (depth + 1) [] ⟨module, name, .type⟩ true =
      compilation.crateSeen? module name := by
  have inModule : compilation.lookupInModule? (compilation.lookup? depth [⟨module, name, .type⟩])
      ⟨module, name, .type⟩ =
        if compilation.declarations.imports module name = [] then none
        else compilation.renamed? name := by
    rw [← findSome?_imports crates imported (compilation.lookup? depth [⟨module, name, .type⟩])]
    unfold globbed? at unseen
    simp only [lookupInModule?, undefined]
    rw [unseen, Option.or_none]
  rw [lookup?, if_neg (by simp)]
  simp only [decide_true, Bool.and_self, if_true]
  rw [inModule, lookupEverywhere?_of_crateName crates known, crateSeen?]
  by_cases unimported : compilation.declarations.imports module name = []
  · rw [if_pos unimported, if_pos unimported, Option.none_or]
  · rw [if_neg unimported, if_neg unimported]
    cases compilation.renamed? name <;> simp

end Crates

section OfUnits
variable {units : List SourceUnit} {externalCrates : List ExternalCrate} {module : ModulePath}
  {name : String}

theorem isCrateTarget_of_crateAlias? {target : Target}
    (given : (ofUnits units externalCrates).declarations.crateAlias? name = some target) :
    Declaration.IsCrateTarget target := by
  have among := List.mem_of_getLast? given
  rcases List.mem_filterMap.mp among with ⟨declaration, inUnits, states⟩
  cases declaration with
  | crateAlias other written =>
    have same : written = target := by
      by_cases named : other = name
      · simpa [named] using states
      · simp [named] at states
    rcases mem_declarations_ofUnits inUnits with ⟨_, _, other, _⟩ | ⟨_, _, _, _, _, stated⟩
    · cases other
    · rw [← same]
      cases stated with
      | binding binding =>
        cases binding with
        | crateAlias atRoot name leads => exact leads
  | _ => cases states

/-- A global path starts with the registered crate of its first name. Without the separator in
front, the path starts with the same crate unless an external crate declaration of the root gives
the name to something, and either no crate of the name is registered or the module is the one that
imports it so, namely the root. What such a declaration alone names is the root or a registered crate
of another name, and no global path leads to it. -/
theorem resolve?_global (space : Namespace) {rest : List String}
    (free : name ∉ ["crate", "self", "super"]) (longer : rest ≠ [])
    (undefined : (ofUnits units externalCrates).declarations.definition? module .type name = none)
    (imported : ∀ target ∈ (ofUnits units externalCrates).declarations.imports module name,
      (ofUnits units externalCrates).declarations.crateAlias? name = some target)
    (unseen : (ofUnits units externalCrates).globbed?
      ((ofUnits units externalCrates).lookup? (maxDepth - 1) [⟨module, name, .type⟩])
      ⟨module, name, .type⟩ = none)
    (known : ((ofUnits units externalCrates).crate? name).isSome = true ∨
      ((ofUnits units externalCrates).declarations.crateAlias? name).isSome = true) :
    let compilation := ofUnits units externalCrates
    let globally := compilation.resolve? module ⟨true, name :: rest⟩ space
    let plainly := compilation.resolve? module ⟨false, name :: rest⟩ space
    let registered := compilation.registered? name
    let renamed := compilation.renamed? name
    let members := (Resolved.members? (compilation.lookup? maxDepth []) space · rest)
    globally = registered.bind members ∧
      plainly = (compilation.crateSeen? module name).bind members ∧
      (compilation.crateSeen? module name = registered ↔
        renamed = none ∨ renamed = registered ∨
          registered.isSome = true ∧ compilation.declarations.imports module name = []) ∧
      (renamed = none ∨ renamed = registered ∨
          registered.isSome = true ∧ compilation.declarations.imports module name = [] →
        plainly = globally) ∧
      (registered = none → globally = none ∧ plainly = renamed.bind members) ∧
      ∀ found, renamed = some found →
        found = .module [] ∨ ∃ other, compilation.registered? other = some found := by
  intro compilation globally plainly registered renamed members
  have crates : ∀ target, compilation.declarations.crateAlias? name = some target →
      Declaration.IsCrateTarget target := fun _ => isCrateTarget_of_crateAlias?
  have globally_eq : globally = registered.bind members := rfl
  have plainly_eq : plainly = (compilation.crateSeen? module name).bind members := by
    have first := lookup?_of_crateName crates undefined imported known (maxDepth - 1) unseen
    simp only [List.mem_cons, List.not_mem_nil, or_false, not_or] at free
    have between : Resolved.spaceBefore rest space = .type := by
      cases rest with
      | nil => exact absurd rfl longer
      | cons next others => rfl
    rw [← first]
    simp only [plainly, resolve?, follow?, Bool.false_eq_true, if_false, first?, free, between]
    rfl
  refine ⟨globally_eq, plainly_eq, crateSeen?_eq_registered?_iff, ?_, ?_, ?_⟩
  · intro agree
    rw [plainly_eq, globally_eq, crateSeen?_eq_registered?_iff.mpr agree]
  · intro none
    have seen : compilation.crateSeen? module name = renamed := by
      unfold crateSeen?
      rw [show compilation.registered? name = Option.none from none, Option.none_or, Option.or_none,
        ite_self]
    rw [globally_eq, plainly_eq, none, seen]
    exact ⟨rfl, rfl⟩
  · intro found given
    rcases Option.bind_eq_some_iff.mp given with ⟨target, stated, leads⟩
    exact resolve?_of_isCrateTarget (crates target stated) leads

/-- A crate that only has a name from its declaration is overlooked behind a separator. -/
theorem resolve?_global_renamed :
    let units := (SourceUnit.parse? "src/lib.rs" ""
      "extern crate autoser as ser; extern crate serde;").toList
    let compilation := Compilation.ofUnits units [.runtime "autoser", .opaqueCrate "serde" "serde"]
    compilation.resolve? [] ⟨true, ["ser", "auto_serialize"]⟩ .macro_ = none ∧
      (compilation.resolve? [] ⟨false, ["ser", "auto_serialize"]⟩ .macro_).map Resolved.symbol =
        some ⟨"::autoser::auto_serialize", .external⟩ ∧
      compilation.resolve? [] ⟨false, ["serde", "Serialize"]⟩ .macro_ =
        compilation.resolve? [] ⟨true, ["serde", "Serialize"]⟩ .macro_ := by
  intro units compilation
  have facts : (∀ name ∈ ["ser", "serde"], name ∉ ["crate", "self", "super"] ∧
      (compilation.declarations.definition? [] .type name).isNone = true ∧
      (∀ target ∈ compilation.declarations.imports [] name,
        compilation.declarations.crateAlias? name = some target) ∧
      compilation.declarations.globs [] = [] ∧
      (compilation.declarations.crateAlias? name).isSome = true) ∧
      (compilation.registered? "ser").isNone = true ∧
      (compilation.resolve? [] ⟨false, ["ser", "auto_serialize"]⟩ .macro_).map Resolved.symbol =
        some ⟨"::autoser::auto_serialize", .external⟩ ∧
      compilation.declarations.crateAlias? "serde" = some ⟨true, ["serde"]⟩ := by
    have read : _ = units := congrArg Option.toList SourceUnit.parse?_ofList.symm
    clear_value units
    subst read
    decide +kernel
  rcases facts with ⟨named, unregistered, renamed, own⟩
  have unseen : compilation.declarations.globs [] = [] → ∀ lookup name,
      compilation.globbed? lookup ⟨[], name, .type⟩ = none := by
    intro alone lookup name
    simp [globbed?, alone]
  refine ⟨?_, renamed, ?_⟩
  · rcases named "ser" (by decide) with ⟨free, undefined, imported, alone, given⟩
    have paths := resolve?_global .macro_ free (List.cons_ne_nil "auto_serialize" [])
      (Option.isNone_iff_eq_none.mp undefined) imported (unseen alone _ _) (.inr given)
    exact (paths.2.2.2.2.1 (Option.isNone_iff_eq_none.mp unregistered)).1
  · rcases named "serde" (by decide) with ⟨free, undefined, imported, alone, given⟩
    have paths := resolve?_global .macro_ free (List.cons_ne_nil "Serialize" [])
      (Option.isNone_iff_eq_none.mp undefined) imported (unseen alone _ _) (.inr given)
    exact paths.2.2.2.1 (.inr (.inl (renamed?_of_ownName own)))

end OfUnits
end Wireform.Names.Compilation
