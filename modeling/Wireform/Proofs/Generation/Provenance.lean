import Wireform.Package.Manifest
import Wireform.Proofs.Generation.Recognition
import Wireform.Proofs.Names.Origin

/-! # Provenance of symbols

No symbol is made up: each has a derivation from the sources and the registered crates, and what it
identifies exists there. In particular an attribute is the opt-in marker only because it leads to
the runtime package. -/

namespace Wireform.Generation

open Wireform.Names Wireform.Syntax

/-! ## Roots of identities -/

theorem not_crate_isPrefix_external (external : ExternalCrate) (path : List String) :
    ¬"crate".toList <+: (Resolved.external external path).symbol.id.toList := by
  intro begins
  rw [Resolved.symbol, String.toList_append] at begins
  exact absurd (List.cons_prefix_cons.mp begins).1 (by decide)

theorem separator_isPrefix_builtin {name id : String} (among : (name, id) ∈ builtinTypes) :
    "::".toList <+: id.toList := by
  have all : ∀ entry ∈ builtinTypes, "::".toList <+: entry.2.toList := by decide
  exact all _ among

theorem crate_isPrefix_qualifiedName (path : ModulePath) :
    "crate".toList <+: path.qualifiedName.toList := by
  unfold ModulePath.qualifiedName
  cases path with
  | nil => exact List.prefix_refl _
  | cons head tail =>
    rw [String.intercalate_cons_cons, String.append_assoc, String.toList_append]
    exact List.prefix_append _ _

theorem crate_isPrefix_item (owner : ModulePath) (name : String) :
    "crate".toList <+: (owner.qualifiedName ++ "::" ++ name).toList := by
  rw [String.append_assoc, String.toList_append]
  exact (crate_isPrefix_qualifiedName owner).trans (List.prefix_append _ _)

/-- No identity has both roots. -/
theorem not_separator_isPrefix {text : String} (crate : "crate".toList <+: text.toList) :
    ¬"::".toList <+: text.toList := by
  rcases crate with ⟨rest, spelled⟩
  intro begins
  rw [← spelled] at begins
  exact absurd (List.cons_prefix_cons.mp begins).1 (by decide)

variable {units : List SourceUnit} {externalCrates : List ExternalCrate} {space : Namespace}
  {found : Resolved}

theorem isPrefix_or_of_grounded
    (grounded : (Compilation.ofUnits units externalCrates).Grounded space found) :
    "crate".toList <+: found.symbol.id.toList ∨ "::".toList <+: found.symbol.id.toList := by
  cases grounded with
  | module introduced => exact .inl (crate_isPrefix_qualifiedName _)
  | item contains defines => exact .inl (crate_isPrefix_item _ _)
  | external registered exported =>
    rw [Resolved.symbol, String.toList_append]
    exact .inr (List.prefix_append _ _)
  | builtin among => exact .inr (separator_isPrefix_builtin among)

theorem grounded_of_crate_isPrefix
    (grounded : (Compilation.ofUnits units externalCrates).Grounded space found)
    (rooted : "crate".toList <+: found.symbol.id.toList) :
    (∃ path, (Compilation.ofUnits units externalCrates).Introduces path ∧ found = .module path) ∨
      ∃ owner item name definition,
        (Compilation.ofUnits units externalCrates).Contains owner item ∧
          Defines item space name definition ∧ found = .item owner name definition := by
  cases grounded with
  | module introduced => exact .inl ⟨_, introduced, rfl⟩
  | item contains defines => exact .inr ⟨_, _, _, _, contains, defines, rfl⟩
  | external registered exported => exact absurd rooted (not_crate_isPrefix_external _ _)
  | builtin among =>
    exact absurd (separator_isPrefix_builtin among) (not_separator_isPrefix rooted)

theorem grounded_of_separator_isPrefix
    (grounded : (Compilation.ofUnits units externalCrates).Grounded space found)
    (rooted : "::".toList <+: found.symbol.id.toList) :
    (∃ name id, (name, id) ∈ builtinTypes ∧ found = .builtin id) ∨
      ∃ external ∈ (Compilation.ofUnits units externalCrates).crates, ∃ path,
        (∀ names, names ≠ [] → names <+: path → external.exportsPath names = true) ∧
          found = .external external path := by
  cases grounded with
  | module introduced =>
    exact absurd rooted (not_separator_isPrefix (crate_isPrefix_qualifiedName _))
  | item contains defines =>
    exact absurd rooted (not_separator_isPrefix (crate_isPrefix_item _ _))
  | external registered exported => exact .inr ⟨_, registered, _, exported, rfl⟩
  | builtin among => exact .inl ⟨_, _, among, rfl⟩

/-! ## The opt-in marker -/

/-- The path of the opt-in marker from the runtime package on. -/
def optInPath : String := runtimePackage ++ "::" ++ optInName

theorem builtin_ne_optIn {name id : String} (among : (name, id) ∈ builtinTypes) :
    (Resolved.builtin id).symbol.id ≠ "::" ++ optInPath := by
  have all : ∀ entry ∈ builtinTypes, entry.2 ≠ "::" ++ optInPath := by decide
  exact all _ among

theorem leads_of_isMarker {compilation : Compilation} {module : ModulePath} {marker : String}
    {tag : Attribute} (recognized : isMarker compilation module marker tag = true) :
    ∃ found, compilation.Leads module (.ofPath tag.path) .macro_ found ∧
      found.symbol.id = marker := by
  unfold isMarker at recognized
  cases known : compilation.symbol? module tag.path .macro_ with
  | none =>
    rw [known] at recognized
    cases recognized
  | some symbol =>
    rw [known] at recognized
    rcases Option.map_eq_some_iff.mp known with ⟨found, resolved, rfl⟩
    exact ⟨found, Compilation.leads_of_resolve? resolved, of_decide_eq_true recognized⟩

/-- Only behind the runtime package does the marker's name have a separator. -/
theorem runtimePackage_of_append {package rest : List Char}
    (spelled : package ++ "::".toList ++ rest = optInPath.toList) :
    package = runtimePackage.toList ∧ rest = optInName.toList := by
  have only : ∀ count ≤ optInPath.length, "::".toList <+: optInPath.toList.drop count →
      count = runtimePackage.length := by
    decide
  have short : package.length ≤ optInPath.length := by
    rw [← String.length_toList, ← spelled, List.append_assoc, List.length_append]
    exact Nat.le_add_right _ _
  have length : package.length = runtimePackage.toList.length := by
    refine only _ short ?_
    rw [← spelled, List.append_assoc, List.drop_left]
    exact List.prefix_append _ _
  have names : optInPath.toList = runtimePackage.toList ++ ("::".toList ++ optInName.toList) := by
    decide
  rw [names, List.append_assoc] at spelled
  rcases List.append_inj spelled length with ⟨same, behind⟩
  exact ⟨same, List.append_cancel_left behind⟩

/-- What is joined to the name of the opt-in marker is the runtime package with the marker's own
name, or that name alone. -/
theorem eq_of_joined_eq_optInPath {package : String} {path : List String}
    (joined : String.intercalate "::" (package :: path) = optInPath) :
    package = runtimePackage ∧ path = [optInName] ∨ package = optInPath ∧ path = [] := by
  cases path with
  | nil => exact .inr ⟨joined, rfl⟩
  | cons name rest =>
    rw [String.intercalate_cons_cons] at joined
    have letters := congrArg String.toList joined
    rw [String.toList_append, String.toList_append] at letters
    rcases runtimePackage_of_append letters with ⟨same, behind⟩
    refine .inl ⟨String.toList_inj.mp same, ?_⟩
    cases rest with
    | nil => rw [← String.toList_inj.mp behind, String.intercalate_singleton]
    | cons next rest =>
      have colon : ':' ∈ (String.intercalate "::" (name :: next :: rest)).toList := by
        simp [String.intercalate_cons_cons]
      rw [behind] at colon
      exact absurd colon (by decide)

theorem optIn_of_id_eq {external : ExternalCrate} {path : List String}
    (same : (Resolved.external external path).symbol.id = "::" ++ optInPath) :
    external.crateName = runtimePackage ∧ path = [optInName] ∨
      external.crateName = optInPath ∧ path = [] := by
  rw [Resolved.symbol, String.append_right_inj] at same
  exact eq_of_joined_eq_optInPath same

/-- Whatever a path in a module leads to is derived from the facts of the crate, and it exists: an
identity rooted at the crate is that of a module that some source introduces, or of an item that
some source declares in that module and in the namespace of the path, and any other one is that of
a built-in type or goes through a registered crate, which exports all that comes after its name.
Names that only lead to one another lead nowhere, and an attribute that is the opt-in marker leads
to that item of the runtime package, or to the root of a package whose own name spells it. -/
theorem symbol?_grounded (units : List SourceUnit) (externalCrates : List ExternalCrate)
    {module : ModulePath}
    (declared : (Compilation.ofUnits units externalCrates).declarations.hasModule module = true) :
    let compilation := Compilation.ofUnits units externalCrates
    (∀ path space symbol, compilation.symbol? module path space = some symbol →
      ∃ found, compilation.Leads module (.ofPath path) space found ∧ symbol = found.symbol ∧
        ("crate".toList <+: symbol.id.toList ∨ "::".toList <+: symbol.id.toList) ∧
        ("crate".toList <+: symbol.id.toList →
          (∃ path, compilation.Introduces path ∧ found = .module path) ∨
          ∃ owner item name definition, compilation.Contains owner item ∧
            Defines item space name definition ∧ found = .item owner name definition) ∧
        ("::".toList <+: symbol.id.toList →
          (∃ name id, (name, id) ∈ builtinTypes ∧ found = .builtin id) ∨
          ∃ external ∈ compilation.crates, ∃ path,
            (∀ names, names ≠ [] → names <+: path → external.exportsPath names = true) ∧
              found = .external external path)) ∧
    (∀ keys, compilation.Unfounded keys → ∀ key, keys key →
      key.name ∉ ["crate", "self", "super"] →
        compilation.resolve? key.module ⟨false, [key.name]⟩ key.space = none ∧
        ∀ path, compilation.resolve? module path .type = some (.module key.module) →
          compilation.resolve? module (path.member key.name) key.space = none) ∧
    ∀ markers tag, Markers.of? compilation = some markers →
      isMarker compilation module markers.optIn tag = true →
        ∃ external ∈ compilation.crates, ∃ path,
          compilation.Leads module (.ofPath tag.path) .macro_ (.external external path) ∧
          (external.crateName = runtimePackage ∧ path = [optInName] ∨
            external.crateName = optInPath ∧ path = []) := by
  intro compilation
  have introduced : compilation.Introduces module := Compilation.introduces_of_hasModule declared
  refine ⟨?_, ?_, ?_⟩
  · intro path space symbol resolved
    rcases Option.map_eq_some_iff.mp resolved with ⟨found, followed, rfl⟩
    have leads := Compilation.leads_of_resolve? followed
    have grounded := Compilation.grounded_of_leads introduced leads
    exact ⟨found, leads, rfl, isPrefix_or_of_grounded grounded, grounded_of_crate_isPrefix grounded,
      grounded_of_separator_isPrefix grounded⟩
  · intro keys unfounded key among free
    exact ⟨unfounded.resolve?_eq_none among free,
      fun path inside => unfounded.resolve?_member_eq_none among free inside⟩
  · intro markers tag found recognized
    rcases leads_of_isMarker recognized with ⟨leading, leads, same⟩
    rw [Markers.of?_eq found] at same
    have grounded := Compilation.grounded_of_leads introduced leads
    have rooted : "::".toList <+: leading.symbol.id.toList := by
      rw [same, String.toList_append]
      exact List.prefix_append _ _
    rcases grounded_of_separator_isPrefix grounded rooted with
      ⟨name, id, among, rfl⟩ | ⟨external, registered, path, _, rfl⟩
    · exact absurd same (builtin_ne_optIn among)
    · exact ⟨external, registered, path, leads, optIn_of_id_eq same⟩

/-- A marker under another name leads to the runtime package, and two imports of one another lead
nowhere. -/
theorem symbol?_grounded_imports :
    let units := (SourceUnit.parse? "src/lib.rs" ""
      "use autoser::auto_serialize as wire; use b as a; use a as b; #[wire] struct Point;").toList
    let compilation := Compilation.ofUnits units [.runtime "autoser"]
    compilation.declarations.imports [] "a" = [⟨false, ["b"]⟩] ∧
      compilation.resolve? [] ⟨false, ["a"]⟩ .type = none ∧
      (Candidate.select compilation).map (·.declaration.attributes.length) = [1] ∧
      ∀ candidate ∈ Candidate.select compilation, ∀ tag ∈ candidate.declaration.attributes,
        ∃ external ∈ compilation.crates, external.crateName = runtimePackage ∧
          compilation.Leads [] (.ofPath tag.path) .macro_ (.external external [optInName]) := by
  intro units compilation
  let markers : Markers := ⟨"::autoser::auto_serialize", "::autoser::non_serialized"⟩
  have facts :
      (∀ name ∈ ["a", "b"], (compilation.declarations.definition? [] .type name).isNone = true ∧
        compilation.crate? name = none ∧ compilation.declarations.crateAlias? name = none) ∧
      compilation.declarations.imports [] "a" = [⟨false, ["b"]⟩] ∧
      compilation.declarations.imports [] "b" = [⟨false, ["a"]⟩] ∧
      compilation.declarations.globs [] = [] ∧ Markers.of? compilation = some markers ∧
      (∀ external ∈ compilation.crates, ':' ∉ external.crateName.toList) ∧
      (Candidate.select compilation).map (·.declaration.attributes.length) = [1] ∧
      ∀ candidate ∈ Candidate.select compilation, ∀ tag ∈ candidate.declaration.attributes,
        isMarker compilation [] markers.optIn tag = true := by
    have read : _ = units := congrArg Option.toList SourceUnit.parse?_ofList.symm
    clear_value units
    subst read
    decide +kernel
  rcases facts with ⟨unknown, importedA, importedB, alone, found, plain, single, marked⟩
  let keys : Lookup → Prop := fun key => key.module = [] ∧ key.space = .type ∧ key.name ∈ ["a", "b"]
  have builtins : ∀ entry ∈ builtinTypes, entry.1 ∉ ["a", "b"] := by decide
  have imported : ∀ name ∈ ["a", "b"], ∀ target ∈ compilation.declarations.imports [] name,
      ∃ other ∈ ["a", "b"], target = ⟨false, [other]⟩ := by
    simp [importedA, importedB]
  have unfounded : compilation.Unfounded keys := by
    apply Compilation.unfounded_of_imports
    · rintro ⟨_, name, _⟩ ⟨rfl, rfl, among⟩
      exact Option.isNone_iff_eq_none.mp (unknown name among).1
    · rintro ⟨_, name, _⟩ ⟨rfl, rfl, among⟩ target listed
      rcases imported name among target listed with ⟨other, cyclic, rfl⟩
      have free : ∀ name ∈ ["a", "b"], name ∉ ["crate", "self", "super"] := by decide
      exact ⟨other, [], rfl, free other cyclic, rfl, rfl, cyclic⟩
    · rintro ⟨_, _, _⟩ ⟨rfl, _, _⟩
      exact alone
    · rintro ⟨_, name, _⟩ ⟨rfl, rfl, among⟩
      exact ⟨(unknown name among).2.1, (unknown name among).2.2,
        fun _ listed => builtins _ listed among⟩
  have declared : compilation.declarations.hasModule [] = true := rfl
  rcases symbol?_grounded units [.runtime "autoser"] declared with ⟨_, cyclic, recognized⟩
  refine ⟨importedA, ?_, single, ?_⟩
  · exact (cyclic keys unfounded ⟨[], "a", .type⟩ ⟨rfl, rfl, by decide⟩ (by decide)).1
  · intro candidate selected tag among
    rcases recognized markers tag found (marked candidate selected tag among) with
      ⟨external, registered, path, leads, ⟨package, rfl⟩ | ⟨spelled, -⟩⟩
    · exact ⟨external, registered, package, leads⟩
    · have colon := plain external registered
      rw [spelled] at colon
      exact absurd (by decide) colon

/-- A package can be spelled like the opt-in marker. An attribute that names it is the marker, and
leads to nothing of the runtime package. -/
theorem isMarker_packageSpelledAlike :
    let manifest := Package.Manifest.parse?
      "[dependencies]\nautoser = \"1\"\nevil = \x7b package = \"autoser::auto_serialize\" \x7d\n"
    let units := (SourceUnit.parse? "src/lib.rs" ""
      "#[::evil] pub struct Point \x7b pub x: u32 \x7d").toList
    let compilation := Compilation.ofUnits units (manifest.toList.flatMap (·.externalCrates))
    ∃ markers candidate tag, Markers.of? compilation = some markers ∧
      Candidate.select compilation = [candidate] ∧ candidate.declaration.attributes = [tag] ∧
      isMarker compilation [] markers.optIn tag = true ∧
      ¬∃ external ∈ compilation.crates, external.crateName = runtimePackage ∧
        ∃ path, compilation.Leads [] (.ofPath tag.path) .macro_ (.external external path) := by
  intro manifest units compilation
  let markers : Markers := ⟨"::autoser::auto_serialize", "::autoser::non_serialized"⟩
  have facts : Markers.of? compilation = some markers ∧
      compilation.crate? "evil" = some (.opaqueCrate "evil" "autoser::auto_serialize") ∧
      (Candidate.select compilation).length = 1 ∧
      ∀ candidate ∈ Candidate.select compilation, candidate.declaration.attributes.length = 1 ∧
        ∀ tag ∈ candidate.declaration.attributes, Target.ofPath tag.path = ⟨true, ["evil"]⟩ ∧
          isMarker compilation [] markers.optIn tag = true := by
    have read : _ = units := congrArg Option.toList SourceUnit.parse?_ofList.symm
    clear_value units
    subst read
    decide +kernel
  rcases facts with ⟨found, known, one, each⟩
  rcases List.length_eq_one_iff.mp one with ⟨candidate, selected⟩
  rcases each candidate (by simp [selected]) with ⟨oneTag, eachTag⟩
  rcases List.length_eq_one_iff.mp oneTag with ⟨tag, tagged⟩
  rcases eachTag tag (by simp [tagged]) with ⟨named, marked⟩
  refine ⟨markers, candidate, tag, found, selected, tagged, marked, ?_⟩
  rintro ⟨external, -, package, path, height, follows⟩
  rw [named] at follows
  cases follows with
  | fromCrates registered members =>
    rw [known] at registered
    cases registered
    cases members
    exact absurd package (by decide)

end Wireform.Generation
