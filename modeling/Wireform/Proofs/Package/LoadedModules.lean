import Wireform.Proofs.Generation.Nameability
import Wireform.Proofs.Names.Identity
import Wireform.Proofs.Names.ScopeWalk
import Wireform.Proofs.Package.BreadthFirst
import Wireform.Proofs.Package.ModulePlaces

/-! # Loaded modules

Every module that a loaded file declares without its items is loaded or missing, once for each
declaration. A path goes from the loader to the units as text, and the table of scopes makes it up
once more from the items; it stays the same on both ways. -/

namespace Wireform.Package

open Files Names Syntax Text Sources

variable {tree : FileTree} {root : FilePath} {source child : SourceFile} {unit : SourceUnit}
  {declared : DeclaredModule} {files : List SourceFile} {units : List SourceUnit}
  {sources : Sources} {externalCrates : List ExternalCrate}

/-! ## Paths of modules -/

theorem Reached.isIdentifierPath (reached : Reached tree root source) :
    isIdentifierPath source.module = true := by
  rw [isIdentifierPath_iff]
  induction reached with
  | refl => exact List.forall_mem_nil _
  | tail _ declares induction =>
    rcases mem_children_iff.mp declares with ⟨declared, among, place, found, rfl⟩
    rw [SourceFile.moduleOf, List.forall_mem_append]
    exact ⟨induction, fun _ => isIdentifierText_of_mem_path among⟩

/-- A unit is registered under the path that its file was found under. -/
theorem Reached.module_eq (reached : Reached tree root source)
    (reads : source.read tree = .ok unit) : unit.module = source.module := by
  rcases SourceFile.read_eq_ok_iff.mp reads with ⟨text, items, -, -, rfl⟩
  exact ofText_text reached.isIdentifierPath

/-! ## The modules of all files -/

theorem map_eq_of_reads {α : Type} {ofFile : SourceFile → α} {ofUnit : SourceUnit → α}
    (reads : files.map (·.read tree) = units.map .ok)
    (agree : ∀ file ∈ files, ∀ unit, file.read tree = .ok unit → ofFile file = ofUnit unit) :
    files.map ofFile = units.map ofUnit := by
  induction files generalizing units with
  | nil =>
    rw [List.map_eq_nil_iff.mp reads.symm]
    rfl
  | cons file rest induction =>
    rcases List.map_eq_cons_iff.mp reads.symm with ⟨unit, others, rfl, first, later⟩
    rcases List.forall_mem_cons.mp agree with ⟨own, agree⟩
    rw [List.map_cons, List.map_cons, own unit first.symm, induction later.symm agree]

theorem perm_declared (source : SourceFile) :
    ((source.children tree).map (·.module) ++ source.strays tree).Perm
      ((source.declared tree).map source.moduleOf) := by
  rw [SourceFile.children, SourceFile.strays]
  induction source.declared tree with
  | nil => exact .refl _
  | cons declared rest induction =>
    cases found : source.place? tree declared with
    | some place =>
      have located : source.locate tree declared =
          some ⟨place, source.moduleOf declared, declared.moduleDirectory place⟩ := by
        rw [SourceFile.locate, found, Option.map_some]
      rw [List.filterMap_cons_some located, List.filter_cons_of_neg (by simp [found])]
      exact induction.cons _
    | none =>
      have unlocated : source.locate tree declared = none := by
        rw [SourceFile.locate, found, Option.map_none]
      rw [List.filterMap_cons_none unlocated, List.filter_cons_of_pos (by simp [found])]
      exact List.perm_middle.trans (induction.cons _)

/-- The modules of all files and those that are missing are the root and all declared modules. -/
theorem perm_files (inOrder : files = .ofRoot root :: files.flatMap (·.children tree)) :
    (files.map (·.module) ++ files.flatMap (·.strays tree)).Perm
      ([] :: files.flatMap fun source => (source.declared tree).map source.moduleOf) := by
  have modules : files.map (·.module) =
      [] :: files.flatMap fun source => (source.children tree).map (·.module) := by
    conv_lhs => rw [inOrder, List.map_cons, List.map_flatMap]
    rfl
  rw [modules, List.cons_append]
  refine List.Perm.cons _ ((List.flatMap_append_perm _ _ _).trans ?_)
  exact List.Perm.flatMap_left _ fun source _ => perm_declared source

/-! ## Scopes of declared modules -/

/-- A module that an item declares has a scope, whose path is that of the scope around the item and
its name, and a visibility. -/
theorem exists_scope {outer : ModulePath} {tags : List Attribute} {visible : Visibility}
    {name : Name} {content : Option (List Item)}
    (contains : (Compilation.ofUnits units externalCrates).Contains outer
      (.module tags visible name content)) :
    ∃ number, (ScopeTable.ofUnits units).number? outer = some number ∧
      (ScopeTable.ofUnits units).pathOf number = outer ∧
      ((ScopeTable.ofUnits units).number? (outer ++ [name.text])).isSome = true ∧
      ((Compilation.ofUnits units externalCrates).moduleVisibility?
        (outer ++ [name.text])).isSome = true := by
  have describes := ScopeTable.describes_ofUnits units externalCrates
  have around := describes.known outer
  rw [Compilation.hasModule_of_introduces contains.introduces] at around
  have known := Compilation.hasModule_of_introduces (Compilation.Introduces.item contains)
  rcases Option.isSome_iff_exists.mp around with ⟨number, numbered⟩
  refine ⟨number, numbered, ScopeTable.pathOf_eq describes numbered, ?_, ?_⟩
  · rw [describes.known, known]
  · have stated := Compilation.mem_visibility_iff.mpr ⟨outer, tags, name, content, rfl, contains⟩
    rw [Compilation.moduleVisibility?, if_pos known, Declarations.visibility?,
      List.findSome?_isSome_iff]
    exact ⟨_, stated, by simp⟩

/-! ## The modules of a crate -/

/-- A declaration in the unit `parent` leads to the file of another unit. The item has a scope
around it, and that scope's path and the item's name are the module of the unit. -/
structure Registers (tree : FileTree) (units : List SourceUnit) (unit parent : SourceUnit)
    (declared : DeclaredModule) (visible : Visibility) (name : Name) (number : Nat) : Prop where
  parent_mem : parent ∈ units
  located : ∃ source child : SourceFile, source.read tree = .ok parent ∧
    declared ∈ declaredInAll parent.items ∧ source.locate tree declared = some child ∧
    child.read tree = .ok unit
  contains : Names.Contains parent.module parent.items (parent.module ++ declared.aroundNames)
    (.module declared.tags visible name none)
  numbered : (ScopeTable.ofUnits units).number? (parent.module ++ declared.aroundNames) =
    some number
  module_eq : unit.module = (ScopeTable.ofUnits units).pathOf number ++ [name.text]

/-- What becomes of the modules that the loaded files declare without their items. -/
structure ModuleAccount (tree : FileTree) (root : FilePath) (sources : Sources) : Prop where
  /-- The units are those of the files, breadth first. -/
  inOrder : ∃ files places, FoundByDepth ((SourceFile.ofRoot root).below? tree) places files ∧
    files.map (·.read tree) = sources.units.map .ok ∧
    files.map (·.module) = sources.units.map (·.module)
  /-- The modules of the units and those that are missing are the root and one for each
  declaration. -/
  perm : (sources.units.map (·.module) ++ sources.missing).Perm
    ([] :: sources.units.flatMap fun unit =>
      (declaredInAll unit.items).map fun declared => unit.module ++ declared.path)
  accounted : ∀ unit ∈ sources.units, ∀ outer tags visible name,
    Names.Contains unit.module unit.items outer (.module tags visible name none) →
      outer ++ [name.text] ∈ sources.units.map (·.module) ++ sources.missing
  /-- No unit but the first is in a module that no item declares. -/
  registered : ∃ first rest, sources.units = first :: rest ∧ first.module = [] ∧
    ∀ unit ∈ rest,
      (∃ parent declared visible name number,
        Registers tree sources.units unit parent declared visible name number) ∧
      ((ScopeTable.ofUnits sources.units).number? unit.module).isSome = true ∧
      ∀ externalCrates, ((Compilation.ofUnits sources.units externalCrates).moduleVisibility?
        unit.module).isSome = true

theorem mem_units_of_reads (reads : files.map (·.read tree) = units.map .ok)
    (among : source ∈ files) (sourceReads : source.read tree = .ok unit) : unit ∈ units := by
  have inMap := List.mem_map_of_mem (f := fun file : SourceFile => file.read tree) among
  rw [reads] at inMap
  rcases List.mem_map.mp inMap with ⟨same, inUnits, sameReads⟩
  rw [sourceReads] at sameReads
  cases sameReads
  exact inUnits

theorem exists_file_of_reads (reads : files.map (·.read tree) = units.map .ok)
    (among : unit ∈ units) : ∃ file ∈ files, file.read tree = .ok unit := by
  apply List.mem_map.mp
  rw [reads]
  exact List.mem_map_of_mem among

/-- The item that led to a file is in the unit of the file that declares it. -/
theorem exists_registers (reads : files.map (·.read tree) = units.map .ok)
    (reached : ∀ file ∈ files, Reached tree root file)
    (among : child ∈ files.flatMap (·.children tree)) (childReads : child.read tree = .ok unit) :
    ∃ parent declared visible name number,
      Registers tree units unit parent declared visible name number := by
  rcases List.mem_flatMap.mp among with ⟨source, inFiles, declares⟩
  have sourceReached := reached source inFiles
  rcases readable_of_declares declares with ⟨parent, parentReads⟩
  have inUnits := mem_units_of_reads reads inFiles parentReads
  rcases List.mem_filterMap.mp declares with ⟨declared, inSource, located⟩
  rw [SourceFile.declared_eq parentReads] at inSource
  rcases contains_of_mem_declaredInAll parent.items parent.module inSource with
    ⟨visible, name, named, contains⟩
  have inCrate : (Compilation.ofUnits units []).Contains (parent.module ++ declared.aroundNames)
      (.module declared.tags visible name none) := ⟨parent, inUnits, contains⟩
  rcases exists_scope inCrate with ⟨number, numbered, pathOf, -⟩
  refine ⟨parent, declared, visible, name, number, inUnits,
    ⟨source, child, parentReads, inSource, located, childReads⟩, contains, numbered, ?_⟩
  have place : child.module = source.moduleOf declared := by
    rcases Option.map_eq_some_iff.mp located with ⟨_, _, rfl⟩
    rfl
  have childReached : Reached tree root child := sourceReached.tail declares
  rw [childReached.module_eq childReads, place, SourceFile.moduleOf, DeclaredModule.path, pathOf,
    sourceReached.module_eq parentReads, named, List.append_assoc]

/-- A unit that an item registers is in a module with a scope and a visibility. -/
theorem Registers.isDeclared {parent : SourceUnit} {visible : Visibility} {name : Name}
    {number : Nat} (registers : Registers tree units unit parent declared visible name number)
    (externalCrates : List ExternalCrate) :
    ((ScopeTable.ofUnits units).number? unit.module).isSome = true ∧
      ((Compilation.ofUnits units externalCrates).moduleVisibility? unit.module).isSome = true := by
  have inCrate : (Compilation.ofUnits units externalCrates).Contains
      (parent.module ++ declared.aroundNames) (.module declared.tags visible name none) :=
    ⟨parent, registers.parent_mem, registers.contains⟩
  rcases exists_scope inCrate with ⟨other, numbered, pathOf, known, shown⟩
  cases registers.numbered.symm.trans numbered
  rw [registers.module_eq, pathOf]
  exact ⟨known, shown⟩

/-- Loading accounts for every module that a loaded file declares: it has a unit or is missing. The
units are in breadth-first order, and each but the first is registered under the path that the table
of scopes derives from the item that declares it. -/
theorem load_modules (loads : load tree root = .ok sources) : ModuleAccount tree root sources := by
  rcases readLevels_eq_ok_iff.mp loads with ⟨gathers, ends⟩
  rcases gather_eq_ok gathers with ⟨reads, missing⟩
  rcases exists_foundByDepth ends with ⟨places, found⟩
  have inOrder := above_singleton ends
  have reached : ∀ file ∈ above tree levelLimit [.ofRoot root], Reached tree root file :=
    fun _ => reflTransGen_of_mem_above
  generalize above tree levelLimit [.ofRoot root] = files at reads missing found inOrder reached
  have modules : files.map (·.module) = sources.units.map (·.module) :=
    map_eq_of_reads reads fun file among unit fileReads =>
      ((reached file among).module_eq fileReads).symm
  have declarations : (files.flatMap fun source => (source.declared tree).map source.moduleOf) =
      sources.units.flatMap fun unit =>
        (declaredInAll unit.items).map fun declared => unit.module ++ declared.path := by
    rw [List.flatMap_def, List.flatMap_def]
    refine congrArg _ (map_eq_of_reads reads fun file among unit fileReads => ?_)
    rw [SourceFile.declared_eq fileReads, (reached file among).module_eq fileReads]
    rfl
  have perm := perm_files inOrder
  rw [modules, ← missing, declarations] at perm
  refine ⟨⟨files, places, found, reads, modules⟩, perm, ?_, ?_⟩
  · intro unit inUnits outer tags visible name contains
    rcases exists_mem_declaredInAll contains with ⟨declared, inItems, path⟩
    rw [perm.mem_iff, path]
    exact .tail _ (List.mem_flatMap.mpr ⟨unit, inUnits, List.mem_map_of_mem inItems⟩)
  · have inTurn := reads
    rw [inOrder] at inTurn
    rcases List.map_eq_cons_iff.mp inTurn.symm with ⟨first, rest, split, rootReads, restReads⟩
    have rootReached : Reached tree root (.ofRoot root) := .refl
    refine ⟨first, rest, split, rootReached.module_eq rootReads.symm, ?_⟩
    intro unit inRest
    rcases exists_file_of_reads restReads.symm inRest with ⟨child, among, childReads⟩
    rcases exists_registers reads reached among childReads with
      ⟨parent, declared, visible, name, number, registers⟩
    exact ⟨⟨parent, declared, visible, name, number, registers⟩,
      (registers.isDeclared []).1, fun externalCrates => (registers.isDeclared externalCrates).2⟩

/-- A module inside one that is written in place, with a raw name, and a module without a file
between two that have one. -/
def interleaved : FileTree :=
  { entries := [(["src"], .directory),
    (["src", "lib.rs"], .file (.text "mod a \x7b mod r#type; \x7d mod gone; mod b;")),
    (["src", "a"], .directory),
    (["src", "a", "type.rs"], .file (.text "mod last;")),
    (["src", "a", "type"], .directory),
    (["src", "a", "type", "last.rs"], .file (.text "")),
    (["src", "b.rs"], .file (.text ""))] }

theorem load_modules_interleaved :
    ∃ sources, load interleaved ⟨["src", "lib.rs"]⟩ = .ok sources ∧
      sources.units.map (·.module) = [[], ["a", "type"], ["b"], ["a", "type", "last"]] ∧
      sources.missing = [["gone"]] ∧ ModuleAccount interleaved ⟨["src", "lib.rs"]⟩ sources := by
  have loaded : (load interleaved ⟨["src", "lib.rs"]⟩).toOption.map (fun sources =>
      (sources.units.map (·.module), sources.missing)) =
        some ([[], ["a", "type"], ["b"], ["a", "type", "last"]], [["gone"]]) := by
    decide +kernel
  cases loads : load interleaved ⟨["src", "lib.rs"]⟩ with
  | error error =>
    rw [loads] at loaded
    cases loaded
  | ok sources =>
    rw [loads] at loaded
    rcases Prod.mk.inj (Option.some.inj loaded) with ⟨modules, missing⟩
    exact ⟨sources, rfl, modules, missing, load_modules loads⟩

end Wireform.Package
