import Mathlib.Data.List.Basic
import Wireform.Package.Source
import Wireform.Proofs.Names.Origin

/-! # Declared modules

The modules that a file declares without their items, each with the modules that are written in
place around it, and where their files are looked for. -/

namespace Wireform.Package

open Files Names Syntax

/-- A module that is declared without its items. The modules around it are written in place in the
same file, the outermost first, each with its attributes. -/
structure DeclaredModule where
  around : List (String × List Attribute)
  name : String
  tags : List Attribute

namespace DeclaredModule

/-- The declaration, with one more module around it. -/
def inside (name : String) (tags : List Attribute) (declared : DeclaredModule) : DeclaredModule :=
  { declared with around := (name, tags) :: declared.around }

def aroundNames (declared : DeclaredModule) : List String := declared.around.map Prod.fst

/-- The path of the module from the module that the file holds. -/
def path (declared : DeclaredModule) : ModulePath := declared.aroundNames ++ [declared.name]

/-- The directory of the innermost module around the declaration. That of the file's own module is
`base`. -/
def directory (base : FilePath) (declared : DeclaredModule) : FilePath :=
  declared.aroundNames.foldl .joinName base

/-- Where the file of a module can be, the preferred place first. A path that an attribute gives is
looked up in `base`. -/
def placesFrom (base : FilePath) (source : SourceFile) (declared : DeclaredModule) :
    List FilePath :=
  match pathAttribute? declared.tags with
  | some written => [base.join (.ofText written)]
  | none =>
    let directory := declared.directory source.childDirectory
    [directory.joinName (declared.name ++ ".rs"),
      (directory.joinName declared.name).joinName "mod.rs"]

/-- The directory of the modules that the module's file declares, if it is at this place. -/
def moduleDirectory (declared : DeclaredModule) (place : FilePath) : FilePath :=
  if (pathAttribute? declared.tags).isSome ∨ place.fileName? = some "mod.rs" then place.directory
  else place.withoutExtension

end DeclaredModule

mutual
/-- The modules that an item declares without their items. -/
def declaredIn : Item → List DeclaredModule
  | .module tags _ name (some items) => (declaredInAll items).map (.inside name.text tags)
  | .module tags _ name none => [⟨[], name.text, tags⟩]
  | _ => []

def declaredInAll : List Item → List DeclaredModule
  | [] => []
  | head :: tail => declaredIn head ++ declaredInAll tail
end

/-! ## Declaring items -/

mutual
theorem contains_of_mem_declaredIn :
    ∀ (item : Item) (around : ModulePath) {declared : DeclaredModule},
      declared ∈ declaredIn item → ∀ items, item ∈ items →
      ∃ visible name, name.text = declared.name ∧
        Names.Contains around items (around ++ declared.aroundNames)
          (.module declared.tags visible name none)
  | .module tags visible own (some inner), around, _, among, items, inItems => by
    rw [declaredIn] at among
    rcases List.mem_map.mp among with ⟨declared, inInner, rfl⟩
    rcases contains_of_mem_declaredInAll inner (around ++ [own.text]) inInner with
      ⟨shown, name, named, contains⟩
    rw [List.append_assoc] at contains
    exact ⟨shown, name, named, .inside inItems contains⟩
  | .module tags visible own none, around, _, among, items, inItems => by
    rw [declaredIn] at among
    cases List.mem_singleton.mp among
    rw [DeclaredModule.aroundNames, List.map_nil, List.append_nil]
    exact ⟨visible, own, rfl, .here inItems⟩
  | .struct _, _, _, among, _, _ => nomatch among
  | .declaration _ _, _, _, among, _, _ => nomatch among
  | .typeAlias _ _ _, _, _, among, _, _ => nomatch among
  | .constant _ _ _, _, _, among, _, _ => nomatch among
  | .use _ _, _, _, among, _, _ => nomatch among
  | .externalCrate _ _, _, _, among, _, _ => nomatch among
  | .implementation _ _ _, _, _, among, _, _ => nomatch among
  | .other, _, _, among, _, _ => nomatch among

/-- A declared module is an item in the modules that are written around it. -/
theorem contains_of_mem_declaredInAll :
    ∀ (items : List Item) (around : ModulePath) {declared : DeclaredModule},
      declared ∈ declaredInAll items →
      ∃ visible name, name.text = declared.name ∧
        Names.Contains around items (around ++ declared.aroundNames)
          (.module declared.tags visible name none)
  | [], _, _, among => nomatch among
  | head :: tail, around, _, among => by
    rw [declaredInAll] at among
    rcases List.mem_append.mp among with inHead | inTail
    · exact contains_of_mem_declaredIn head around inHead _ List.mem_cons_self
    · rcases contains_of_mem_declaredInAll tail around inTail with ⟨visible, name, named, contains⟩
      exact ⟨visible, name, named, contains.tail⟩
end

theorem declaredInAll_eq_flatMap (items : List Item) :
    declaredInAll items = items.flatMap declaredIn := by
  induction items with
  | nil => rfl
  | cons head tail induction => rw [declaredInAll, induction, List.flatMap_cons]

/-- Every item that declares a module without its items is among the declared modules. -/
theorem exists_mem_declaredInAll {items : List Item} {around outer : ModulePath}
    {tags : List Attribute} {visible : Visibility} {name : Name}
    (contains : Names.Contains around items outer (.module tags visible name none)) :
    ∃ declared ∈ declaredInAll items, outer ++ [name.text] = around ++ declared.path := by
  generalize same : Item.module tags visible name none = item at contains
  induction contains with
  | here among =>
    subst same
    rw [declaredInAll_eq_flatMap]
    exact ⟨⟨[], name.text, tags⟩, List.mem_flatMap.mpr ⟨_, among, List.mem_cons_self⟩, rfl⟩
  | @inside around module items inner item attributes shown own among contains induction =>
    rcases induction same with ⟨declared, inInner, path⟩
    refine ⟨declared.inside own.text attributes, ?_, ?_⟩
    · rw [declaredInAll_eq_flatMap]
      exact List.mem_flatMap.mpr ⟨_, among, List.mem_map_of_mem inInner⟩
    · rw [path, List.append_assoc]
      rfl

/-! ## Declarations -/

mutual
theorem declarationsIn_eq (fileDirectory : FilePath) :
    ∀ (item : Item) (childDirectory : FilePath) (module : ModulePath),
      declarationsIn fileDirectory childDirectory module item =
        (declaredIn item).map fun declared =>
          declarationOf fileDirectory (declared.directory childDirectory)
            (module ++ declared.aroundNames) declared.name declared.tags
  | .module tags _ name (some items), childDirectory, module => by
    rw [declarationsIn, declarationsInAll_eq fileDirectory items, declaredIn, List.map_map]
    simp [DeclaredModule.inside, DeclaredModule.directory, DeclaredModule.aroundNames,
      Function.comp_def]
  | .module tags _ name none, childDirectory, module => by
    simp [declarationsIn, declaredIn, DeclaredModule.directory, DeclaredModule.aroundNames]
  | .struct _, _, _ => rfl
  | .declaration _ _, _, _ => rfl
  | .typeAlias _ _ _, _, _ => rfl
  | .constant _ _ _, _, _ => rfl
  | .use _ _, _, _ => rfl
  | .externalCrate _ _, _, _ => rfl
  | .implementation _ _ _, _, _ => rfl
  | .other, _, _ => rfl

/-- What is looked for in the end does not depend on how deep the declaration stands. -/
theorem declarationsInAll_eq (fileDirectory : FilePath) :
    ∀ (items : List Item) (childDirectory : FilePath) (module : ModulePath),
      declarationsInAll fileDirectory childDirectory module items =
        (declaredInAll items).map fun declared =>
          declarationOf fileDirectory (declared.directory childDirectory)
            (module ++ declared.aroundNames) declared.name declared.tags
  | [], _, _ => rfl
  | head :: tail, childDirectory, module => by
    rw [declarationsInAll, declaredInAll, List.map_append, declarationsIn_eq fileDirectory head,
      declarationsInAll_eq fileDirectory tail]
end

/-! ## Declarations of a file -/

namespace SourceFile

variable {tree : FileTree} {source : SourceFile} {unit : SourceUnit}

/-- The places where the file of a declared module is looked for. -/
def searched (source : SourceFile) (declared : DeclaredModule) : List FilePath :=
  declared.placesFrom source.file.directory source

/-- The first of them where something is. -/
def place? (tree : FileTree) (source : SourceFile) (declared : DeclaredModule) : Option FilePath :=
  (source.searched declared).find? tree.pathExists

/-- The module that a declaration stands for. -/
def moduleOf (source : SourceFile) (declared : DeclaredModule) : ModulePath :=
  source.module ++ declared.path

/-- The file of a declared module. -/
def locate (tree : FileTree) (source : SourceFile) (declared : DeclaredModule) :
    Option SourceFile :=
  (source.place? tree declared).map fun place =>
    ⟨place, source.moduleOf declared, declared.moduleDirectory place⟩

/-- The modules that a file declares. One that cannot be read declares none. -/
def declared (tree : FileTree) (source : SourceFile) : List DeclaredModule :=
  match source.read tree with
  | .ok unit => declaredInAll unit.items
  | .error _ => []

def children (tree : FileTree) (source : SourceFile) : List SourceFile :=
  (source.declared tree).filterMap (source.locate tree)

/-- The modules that a file declares and that have no file. -/
def strays (tree : FileTree) (source : SourceFile) : List ModulePath :=
  ((source.declared tree).filter fun declared => (source.place? tree declared).isNone).map
    source.moduleOf

theorem read_eq_ok_iff :
    source.read tree = .ok unit ↔
      ∃ text items, tree.readText? source.file = some text ∧
        ∃ parses : parseFile? text = some items,
          unit = ⟨source.file.text, .ofText source.module.text, text, items, parses⟩ := by
  rw [read]
  cases tree.readText? source.file with
  | none => simp
  | some text =>
    have parsed : SourceUnit.parse? source.file.text source.module.text text = some unit ↔ _ :=
      SourceUnit.parse?_eq_some_iff
    dsimp only
    cases found : SourceUnit.parse? source.file.text source.module.text text with
    | none => simpa [found] using parsed
    | some other => simpa [found] using parsed

theorem declared_eq (reads : source.read tree = .ok unit) :
    source.declared tree = declaredInAll unit.items := by
  rw [declared, reads]

theorem exists_of_mem_declared {declared : DeclaredModule}
    (among : declared ∈ source.declared tree) :
    ∃ unit, source.read tree = .ok unit ∧ declared ∈ declaredInAll unit.items := by
  cases reads : source.read tree with
  | error error =>
    rw [SourceFile.declared, reads] at among
    cases among
  | ok unit =>
    rw [declared_eq reads] at among
    exact ⟨unit, rfl, among⟩

theorem declarations_eq (source : SourceFile) (unit : SourceUnit) :
    source.declarations unit = (declaredInAll unit.items).map fun declared =>
      ⟨source.moduleOf declared, source.searched declared,
        (pathAttribute? declared.tags).isSome⟩ := by
  rw [declarations, declarationsInAll_eq]
  apply List.map_congr_left
  intro declared _
  rw [declarationOf, searched, DeclaredModule.placesFrom, moduleOf, DeclaredModule.path]
  cases pathAttribute? declared.tags <;> simp

theorem found_eq (reads : source.read tree = .ok unit) :
    source.found tree unit = source.children tree := by
  rw [found, declarations_eq, List.filterMap_map, children, declared_eq reads]
  apply List.filterMap_congr
  intro declared _
  simp [ModuleDeclaration.source?, ModuleDeclaration.file?, locate, place?,
    DeclaredModule.moduleDirectory]

theorem missing_eq (reads : source.read tree = .ok unit) :
    source.missing tree unit = source.strays tree := by
  rw [missing, declarations_eq, List.filter_map, List.map_map, strays, declared_eq reads]
  rfl

end SourceFile

end Wireform.Package
