import Wireform.Proofs.Files.Pieces
import Wireform.Proofs.Names.Identity
import Wireform.Proofs.Package.Recurrence
import Wireform.Proofs.Syntax.Identifiers

/-! # Places of modules

Where the files of a crate's modules are looked for, and where the language prescribes them to
be. -/

namespace Wireform.Package

open Files Names Syntax Sources

variable {tree : FileTree} {root : FilePath} {source : SourceFile} {unit : SourceUnit}
  {declared : DeclaredModule} {sources : Sources}

/-! ## Names of declared modules -/

/-- A module that a file declares, and all modules around it, have identifiers for names. -/
theorem isIdentifierText_of_mem_path {name : String} (among : declared ∈ source.declared tree)
    (inPath : name ∈ declared.path) : Text.isIdentifierText name.toList = true := by
  rcases SourceFile.exists_of_mem_declared among with ⟨unit, reads, inItems⟩
  rcases SourceFile.read_eq_ok_iff.mp reads with ⟨text, items, -, parses, rfl⟩
  rcases contains_of_mem_declaredInAll items [] inItems with ⟨visible, own, named, contains⟩
  have identified := areIdentified_of_parseFile? parses
  have identifier (name : Name) (isName : name.isIdentifier = true) :
      Text.isIdentifierText name.text.toList = true := (Name.isIdentifier_iff.mp isName).1
  have inside : ∀ name ∈ declared.aroundNames, Text.isIdentifierText name.toList = true :=
    contains.forall_names identifier identified (List.forall_mem_nil _)
  rcases List.mem_append.mp inPath with inAround | last
  · exact inside name inAround
  · rw [List.mem_singleton.mp last, ← named]
    exact identifier own (isIdentifier_of_module (contains.isIdentified identified))

theorem namesEntry_of_isIdentifierText {name : String}
    (identifier : Text.isIdentifierText name.toList = true) : namesEntry name = true := by
  rw [namesEntry_iff]
  refine ⟨?_, ?_, ?_⟩ <;> rintro rfl <;> revert identifier <;> decide

theorem namesEntry_of_mem_path {name : String} (among : declared ∈ source.declared tree)
    (inPath : name ∈ declared.path) : namesEntry name = true :=
  namesEntry_of_isIdentifierText (isIdentifierText_of_mem_path among inPath)

/-! ## Prescribed places -/

/-- The places that the language prescribes for the file of a module. A path that an attribute gives
is looked up beside the declaring file, or in the directory of the modules around the declaration if
there are any. None of those may have a path of its own. -/
def SourceFile.prescribed? (source : SourceFile) (declared : DeclaredModule) :
    Option (List FilePath) :=
  if declared.around.all fun module => (pathAttribute? module.2).isNone then
    some (declared.placesFrom (if declared.around.isEmpty then source.file.directory
      else declared.directory source.childDirectory) source)
  else none

theorem placesFrom_eq_iff {base other : FilePath} :
    declared.placesFrom base source = declared.placesFrom other source ↔
      ∀ written, pathAttribute? declared.tags = some written →
        base.join (.ofText written) = other.join (.ofText written) := by
  rw [DeclaredModule.placesFrom, DeclaredModule.placesFrom]
  cases pathAttribute? declared.tags <;> simp

theorem Placed.length_stemPieces_le (placed : Placed source) :
    source.file.directory.stemPieces.length ≤ source.childDirectory.stemPieces.length := by
  rcases placed with beside | named
  · rw [beside]
  · rw [named]
    exact FilePath.length_stemPieces_directory_le source.file

/-- A path that is given inside other modules is looked up where the language prescribes only if it
is absolute. -/
theorem searched_eq_iff {places : List FilePath} (placed : Placed source)
    (among : declared ∈ source.declared tree)
    (prescribed : source.prescribed? declared = some places) :
    source.searched declared = places ↔
      declared.around = [] ∨ ∀ written, pathAttribute? declared.tags = some written →
        (FilePath.ofText written).isAbsolute = true := by
  rw [SourceFile.prescribed?] at prescribed
  split at prescribed
  · cases prescribed
    rw [SourceFile.searched, placesFrom_eq_iff]
    cases around : declared.around with
    | nil => simp
    | cons first rest =>
      have apart : source.file.directory.stemPieces ≠
          (declared.directory source.childDirectory).stemPieces := by
        intro same
        have named : ∀ name ∈ declared.aroundNames, name ≠ "" := by
          intro name inAround
          exact (namesEntry_iff.mp
            (namesEntry_of_mem_path among (List.mem_append_left _ inAround))).1
        have deeper := placed.length_stemPieces_le
        rw [same, DeclaredModule.directory, FilePath.stemPieces_foldl_joinName named,
          List.length_append, DeclaredModule.aroundNames, around] at deeper
        simp at deeper
      simp [FilePath.join_eq_join_iff, apart]
  · cases prescribed

/-- A module without a path attribute keeps its own modules in the directory of its name, beside
which or in which its file is. -/
theorem moduleDirectory_eq {place : FilePath} (among : declared ∈ source.declared tree)
    (unwritten : pathAttribute? declared.tags = none) (other : declared.name ≠ "mod")
    (searched : place ∈ source.searched declared) :
    declared.moduleDirectory place =
      (declared.directory source.childDirectory).joinName declared.name := by
  have isName : namesEntry declared.name = true :=
    namesEntry_of_mem_path among (List.mem_append_right _ (List.mem_singleton_self _))
  have notEmpty := (namesEntry_iff.mp isName).1
  rw [SourceFile.searched, DeclaredModule.placesFrom, unwritten] at searched
  simp only [List.mem_cons, List.not_mem_nil, or_false] at searched
  rw [DeclaredModule.moduleDirectory, unwritten]
  rcases searched with rfl | rfl
  · have plain : declared.name ++ ".rs" ≠ "mod.rs" := by
      intro same
      have letters := congrArg String.toList same
      rw [String.toList_append] at letters
      exact other (String.toList_injective (List.append_cancel_right letters))
    rw [FilePath.fileName?_joinName (FilePath.namesEntry_append_rs declared.name),
      if_neg (by simp [plain]), FilePath.withoutExtension_joinName notEmpty]
  · rw [FilePath.fileName?_joinName (by decide), if_pos (.inr rfl),
      FilePath.directory_joinName_joinName isName (by decide)]

/-! ## The files of a crate -/

/-- The files of a crate whose root this is, one after another, and what their units are. -/
structure Placement (tree : FileTree) (root : FilePath) (sources : Sources)
    (files : List SourceFile) : Prop where
  /-- After the root come the files of the modules that it and the others declare, in their order.
  Each is at the first of the places searched where something is. -/
  files_eq : files = .ofRoot root :: files.flatMap (·.children tree)
  units_eq : files.map (·.read tree) = sources.units.map .ok
  /-- The modules for which nothing is at any of the places searched. -/
  missing_eq : sources.missing = files.flatMap (·.strays tree)
  searched_eq_iff : ∀ source ∈ files, ∀ declared ∈ source.declared tree, ∀ places,
    source.prescribed? declared = some places →
      (source.searched declared = places ↔
        declared.around = [] ∨ ∀ written, pathAttribute? declared.tags = some written →
          (FilePath.ofText written).isAbsolute = true)
  moduleDirectory_eq : ∀ source ∈ files, ∀ declared ∈ source.declared tree,
    pathAttribute? declared.tags = none → declared.name ≠ "mod" →
      ∀ place ∈ source.searched declared,
        declared.moduleDirectory place =
          (declared.directory source.childDirectory).joinName declared.name

/-- Modules are found where the language prescribes them to be, except for those inside modules that
are written in place and with a relative path of their own. -/
theorem load_places (loads : load tree root = .ok sources) :
    ∃ files, Placement tree root sources files := by
  rcases exists_files_of_readLevels loads with ⟨files, inOrder, units, missing, reached⟩
  exact ⟨files, inOrder, units, missing,
    fun source among declared inSource places prescribed =>
      searched_eq_iff (Reached.placed (reached source among)) inSource prescribed,
    fun source _ declared inSource unwritten other place searched =>
      moduleDirectory_eq inSource unwritten other searched⟩

/-- A module inside another one, with a path of its own, and a file where the path leads. -/
def nested : FileTree :=
  { entries := [(["src"], .directory),
    (["src", "lib.rs"], .file (.text "mod a \x7b #[path = \"p.rs\"] mod b; \x7d mod c;")),
    (["src", "a"], .directory),
    (["src", "a", "p.rs"], .file (.text "")),
    (["src", "c.rs"], .file (.text ""))] }

theorem load_places_nested :
    ∃ sources, load nested ⟨["src", "lib.rs"]⟩ = .ok sources ∧
      ∃ files, Placement nested ⟨["src", "lib.rs"]⟩ sources files := by
  have succeeds : (load nested ⟨["src", "lib.rs"]⟩).toOption.isSome = true := by decide +kernel
  cases loads : load nested ⟨["src", "lib.rs"]⟩ with
  | error error =>
    rw [loads] at succeeds
    cases succeeds
  | ok sources => exact ⟨sources, rfl, load_places loads⟩

/-- The file is where the language prescribes it to be, and the module is missing. -/
theorem load_places_not_nested :
    ((SourceFile.ofRoot ⟨["src", "lib.rs"]⟩).declared nested).map
        (SourceFile.ofRoot ⟨["src", "lib.rs"]⟩).prescribed? =
      [some [⟨["src", "a", "p.rs"]⟩], some [⟨["src", "c.rs"]⟩, ⟨["src", "c", "mod.rs"]⟩]] ∧
    nested.pathExists ⟨["src", "a", "p.rs"]⟩ = true ∧
    (load nested ⟨["src", "lib.rs"]⟩).toOption.map (·.missing) = some [["a", "b"]] := by
  decide +kernel

end Wireform.Package
