import Mathlib.Data.List.Nodup
import Wireform.Package.Manifest
import Wireform.Proofs.Generation.Recognition

/-! # Dependencies

From the entries of a manifest to the markers. An entry is renamed, and left out if an earlier one
has its name; what is left is put over the crates of the language, and the markers are those of the
first crate that is the runtime package. -/

namespace Wireform.Names

/-! ## The crates of a compilation -/

theorem localName_of_find? {crates : List ExternalCrate} {found : ExternalCrate} {name : String}
    (foundIs : crates.find? (·.localName = name) = some found) : found.localName = name := by
  simpa using List.find?_some foundIs

theorem find?_insertCrate (crates : List ExternalCrate) (external : ExternalCrate)
    (name : String) :
    (insertCrate crates external).find? (·.localName = name) =
      if external.localName = name then some external
      else crates.find? (·.localName = name) := by
  unfold insertCrate
  split
  · rename_i present
    have keeps : ((fun other : ExternalCrate => decide (other.localName = name)) ∘
        fun other => if other.localName = external.localName then external else other) =
        fun other => decide (other.localName = name) := by
      funext other
      simp only [Function.comp]
      split
      · rename_i replaced
        rw [replaced]
      · rfl
    rw [List.find?_map, keeps]
    split
    · rename_i same
      subst same
      rcases Option.isSome_iff_exists.mp (List.find?_isSome.mpr (List.any_eq_true.mp present)) with
        ⟨found, foundIs⟩
      rw [foundIs, Option.map_some, if_pos (localName_of_find? foundIs)]
    · rename_i different
      cases foundIs : crates.find? (·.localName = name) with
      | none => rfl
      | some found =>
        rw [Option.map_some, localName_of_find? foundIs, if_neg (Ne.symm different)]
  · rename_i absent
    rw [List.find?_append, List.find?_singleton]
    by_cases same : external.localName = name
    · subst same
      have missing : crates.find? (·.localName = external.localName) = none := by
        rw [List.find?_eq_none]
        exact fun other among named => absent (List.any_eq_true.mpr ⟨other, among, named⟩)
      rw [missing, if_pos rfl, if_pos (decide_eq_true rfl), Option.none_or]
    · rw [if_neg same, if_neg (by simpa using same), Option.or_none]

theorem find?_foldl_insertCrate (added : List ExternalCrate) (name : String) :
    ∀ crates, (added.foldl insertCrate crates).find? (·.localName = name) =
      (added.reverse.find? (·.localName = name)).or (crates.find? (·.localName = name)) := by
  induction added with
  | nil => exact fun _ => rfl
  | cons first rest induction =>
    intro crates
    rw [List.foldl_cons, induction, find?_insertCrate, List.reverse_cons, List.find?_append,
      List.find?_singleton, Option.or_assoc]
    by_cases same : first.localName = name <;> simp only [same, decide_true, decide_false, if_true,
      if_false, Bool.false_eq_true, Option.some_or, Option.none_or]

theorem mem_of_mem_foldl_insertCrate {external : ExternalCrate} (added : List ExternalCrate) :
    ∀ crates, external ∈ added.foldl insertCrate crates → external ∈ added ∨ external ∈ crates := by
  induction added with
  | nil => exact fun _ => .inr
  | cons first rest induction =>
    intro crates among
    rcases induction _ among with among | among
    · exact .inl (.tail _ among)
    · unfold insertCrate at among
      split at among
      · rcases List.mem_map.mp among with ⟨other, inCrates, rfl⟩
        split
        · exact .inl List.mem_cons_self
        · exact .inr inCrates
      · rcases List.mem_append.mp among with among | among
        · exact .inr among
        · cases List.mem_singleton.mp among
          exact .inl List.mem_cons_self

namespace Compilation

variable {units : List SourceUnit} {externals : List ExternalCrate} {external : ExternalCrate}

/-- A crate is found under its local name if no other crate has that name, even if the language
has. -/
theorem crate?_ofUnits (distinct : (externals.map (·.localName)).Nodup)
    (among : external ∈ externals) :
    (ofUnits units externals).crate? external.localName = some external := by
  have found : externals.reverse.find? (·.localName = external.localName) = some external := by
    cases foundIs : externals.reverse.find? (·.localName = external.localName) with
    | none =>
      have unnamed := List.find?_eq_none.mp foundIs external (List.mem_reverse.mpr among)
      exact absurd (decide_eq_true rfl) unnamed
    | some found =>
      have foundAmong := List.mem_reverse.mp (List.mem_of_find?_eq_some foundIs)
      rw [List.inj_on_of_nodup_map distinct foundAmong among (localName_of_find? foundIs)]
  rw [crate?, ofUnits, find?_foldl_insertCrate, found, Option.some_or]

theorem mem_of_mem_crates_ofUnits (among : external ∈ (ofUnits units externals).crates) :
    external ∈ externals ∨ ∃ name ∈ standardCrates, external = .opaqueCrate name name := by
  rcases mem_of_mem_foldl_insertCrate _ _ among with among | among
  · exact .inl among
  · rcases mem_of_mem_foldl_insertCrate _ _ among with among | among
    · rcases List.mem_map.mp among with ⟨name, standard, rfl⟩
      exact .inr ⟨name, standard, rfl⟩
    · cases among

end Compilation

end Wireform.Names

namespace Wireform.Package.Manifest

open Names Syntax Generation

/-! ## The entries of a manifest -/

/-- The package that an entry names. -/
def writtenPackage (entry : String × Toml.Item) : String :=
  ((entry.2.get? "package").bind Toml.Item.text?).getD entry.1

def entriesOf (item : Toml.Item) : List (String × Toml.Item) :=
  match item.table? with
  | some table => table.entries
  | none => []

/-- The entries of all tables of dependencies, in the order in which they are read. -/
def listing (document : Toml.Table) : List (String × Toml.Item) :=
  (dependencyTables document).flatMap entriesOf

theorem dependenciesIn_eq (item : Toml.Item) :
    dependenciesIn item = (entriesOf item).map fun entry => dependencyOf entry.1 entry.2 := by
  unfold dependenciesIn entriesOf
  cases item.table? with
  | none => rfl
  | some table => rfl

theorem ofDocument_eq (document : Toml.Table) :
    ofDocument document =
      ⟨firstOfEachName ((listing document).map fun entry => dependencyOf entry.1 entry.2)⟩ := by
  rw [ofDocument, listing, List.map_flatMap]
  rw [funext dependenciesIn_eq]

theorem crateName_of_unhyphenated {name : String} (unhyphenated : '-' ∉ name.toList) :
    crateName name = name := by
  rw [← String.toList_inj, crateName, String.toList_map]
  calc name.toList.map (fun letter => if letter = '-' then '_' else letter)
    _ = name.toList.map id := by
      apply List.map_congr_left
      intro letter among
      have kept : letter ≠ '-' := fun hyphen => unhyphenated (hyphen ▸ among)
      exact if_neg kept
    _ = name.toList := List.map_id _

theorem hyphen_notMem_of_crateName {package : String} (plain : '_' ∉ (crateName package).toList) :
    '-' ∉ package.toList := by
  intro among
  rw [crateName, String.toList_map] at plain
  exact plain (List.mem_map.mpr ⟨'-', among, rfl⟩)

/-- Only one package has the crate of the runtime package. -/
theorem crateName_eq_runtimePackage_iff (package : String) :
    crateName package = runtimePackage ↔ package = runtimePackage := by
  constructor
  · intro same
    have plain : '_' ∉ (crateName package).toList := by rw [same]; decide
    rw [← same, crateName_of_unhyphenated (hyphen_notMem_of_crateName plain)]
  · rintro rfl
    exact crateName_of_unhyphenated (by decide)

/-! ## The first of each name -/

theorem mem_firstOfEachName_iff {dependency : Dependency} :
    ∀ listed, dependency ∈ firstOfEachName listed ↔
      listed.find? (·.name = dependency.name) = some dependency
  | [] => iff_of_false List.not_mem_nil nofun
  | first :: rest => by
    rw [firstOfEachName, List.mem_cons, List.mem_filter, mem_firstOfEachName_iff rest,
      List.find?_cons]
    by_cases same : first.name = dependency.name
    · simp [same, eq_comm]
    · have different : dependency ≠ first := fun equal => same (equal ▸ rfl)
      simp [same, different, Ne.symm same]

theorem nodup_firstOfEachName : ∀ listed, ((firstOfEachName listed).map (·.name)).Nodup
  | [] => List.nodup_nil
  | first :: rest => by
    rw [firstOfEachName, List.map_cons, List.nodup_cons]
    refine ⟨fun among => ?_, ?_⟩
    · rcases List.mem_map.mp among with ⟨other, inRest, named⟩
      exact of_decide_eq_true (List.mem_filter.mp inRest).2 named
    · exact (nodup_firstOfEachName rest).sublist (List.filter_sublist.map _)

/-- An entry counts if no earlier one has its name. -/
def Counts (document : Toml.Table) (entry : String × Toml.Item) : Prop :=
  ∃ before after, listing document = before ++ entry :: after ∧
    ∀ earlier ∈ before, crateName earlier.1 ≠ crateName entry.1

theorem mem_dependencies_iff {document : Toml.Table} {dependency : Dependency} :
    dependency ∈ (ofDocument document).dependencies ↔
      ∃ entry, Counts document entry ∧ dependencyOf entry.1 entry.2 = dependency := by
  rw [ofDocument_eq, mem_firstOfEachName_iff, List.find?_map]
  constructor
  · intro found
    rcases Option.map_eq_some_iff.mp found with ⟨entry, first, rfl⟩
    rcases List.find?_eq_some_iff_append.mp first with ⟨_, before, after, split, earlier⟩
    refine ⟨entry, ⟨before, after, split, fun other among => ?_⟩, rfl⟩
    exact of_decide_eq_false ((Bool.not_eq_true' _).mp (earlier other among))
  · rintro ⟨entry, ⟨before, after, split, earlier⟩, rfl⟩
    rw [Option.map_eq_some_iff]
    refine ⟨entry, List.find?_eq_some_iff_append.mpr ⟨decide_eq_true rfl, before, after, split, ?_⟩,
      rfl⟩
    intro other among
    exact (Bool.not_eq_true' _).mpr (decide_eq_false (earlier other among))

theorem dependsOn_runtimePackage_iff {document : Toml.Table} :
    (ofDocument document).dependsOn runtimePackage = true ↔
      ∃ entry, Counts document entry ∧ writtenPackage entry = runtimePackage := by
  rw [dependsOn, List.any_eq_true]
  constructor
  · rintro ⟨dependency, among, package⟩
    rcases mem_dependencies_iff.mp among with ⟨entry, counts, rfl⟩
    exact ⟨entry, counts, (crateName_eq_runtimePackage_iff _).mp (of_decide_eq_true package)⟩
  · rintro ⟨entry, counts, package⟩
    refine ⟨dependencyOf entry.1 entry.2, mem_dependencies_iff.mpr ⟨entry, counts, rfl⟩, ?_⟩
    exact decide_eq_true ((crateName_eq_runtimePackage_iff _).mpr package)

/-! ## Markers -/

variable {manifest : Manifest} {units : List SourceUnit} {dependency : Dependency}

def externalCrate (dependency : Dependency) : ExternalCrate :=
  if dependency.package = runtimePackage then .runtime dependency.name
  else .opaqueCrate dependency.name dependency.package

theorem externalCrates_eq : manifest.externalCrates = manifest.dependencies.map externalCrate := rfl

theorem externalCrate_localName : (externalCrate dependency).localName = dependency.name := by
  unfold externalCrate
  split <;> rfl

theorem externalCrate_crateName : (externalCrate dependency).crateName = dependency.package := by
  unfold externalCrate
  split
  · rename_i runtime
    exact runtime.symm
  · rfl

/-- A dependency is found under its name, whatever crate of the language has that name. -/
theorem crate?_of_mem (distinct : (manifest.dependencies.map (·.name)).Nodup)
    (among : dependency ∈ manifest.dependencies) :
    (Compilation.ofUnits units manifest.externalCrates).crate? dependency.name =
      some (externalCrate dependency) := by
  have names : manifest.externalCrates.map (·.localName) = manifest.dependencies.map (·.name) := by
    rw [externalCrates_eq, List.map_map]
    exact List.map_congr_left fun _ _ => externalCrate_localName
  have listed : externalCrate dependency ∈ manifest.externalCrates := by
    rw [externalCrates_eq]
    exact List.mem_map_of_mem among
  rw [← externalCrate_localName]
  exact Compilation.crate?_ofUnits (names ▸ distinct) listed

/-- No crate but those of dependencies is the runtime package, and they have its exports. -/
theorem exports_of_crateName {external : ExternalCrate}
    (among : external ∈ (Compilation.ofUnits units manifest.externalCrates).crates)
    (runtime : external.crateName = runtimePackage) :
    manifest.dependsOn runtimePackage = true ∧ external.exports = some runtimeExports := by
  rcases Compilation.mem_of_mem_crates_ofUnits among with listed | ⟨name, standard, rfl⟩
  · rw [externalCrates_eq] at listed
    rcases List.mem_map.mp listed with ⟨dependency, inManifest, rfl⟩
    have package : dependency.package = runtimePackage := externalCrate_crateName.symm.trans runtime
    rw [externalCrate, if_pos package]
    exact ⟨List.any_eq_true.mpr ⟨dependency, inManifest, decide_eq_true package⟩, rfl⟩
  · subst runtime
    exact absurd standard (by decide)

/-- The names of the markers in the runtime package. -/
def markerNames : List String := [optInName, exclusionName]

theorem exportsPath_marker {name : String} (marker : name ∈ markerNames)
    {external : ExternalCrate}
    (known : external.exports = none ∨ external.exports = some runtimeExports) :
    external.exportsPath [name] = true := by
  rcases known with opaqueExports | runtime
  · rw [ExternalCrate.exportsPath, opaqueExports]
  · rw [ExternalCrate.exportsPath, runtime]
    revert name
    decide

theorem splitPath_marker {name : String} (marker : name ∈ markerNames) :
    splitPath (runtimePackage ++ "::" ++ name) = [runtimePackage, name] := by
  revert name
  decide

theorem externalSymbol?_marker (distinct : (manifest.dependencies.map (·.name)).Nodup)
    {name : String} (marker : name ∈ markerNames) :
    (Compilation.ofUnits units manifest.externalCrates).externalSymbol?
        (runtimePackage ++ "::" ++ name) =
      if manifest.dependsOn runtimePackage then some ("::" ++ (runtimePackage ++ "::" ++ name))
      else none := by
  rw [Compilation.externalSymbol?, splitPath_marker marker]
  dsimp only
  cases found : (Compilation.ofUnits units manifest.externalCrates).crates.find?
      (·.crateName = runtimePackage) with
  | some external =>
    have runtime : external.crateName = runtimePackage := by simpa using List.find?_some found
    rcases exports_of_crateName (List.mem_of_find?_eq_some found) runtime with ⟨depends, exports⟩
    simp only [exportsPath_marker marker (.inr exports), depends, if_true]
  | none =>
    refine (if_neg fun depends => ?_).symm
    rcases List.any_eq_true.mp depends with ⟨dependency, among, package⟩
    have registered : externalCrate dependency ∈
        (Compilation.ofUnits units manifest.externalCrates).crates :=
      List.mem_of_find?_eq_some (crate?_of_mem distinct among)
    refine List.find?_eq_none.mp found _ registered (decide_eq_true ?_)
    rw [externalCrate_crateName, of_decide_eq_true package]

theorem resolve?_marker (distinct : (manifest.dependencies.map (·.name)).Nodup)
    (among : dependency ∈ manifest.dependencies) {name : String} (marker : name ∈ markerNames)
    (module : ModulePath) (space : Namespace) :
    (Compilation.ofUnits units manifest.externalCrates).resolve? module
        ⟨true, [dependency.name, name]⟩ space =
      some (.external (externalCrate dependency) [name]) := by
  have known : (externalCrate dependency).exports = none ∨
      (externalCrate dependency).exports = some runtimeExports := by
    unfold externalCrate
    split
    · exact .inr rfl
    · exact .inl rfl
  simp only [Compilation.resolve?, Compilation.follow?, if_true, crate?_of_mem distinct among,
    Option.map_some, bind, Option.bind_some, Resolved.members?, Resolved.member?, List.nil_append,
    exportsPath_marker marker known]

/-- The markers end in different letters. -/
theorem eq_of_getLast?_eq {name other : String} (marker : name ∈ markerNames)
    (otherMarker : other ∈ markerNames)
    (last : name.toList.getLast? = other.toList.getLast?) : name = other := by
  have all : ∀ name ∈ markerNames, ∀ other ∈ markerNames,
      name.toList.getLast? = other.toList.getLast? → name = other := by decide
  exact all name marker other otherMarker last

theorem toList_marker_ne_nil {name : String} (marker : name ∈ markerNames) : name.toList ≠ [] := by
  revert name
  decide

/-- An item of a dependency is a marker exactly if the package and the name agree. -/
theorem id_eq_marker_iff {name other : String} (marker : name ∈ markerNames)
    (otherMarker : other ∈ markerNames) :
    (Resolved.external (externalCrate dependency) [name]).symbol.id =
        "::" ++ (runtimePackage ++ "::" ++ other) ↔
      dependency.package = runtimePackage ∧ name = other := by
  have spelled : (Resolved.external (externalCrate dependency) [name]).symbol.id =
      "::" ++ (dependency.package ++ "::" ++ name) := by
    rw [Resolved.symbol, externalCrate_crateName, String.intercalate_cons_cons,
      String.intercalate_singleton]
  rw [spelled, String.append_right_inj]
  constructor
  · intro same
    have last : name.toList.getLast? = other.toList.getLast? := by
      have letters := congrArg (fun id => id.toList.getLast?) same
      have ends := toList_marker_ne_nil marker
      have otherEnds := toList_marker_ne_nil otherMarker
      simpa only [String.toList_append, List.getLast?_append_of_ne_nil _ ends,
        List.getLast?_append_of_ne_nil _ otherEnds] using letters
    cases eq_of_getLast?_eq marker otherMarker last
    exact ⟨String.append_left_inj _ |>.mp (String.append_left_inj _ |>.mp same), rfl⟩
  · rintro ⟨package, rfl⟩
    rw [package]

/-- What a global path to a marker of a dependency leads to, from everywhere: to that marker if the
dependency is the runtime package, and else to neither. -/
theorem symbol?_marker (distinct : (manifest.dependencies.map (·.name)).Nodup)
    (among : dependency ∈ manifest.dependencies) {name : String} (marker : name ∈ markerNames)
    (module : ModulePath) (space : Namespace) {path : Path}
    (global : Target.ofPath path = ⟨true, [dependency.name, name]⟩) :
    ∃ symbol, (Compilation.ofUnits units manifest.externalCrates).symbol? module path space =
        some symbol ∧ ∀ other ∈ markerNames,
      (symbol.id = "::" ++ (runtimePackage ++ "::" ++ other) ↔
        dependency.package = runtimePackage ∧ name = other) := by
  refine ⟨_, ?_, fun other otherMarker => id_eq_marker_iff marker otherMarker⟩
  rw [Compilation.symbol?, Compilation.resolvePath?, global,
    resolve?_marker distinct among marker, Option.map_some]

/-- A crate has the markers exactly if its manifest depends on the runtime package, which is to say
if an entry names that package and no earlier entry has the same name. Then the global path to a
marker of a dependency leads to that marker if the dependency is the runtime package, and to neither
marker if it is not. -/
theorem markers_of_parse? {text : String} (read : parse? text = some manifest)
    (units : List SourceUnit) :
    let compilation := Compilation.ofUnits units manifest.externalCrates
    ((Markers.of? compilation).isSome = true ↔ manifest.dependsOn runtimePackage = true) ∧
      (∃ document, Toml.parse? text = some document ∧
        (manifest.dependsOn runtimePackage = true ↔
          ∃ entry, Counts document entry ∧ writtenPackage entry = runtimePackage) ∧
        ∀ dependency, dependency ∈ manifest.dependencies ↔
          ∃ entry, Counts document entry ∧ dependencyOf entry.1 entry.2 = dependency) ∧
      ∀ markers, Markers.of? compilation = some markers →
        ∀ dependency ∈ manifest.dependencies, ∀ module space path,
          (Target.ofPath path = ⟨true, [dependency.name, optInName]⟩ →
            ∃ symbol, compilation.symbol? module path space = some symbol ∧
              (symbol.id = markers.optIn ↔ dependency.package = runtimePackage) ∧
              symbol.id ≠ markers.exclusion) ∧
          (Target.ofPath path = ⟨true, [dependency.name, exclusionName]⟩ →
            ∃ symbol, compilation.symbol? module path space = some symbol ∧
              (symbol.id = markers.exclusion ↔ dependency.package = runtimePackage) ∧
              symbol.id ≠ markers.optIn) := by
  rcases Option.map_eq_some_iff.mp read with ⟨document, parsed, rfl⟩
  have distinct : ((ofDocument document).dependencies.map (·.name)).Nodup := by
    rw [ofDocument_eq]
    exact nodup_firstOfEachName _
  have optIn : optInName ∈ markerNames := by decide
  have exclusion : exclusionName ∈ markerNames := by decide
  have apart : optInName ≠ exclusionName := by decide
  refine ⟨?_, ⟨document, parsed, dependsOn_runtimePackage_iff, fun _ => mem_dependencies_iff⟩, ?_⟩
  · rw [Markers.of?, externalSymbol?_marker distinct optIn,
      externalSymbol?_marker distinct exclusion]
    cases (ofDocument document).dependsOn runtimePackage <;> decide
  · intro markers found dependency among module space path
    rw [Markers.of?_eq found]
    constructor
    · intro global
      rcases symbol?_marker distinct among optIn module space global with ⟨symbol, leads, isMarker⟩
      refine ⟨symbol, leads, ?_, fun other => ?_⟩
      · simpa only [and_true] using isMarker _ optIn
      · exact apart ((isMarker _ exclusion).mp other).2
    · intro global
      rcases symbol?_marker distinct among exclusion module space global with
        ⟨symbol, leads, isMarker⟩
      refine ⟨symbol, leads, ?_, fun other => ?_⟩
      · simpa only [and_true] using isMarker _ exclusion
      · exact apart ((isMarker _ optIn).mp other).2.symm

/-- The runtime package has the name of a crate of the language, and another package has its own
name, which a target gives to the runtime package too late. -/
theorem markers_of_parse?_renamed :
    let text := "[dependencies]\nauto-ser = \"1\"\nautoser.package = \"serde\"\n" ++
      "[dependencies.std]\npackage = \"autoser\"\n[target.unix.dependencies]\nautoser = \"1\"\n"
    let manifest : Manifest :=
      ⟨[⟨"auto_ser", "auto_ser"⟩, ⟨"autoser", "serde"⟩, ⟨"std", "autoser"⟩]⟩
    let compilation := Compilation.ofUnits [] manifest.externalCrates
    let optInOf (name : String) : Path := .mk true [.plain ⟨false, name⟩, .plain ⟨false, optInName⟩]
    let markers : Markers := ⟨"::autoser::auto_serialize", "::autoser::non_serialized"⟩
    parse? text = some manifest ∧ Markers.of? compilation = some markers ∧
      (∃ symbol, compilation.symbol? ["a"] (optInOf "std") .macro_ = some symbol ∧
        symbol.id = markers.optIn) ∧
      ∃ symbol, compilation.symbol? ["a"] (optInOf "autoser") .macro_ = some symbol ∧
        symbol.id ≠ markers.optIn ∧ symbol.id ≠ markers.exclusion := by
  intro text manifest compilation optInOf markers
  have read : parse? text = some manifest := by decide +kernel
  rcases markers_of_parse? read [] with ⟨live, -, leads⟩
  have available : Markers.of? compilation = some markers := by
    rcases Option.isSome_iff_exists.mp (live.mpr (by decide)) with ⟨found, foundIs⟩
    rw [foundIs, Markers.of?_eq foundIs]
    decide
  have globalPath (name : String) :
      Target.ofPath (optInOf name) = ⟨true, [name, optInName]⟩ := rfl
  refine ⟨read, available, ?_, ?_⟩
  · rcases (leads markers available ⟨"std", "autoser"⟩ (by decide) ["a"] .macro_ _).1
      (globalPath "std") with ⟨symbol, found, isOptIn, -⟩
    exact ⟨symbol, found, isOptIn.mpr rfl⟩
  · rcases (leads markers available ⟨"autoser", "serde"⟩ (by decide) ["a"] .macro_ _).1
      (globalPath "autoser") with ⟨symbol, found, isOptIn, other⟩
    exact ⟨symbol, found, fun same => absurd (isOptIn.mp same) (by decide), other⟩

end Wireform.Package.Manifest
