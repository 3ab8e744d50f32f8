import Wireform.Proofs.Generation.FileNames
import Wireform.Proofs.Generation.Inclusion
import Wireform.Proofs.Package.Synchronization

/-! # Generated files

The files of a pass on a disk. Each has a plain name and only the index has that of the index; a
struct that is generated has a file of its own unless another one has the same path. What the index
includes is what is in the directory. -/

namespace Wireform.Package

open Files Generation Names Syntax Text

/-! ## Names of generated files -/

theorem isFragmentName_append (front : String) : isFragmentName (front ++ fragmentSuffix) = true := by
  rw [isFragmentName, String.toList_append, List.isSuffixOf_iff_suffix]
  exact List.suffix_append _ _

theorem isFragmentName_of_isFragmentFile {name : String} (isFile : IsFragmentFile name) :
    isFragmentName name = true := by
  obtain ⟨path, -, -, rfl⟩ := isFile
  exact isFragmentName_append _

theorem isPlainName_of_isFragmentFile {name : String} (isFile : IsFragmentFile name) :
    isPlainName name = true := by
  rw [isPlainName_iff]
  refine ⟨namesEntry_of_isFragmentName (isFragmentName_of_isFragmentFile isFile), ?_⟩
  obtain ⟨path, -, identifiers, rfl⟩ := isFile
  have noSlash : '/' ∉ fragmentSuffix.toList ∧ '/' ∉ ".".toList := by decide
  have inPath : '/' ∉ (".".intercalate path).toList := by
    rw [String.toList_intercalate]
    apply notMem_intercalate noSlash.2
    intro piece among
    obtain ⟨segment, segmentAmong, rfl⟩ := List.mem_map.mp among
    exact notMem_of_isIdentifierText (isIdentifierPath_iff.mp identifiers segment segmentAmong)
      (by decide)
  rw [String.toList_append, List.mem_append]
  exact not_or.mpr ⟨inPath, noSlash.1⟩

theorem indexFileName_facts :
    isPlainName indexFileName = true ∧ isFragmentName indexFileName = false := by
  decide

section Generated
variable {units : List SourceUnit} {externalCrates : List ExternalCrate}
  {output : Generation.Output}

theorem fileNames_of_generate [Digest]
    (generated : generate (.ofUnits units externalCrates) = .ok output) :
    (∀ fragment ∈ output.fragments, IsFragmentFile fragment.fileName) ∧
      output.index.fileName = indexFileName ∧
      ∃ names, includedFiles? output.index.code = some names ∧ names.Pairwise (· < ·) ∧
        ∀ name, name ∈ names ↔ name ∈ output.fragments.map Fragment.fileName := by
  obtain ⟨isFile, -, names, isIndex, same⟩ := fragments_of_generate generated
  rw [isIndex]
  refine ⟨isFile, rfl, sortedOnce names, includedFiles?_indexFor names,
    pairwise_sortedOnce names, ?_⟩
  intro name
  rw [mem_sortedOnce, same.mem_iff]

theorem mem_fileNames {name : String} (isIndex : output.index.fileName = indexFileName) :
    name ∈ output.files.map Fragment.fileName ↔
      name ∈ output.fragments.map Fragment.fileName ∨ name = indexFileName := by
  rw [Generation.Output.files, List.map_append, List.mem_append, List.map_singleton,
    List.mem_singleton, isIndex]

theorem isPlainName_of_generate [Digest]
    (generated : generate (.ofUnits units externalCrates) = .ok output) :
    ∀ fragment ∈ output.files, isPlainName fragment.fileName = true := by
  obtain ⟨isFile, isIndex, -⟩ := fileNames_of_generate generated
  rw [Generation.Output.files, List.forall_mem_append, List.forall_mem_singleton, isIndex]
  exact ⟨fun fragment among => isPlainName_of_isFragmentFile (isFile fragment among),
    indexFileName_facts.1⟩

theorem indexFileName_notMem [Digest]
    (generated : generate (.ofUnits units externalCrates) = .ok output) :
    indexFileName ∉ output.fragments.map Fragment.fileName := by
  intro among
  obtain ⟨fragment, fragmentAmong, same⟩ := List.mem_map.mp among
  have isFile := (fileNames_of_generate generated).1 fragment fragmentAmong
  have isFragment := isFragmentName_of_isFragmentFile isFile
  rw [same, indexFileName_facts.2] at isFragment
  cases isFragment

/-! ## One file for each struct -/

/-- Files are told apart as long as the paths of the generated structs are. -/
theorem nodup_fileNames_iff [Digest] (frameable : Frameable (.ofUnits units externalCrates))
    (generated : generate (.ofUnits units externalCrates) = .ok output) :
    (output.files.map Fragment.fileName).Nodup ↔ output.generatedPaths.Nodup := by
  obtain ⟨paths, identifiers, files, typePaths⟩ := paths_of_generate frameable generated
  have withIndex : (output.files.map Fragment.fileName).Nodup ↔
      (output.fragments.map Fragment.fileName).Nodup := by
    rw [Generation.Output.files, List.map_append, List.map_singleton,
      (fileNames_of_generate generated).2.1, ← List.concat_eq_append, List.nodup_concat]
    exact and_iff_right (indexFileName_notMem generated)
  have byPath (name : List String → String) (tellsApart : ∀ first ∈ paths, ∀ second ∈ paths,
      name first = name second → first = second) : (paths.map name).Nodup ↔ paths.Nodup :=
    ⟨.of_map name, fun distinct => (List.nodup_map_iff_inj_on distinct).mpr tellsApart⟩
  rw [withIndex, files.nodup_iff, typePaths, byPath, byPath]
  · intro first firstAmong second secondAmong same
    obtain ⟨notEmpty, inFirst⟩ := identifiers first firstAmong
    obtain ⟨notEmpty', inSecond⟩ := identifiers second secondAmong
    have colons : "::".toList = ':' :: [':'] := rfl
    exact intercalate_injective colons (by decide) notEmpty notEmpty' inFirst inSecond same
  · intro first firstAmong second secondAmong same
    obtain ⟨notEmpty, inFirst⟩ := identifiers first firstAmong
    obtain ⟨notEmpty', inSecond⟩ := identifiers second secondAmong
    exact fragmentFile_injective notEmpty notEmpty' inFirst inSecond same

/-- Of the files with one name the last one is stored. -/
theorem Output.Synced.stored_iff {tree after : FileTree} {directory : FilePath} {place : Place}
    {fragments : List Fragment} (synced : Output.Synced tree after directory place fragments) :
    (∀ fragment ∈ fragments,
        after.entry? (place ++ [fragment.fileName]) = some (.file (.text fragment.code))) ↔
      ∀ first ∈ fragments, ∀ second ∈ fragments,
        first.fileName = second.fileName → first.code = second.code := by
  constructor
  · intro stored first firstAmong second secondAmong same
    have ofFirst := stored first firstAmong
    rw [same, stored second secondAmong] at ofFirst
    simpa using ofFirst.symm
  · intro agree fragment among
    obtain ⟨-, last, lastAmong, same, stored⟩ := synced.stored fragment among
    rw [stored, agree last lastAmong fragment among same]

/-- Every fragment has a file of its own exactly if no two structs that are generated have the same
path. If two have the same path, synchronizing stores both only if their fragments are the same. -/
theorem fragments_stored_iff [Digest] (frameable : Frameable (.ofUnits units externalCrates))
    (generated : generate (.ofUnits units externalCrates) = .ok output) :
    indexFileName ∉ output.fragments.map Fragment.fileName ∧
      List.Perm output.fragments output.reportedFragments ∧
      ((output.files.map Fragment.fileName).Nodup ↔ output.generatedPaths.Nodup) ∧
      ∀ tree directory changes after, tree.Rooted →
        Output.sync tree directory output.files = (.ok changes, after) →
        ∃ place, after.Opens directory place ∧
          ((∀ fragment ∈ output.files,
              after.entry? (place ++ [fragment.fileName]) = some (.file (.text fragment.code))) ↔
            ∀ first ∈ output.fragments, ∀ second ∈ output.fragments,
              first.fileName = second.fileName → first.code = second.code) := by
  have notIndex := indexFileName_notMem generated
  have isIndex := (fileNames_of_generate generated).2.1
  refine ⟨notIndex, (fragments_of_generate generated).2.1,
    nodup_fileNames_iff frameable generated, ?_⟩
  intro tree directory changes after rooted done
  obtain ⟨place, synced⟩ :=
    Output.synced_of_sync rooted (isPlainName_of_generate generated) done
  refine ⟨place, synced.opens, synced.stored_iff.trans ⟨?_, ?_⟩⟩
  · intro agree first firstAmong second secondAmong
    exact agree first (List.mem_append_left _ firstAmong) second
      (List.mem_append_left _ secondAmong)
  · intro agree first firstAmong second secondAmong same
    rcases List.mem_append.mp firstAmong with firstAmong | firstAmong <;>
      rcases List.mem_append.mp secondAmong with secondAmong | secondAmong
    · exact agree first firstAmong second secondAmong same
    · rw [List.mem_singleton.mp secondAmong, isIndex] at same
      exact absurd (List.mem_map.mpr ⟨first, firstAmong, same⟩) notIndex
    · rw [List.mem_singleton.mp firstAmong, isIndex] at same
      exact absurd (List.mem_map.mpr ⟨second, secondAmong, same.symm⟩) notIndex
    · rw [List.mem_singleton.mp firstAmong, List.mem_singleton.mp secondAmong]

/-- A library with two alternatives of one struct: both have one file, and only one of the two
fragments is stored. -/
theorem fragments_stored_iff_alternatives :
    let units := (SourceUnit.parse? "src/lib.rs" ""
      ("#[cfg(a)] #[autoser::auto_serialize(false)] struct P { x: u8 } " ++
        "#[cfg(b)] #[autoser::auto_serialize(false)] struct P { y: u8 }")).toList
    let compilation := Compilation.ofUnits units [.runtime "autoser"]
    ∃ output, generate compilation = .ok output ∧ output.generatedPaths = ["P", "P"] ∧
      ¬(output.files.map Fragment.fileName).Nodup ∧
      ∀ tree directory changes after, tree.Rooted →
        Output.sync tree directory output.files = (.ok changes, after) →
        ∃ place, after.Opens directory place ∧ ¬∀ fragment ∈ output.files,
          after.entry? (place ++ [fragment.fileName]) = some (.file (.text fragment.code)) := by
  intro units compilation
  have facts : (generate compilation).toOption.any (fun output =>
      decide (output.generatedPaths = ["P", "P"]) &&
        output.reportedFragments.head?.any fun first =>
          output.reportedFragments.getLast?.any fun second =>
            decide (first.fileName = second.fileName ∧ first.code ≠ second.code)) = true ∧
      (∀ external ∈ compilation.crates, Fingerprint.CrateFits external) ∧
      ∀ blueprint ∈ blueprints compilation, Fingerprint.BlueprintFits blueprint := by
    have read : _ = units := congrArg Option.toList
      (SourceUnit.parse?_ofList.symm.trans (congrArg _ String.ofList_append))
    clear_value units
    subst read
    decide +kernel
  obtain ⟨succeeds, crates, fitting⟩ := facts
  obtain ⟨output, generated, known⟩ := exists_of_toOption succeeds
  obtain ⟨paths, differ⟩ := Bool.and_eq_true_iff.mp known
  obtain ⟨-, reported, distinct, stores⟩ := fragments_stored_iff ⟨crates, fitting⟩ generated
  refine ⟨output, generated, of_decide_eq_true paths, ?_, ?_⟩
  · rw [distinct, of_decide_eq_true paths]
    decide
  · intro tree directory changes after rooted done
    obtain ⟨place, opens, stored⟩ := stores tree directory changes after rooted done
    refine ⟨place, opens, ?_⟩
    rw [stored]
    intro agree
    obtain ⟨first, isFirst, differ⟩ := (Option.any_eq_true _ _).mp differ
    obtain ⟨second, isLast, differ⟩ := (Option.any_eq_true _ _).mp differ
    obtain ⟨same, differs⟩ := of_decide_eq_true differ
    exact differs (agree first (reported.mem_iff.mpr (List.mem_of_head? isFirst)) second
      (reported.mem_iff.mpr (List.mem_of_getLast? isLast)) same)

/-! ## The index and the directory -/

/-- After synchronizing, the index includes the fragments that are in the directory, in order and
each of them once. Only in the directory of the empty path there can be more: the fragments that
were there before stay. -/
theorem index_closed [Digest] (tree after : FileTree) (directory : FilePath) (changes : OutputChanges)
    (generated : generate (.ofUnits units externalCrates) = .ok output) (rooted : tree.Rooted)
    (done : Output.sync tree directory output.files = (.ok changes, after)) :
    ∃ place names, after.Opens directory place ∧
      after.entry? (place ++ [indexFileName]) = some (.file (.text output.index.code)) ∧
      includedFiles? output.index.code = some names ∧ names.Pairwise (· < ·) ∧
      (∀ name ∈ names, isFragmentName name = true) ∧
      ∀ name, isFragmentName name = true → (name ∈ after.names place ↔
        name ∈ names ∨ directory = .empty ∧ name ∈ tree.names place) := by
  obtain ⟨isFile, isIndex, names, included, rising, members⟩ :=
    fileNames_of_generate generated
  obtain ⟨place, synced⟩ :=
    Output.synced_of_sync rooted (isPlainName_of_generate generated) done
  have isFragment : ∀ name ∈ names, isFragmentName name = true := by
    intro name among
    obtain ⟨fragment, fragmentAmong, rfl⟩ := List.mem_map.mp ((members name).mp among)
    exact isFragmentName_of_isFragmentFile (isFile fragment fragmentAmong)
  refine ⟨place, names, synced.opens, ?_, included, rising, isFragment, ?_⟩
  · obtain ⟨-, last, lastAmong, same, stored⟩ := synced.stored output.index
      (List.mem_append_right _ (List.mem_singleton_self _))
    rw [isIndex] at same stored
    rcases List.mem_append.mp lastAmong with lastAmong | lastAmong
    · exact absurd (List.mem_map.mpr ⟨last, lastAmong, same⟩)
        (indexFileName_notMem generated)
    · rw [stored, List.mem_singleton.mp lastAmong]
  · intro name fragmentName
    have notIndex : name ≠ indexFileName := by
      rintro rfl
      rw [indexFileName_facts.2] at fragmentName
      cases fragmentName
    have listed : name ∈ names ↔ name ∈ output.files.map Fragment.fileName := by
      rw [members, mem_fileNames isIndex]
      exact ⟨.inl, fun either => either.resolve_right notIndex⟩
    rw [listed, FileTree.mem_names]
    by_cases among : name ∈ output.files.map Fragment.fileName
    · obtain ⟨fragment, fragmentAmong, rfl⟩ := List.mem_map.mp among
      obtain ⟨-, last, -, -, stored⟩ := synced.stored fragment fragmentAmong
      rw [stored]
      exact ⟨fun _ => .inl among, fun _ => rfl⟩
    · by_cases atEmpty : directory = .empty
      · have untouched := synced.other (place ++ [name]) (by
          intro other same
          obtain rfl : name = other := by simpa using same
          exact ⟨among, fun _ => atEmpty⟩)
        obtain rfl := atEmpty
        have nothingMade : tree.makeDirectory .empty = (true, tree) := rfl
        rw [untouched, nothingMade, FileTree.mem_names]
        simp [among]
      · simp only [among, atEmpty, false_and, or_self, iff_false]
        intro there
        have swept := synced.swept atEmpty name (FileTree.mem_names.mpr there)
        rw [Output.isStale_iff.mpr ⟨fragmentName, among⟩] at swept
        cases swept

end Generated

/-- A library with one struct, and a directory with a fragment that is left over. -/
theorem index_closed_leftover :
    let units := (SourceUnit.parse? "src/lib.rs" ""
      "#[autoser::auto_serialize] pub struct Point { pub x: u32 }").toList
    let compilation := Compilation.ofUnits units [.runtime "autoser"]
    let tree : FileTree :=
      { entries := [(["gen"], .directory), (["gen", "Old.autoser.rs"], .file (.text ""))] }
    ∃ output changes after place names, generate compilation = .ok output ∧
      output.fragments.map Fragment.fileName = ["Point.autoser.rs"] ∧ tree.Rooted ∧
      Output.sync tree (.ofText "gen") output.files = (.ok changes, after) ∧
      includedFiles? output.index.code = some names ∧
      ∀ name, isFragmentName name = true → (name ∈ after.names place ↔ name ∈ names) := by
  intro units compilation tree
  have facts : (generate compilation).toOption.any (fun output =>
      decide (output.fragments.map Fragment.fileName = ["Point.autoser.rs"]) &&
        (Output.sync tree (.ofText "gen") output.files).1.toOption.isSome) = true ∧
      tree.Rooted ∧ FilePath.ofText "gen" ≠ .empty := by
    have read : _ = units := congrArg Option.toList SourceUnit.parse?_ofList.symm
    clear_value units
    subst read
    decide +kernel
  obtain ⟨succeeds, rooted, named⟩ := facts
  obtain ⟨output, generated, known⟩ := exists_of_toOption succeeds
  obtain ⟨files, syncs⟩ := Bool.and_eq_true_iff.mp known
  cases done : Output.sync tree (.ofText "gen") output.files with
  | mk result after =>
    rw [done] at syncs
    cases result with
    | error error => cases syncs
    | ok changes =>
      obtain ⟨place, names, -, -, included, -, -, closed⟩ :=
        index_closed tree after (.ofText "gen") changes generated rooted done
      refine ⟨output, changes, after, place, names, generated, of_decide_eq_true files, rooted,
        done, included, ?_⟩
      intro name fragmentName
      rw [closed name fragmentName]
      simp [named]

end Wireform.Package
