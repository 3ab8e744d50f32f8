import Wireform.Proofs.Package.GeneratedFiles

/-! # Fragment names

The file of a fragment shows which struct it is for, but not whether the struct's name is written
raw. Files of fragments are known by the end of their names, which the index does not share. -/

namespace Wireform.Syntax.Name

open Wireform.Text

/-- Whether a text spells a name, raw or not. -/
def isSpelling (text : String) : Bool := (ofSpelling? text).isSome

/-- The same text, but for a raw mark in front of one of the two. -/
def SpelledAlike (first second : String) : Prop :=
  first = second ∨ first = "r#" ++ second ∨ second = "r#" ++ first

theorem exists_of_isSpelling {text : String} (spells : isSpelling text = true) :
    ∃ name : Name, isIdentifierText name.text.toList = true ∧ name.spelling = text := by
  rw [isSpelling, Option.isSome_iff_exists] at spells
  rcases spells with ⟨name, found⟩
  refine ⟨name, ?_⟩
  rw [ofSpelling?] at found
  split at found
  · rename_i rest letters
    split at found
    · rename_i fits
      cases found
      rw [String.toList_ofList]
      refine ⟨(Bool.and_eq_true_iff.mp fits).1, String.toList_inj.mp ?_⟩
      have behind : (String.ofList rest).toList = rest := String.toList_ofList
      rw [letters, spelling, if_pos rfl, String.toList_append, behind]
      rfl
    · cases found
  · split at found
    · rename_i identifier
      cases found
      exact ⟨identifier, rfl⟩
    · cases found

theorem ne_marked {text : String} (identifier : isIdentifierText text.toList = true)
    (other : String) : text ≠ "r#" ++ other := by
  intro marked
  have noMark : '#' ∉ text.toList := notMem_of_isIdentifierText identifier (by decide)
  rw [marked, String.toList_append] at noMark
  exact noMark (List.mem_append_left _ (by decide))

/-- Names have one text exactly if they are written alike. -/
theorem text_eq_iff {first second : Name} (inFirst : isIdentifierText first.text.toList = true)
    (inSecond : isIdentifierText second.text.toList = true) :
    first.text = second.text ↔ SpelledAlike first.spelling second.spelling := by
  rcases first with ⟨raw, text⟩
  rcases second with ⟨otherRaw, otherText⟩
  have unmarked (other : String) : text ≠ "r#" ++ other := ne_marked inFirst other
  have otherUnmarked (other : String) : otherText ≠ "r#" ++ other := ne_marked inSecond other
  have marked (other : String) : "r#" ++ other ≠ otherText := (otherUnmarked other).symm
  cases raw with
  | false => cases otherRaw <;> simp [SpelledAlike, spelling, unmarked, otherUnmarked, eq_comm]
  | true => cases otherRaw <;> simp [SpelledAlike, spelling, unmarked, otherUnmarked, marked]

theorem notMem_spelling {name : Name} (identifier : isIdentifierText name.text.toList = true) :
    '.' ∉ name.spelling.toList := by
  have inText : '.' ∉ name.text.toList := notMem_of_isIdentifierText identifier (by decide)
  cases raw : name.raw with
  | false =>
    rw [spelling, raw, if_neg Bool.false_ne_true]
    exact inText
  | true =>
    rw [spelling, if_pos raw, String.toList_append, List.mem_append]
    exact not_or.mpr ⟨by decide, inText⟩

end Wireform.Syntax.Name

namespace Wireform.Package

open Generation Names Syntax Text

/-- The struct and the modules around it have names that a source text can spell. -/
structure IsSpelled (blueprint : Blueprint) : Prop where
  modules : ∀ module ∈ blueprint.modules, Name.isSpelling module = true
  name : isIdentifierText blueprint.name.text.toList = true

section FileNames
variable {blueprint other : Blueprint}

theorem IsSpelled.notMem (spelled : IsSpelled blueprint) :
    ∀ piece ∈ blueprint.modules ++ [blueprint.name.text], '.' ∉ piece.toList := by
  rw [List.forall_mem_append, List.forall_mem_singleton]
  constructor
  · intro module among
    rcases Name.exists_of_isSpelling (spelled.modules module among) with ⟨name, identifier, same⟩
    rw [← same]
    exact Name.notMem_spelling identifier
  · exact notMem_of_isIdentifierText spelled.name (by decide)

/-- No name holds a dot, so the dots in a file name show where each of its parts ends. -/
theorem fileName_eq_iff (spelled : IsSpelled blueprint) (otherSpelled : IsSpelled other) :
    blueprint.fileName = other.fileName ↔
      blueprint.modules = other.modules ∧ blueprint.name.text = other.name.text := by
  constructor
  · intro same
    have letters := congrArg String.toList same
    rw [Blueprint.fileName, Blueprint.fileName, String.toList_append, String.toList_append]
      at letters
    have joined := String.toList_inj.mp (List.append_cancel_right letters)
    have dot : ".".toList = '.' :: [] := rfl
    have parts := eq_of_joined_eq dot (by simp) (by simp) spelled.notMem otherSpelled.notMem joined
    rcases List.append_inj' parts rfl with ⟨modules, name⟩
    exact ⟨modules, List.singleton_inj.mp name⟩
  · intro same
    rw [Blueprint.fileName, Blueprint.fileName, same.1, same.2]

end FileNames

/-- Fragments share a file name exactly if their structs are in one module and have names that are
written alike. All of these file names are those of fragments, and the index's is none. -/
theorem fileNames_identify :
    (∀ blueprint other : Blueprint, IsSpelled blueprint → IsSpelled other →
      (blueprint.fileName = other.fileName ↔
        blueprint.modules = other.modules ∧
          Name.SpelledAlike blueprint.name.spelling other.name.spelling)) ∧
      (∀ blueprint : Blueprint, isFragmentName blueprint.fileName = true) ∧
      ∀ names, isFragmentName (indexFor names).fileName = false ∧
        ∀ blueprint : Blueprint, (indexFor names).fileName ≠ blueprint.fileName := by
  have isFragment (blueprint : Blueprint) : isFragmentName blueprint.fileName = true :=
    isFragmentName_append _
  refine ⟨?_, isFragment, ?_⟩
  · intro blueprint other spelled otherSpelled
    rw [fileName_eq_iff spelled otherSpelled, Name.text_eq_iff spelled.name otherSpelled.name]
  · intro names
    have isIndex : (indexFor names).fileName = indexFileName := rfl
    rw [isIndex]
    refine ⟨indexFileName_facts.2, ?_⟩
    intro blueprint same
    have recognized := isFragment blueprint
    rw [← same, indexFileName_facts.2] at recognized
    cases recognized

/-- A struct with a raw name, one with the same name that is not raw, and one in a module of that
name. -/
theorem fileNames_identify_raw :
    let raw : Blueprint := ⟨["x"], ⟨true, "type"⟩, ⟨[], false⟩, ⟨[], false⟩, [], false⟩
    let plain : Blueprint := ⟨["x"], .plain "type", ⟨[], false⟩, ⟨[], false⟩, [], false⟩
    let nested : Blueprint :=
      ⟨["x", "type"], .plain "type", ⟨[], false⟩, ⟨[], false⟩, [], false⟩
    raw.fileName = plain.fileName ∧ raw.fileName ≠ nested.fileName ∧
      isFragmentName raw.fileName = true ∧
      isFragmentName (indexFor [raw.fileName]).fileName = false := by
  intro raw plain nested
  have rawSpelled : IsSpelled raw := ⟨by decide, by decide⟩
  have plainSpelled : IsSpelled plain := ⟨by decide, by decide⟩
  have nestedSpelled : IsSpelled nested := ⟨by decide, by decide⟩
  rcases fileNames_identify with ⟨identify, isFragment, isIndex⟩
  refine ⟨?_, ?_, isFragment raw, (isIndex [raw.fileName]).1⟩
  · exact (identify raw plain rawSpelled plainSpelled).mpr ⟨rfl, .inr (.inl rfl)⟩
  · intro same
    have parts := (identify raw nested rawSpelled nestedSpelled).mp same
    exact absurd parts.1 (by decide)

end Wireform.Package
