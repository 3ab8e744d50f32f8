import Mathlib.Data.List.Forall2
import Wireform.Generation.Fingerprint
import Wireform.Proofs.Wire.Frames

/-! # Framing

A fingerprint tells its inputs apart. Each part is framed: where it ends follows from its own
bytes, so that what stands behind it begins at the same place in every fingerprint that begins
alike. -/

namespace Wireform.Generation

open Wireform.Names Wireform.Syntax Wireform.Wire

namespace Fingerprint

open ByteStream

/-! ## What can be framed -/

/-- Lengths and counts are below this number, as they are written in eight bytes. No machine holds
a text or a list that is longer. -/
def lengthLimit : Nat := Nat.pow 256 8

def TextFits (text : String) : Prop := text.utf8ByteSize < lengthLimit
deriving Decidable

def TextsFit (texts : List String) : Prop :=
  texts.length < lengthLimit ∧ ∀ text ∈ texts, TextFits text
deriving Decidable

structure ImprintFits (imprint : Imprint) : Prop where
  modules : TextsFit imprint.modules
  name : TextFits imprint.name
  parameters : TextFits imprint.parameters
  predicates : TextFits imprint.predicates
  members : TextsFit imprint.members

/-- A blueprint can be framed as it is printed. -/
abbrev BlueprintFits (blueprint : Blueprint) : Prop := ImprintFits blueprint.imprint

structure CrateFits (external : ExternalCrate) : Prop where
  localName : TextFits external.localName
  crateName : TextFits external.crateName
  exports : ∀ names ∈ external.exports, TextsFit names

instance (imprint : Imprint) : Decidable (ImprintFits imprint) :=
  decidable_of_iff
    (TextsFit imprint.modules ∧ TextFits imprint.name ∧ TextFits imprint.parameters ∧
      TextFits imprint.predicates ∧ TextsFit imprint.members)
    ⟨fun ⟨modules, name, parameters, predicates, members⟩ =>
        ⟨modules, name, parameters, predicates, members⟩,
      fun ⟨modules, name, parameters, predicates, members⟩ =>
        ⟨modules, name, parameters, predicates, members⟩⟩

instance (external : ExternalCrate) : Decidable (CrateFits external) :=
  decidable_of_iff
    (TextFits external.localName ∧ TextFits external.crateName ∧
      ∀ names ∈ external.exports, TextsFit names)
    ⟨fun ⟨localName, crateName, exports⟩ => ⟨localName, crateName, exports⟩,
      fun ⟨localName, crateName, exports⟩ => ⟨localName, crateName, exports⟩⟩

/-! ## Frames -/

/-- Whatever follows, bytes that begin alike begin with the same value. -/
def Framed {α : Type} (encode : α → List UInt8) (fit : α → Prop) : Prop :=
  ∀ ⦃value other rest otherRest⦄, fit value → fit other →
    encode value ++ rest = encode other ++ otherRest → value = other ∧ rest = otherRest

namespace Framed

variable {α : Type} {encode : α → List UInt8} {fit : α → Prop}

theorem injective (framed : Framed encode fit) {value other : α} (fits : fit value)
    (otherFits : fit other) (alike : encode value = encode other) : value = other := by
  have joined : encode value ++ [] = encode other ++ [] := by rw [alike]
  exact (framed fits otherFits joined).1

theorem of_length {count : Nat} (length : ∀ value, (encode value).length = count)
    (differ : ∀ value other, fit value → fit other → encode value = encode other → value = other) :
    Framed encode fit :=
  FramedUpTo.of_length length differ

/-- Frames behind each other, where their number is known. -/
theorem flatMap (framed : Framed encode fit) {values others : List α}
    {rest otherRest : List UInt8} (lengths : values.length = others.length)
    (fits : ∀ value ∈ values, fit value) (otherFits : ∀ other ∈ others, fit other)
    (alike : values.flatMap encode ++ rest = others.flatMap encode ++ otherRest) :
    values = others ∧ rest = otherRest := by
  have upTo : FramedUpTo id encode fit := framed
  have both := upTo.flatMap lengths fits otherFits alike
  rwa [List.map_id, List.map_id] at both

/-- Frames to the end, none of which is empty: their number follows as well. -/
theorem flatMap_injective (framed : Framed encode fit) (inhabited : ∀ value, encode value ≠ []) :
    ∀ {values others : List α}, (∀ value ∈ values, fit value) → (∀ other ∈ others, fit other) →
      values.flatMap encode = others.flatMap encode → values = others := by
  intro values
  induction values with
  | nil =>
    intro others _ _ alike
    cases others with
    | nil => rfl
    | cons other others =>
      exact absurd (List.append_eq_nil_iff.mp alike.symm).1 (inhabited other)
  | cons value values induction =>
    intro others fits otherFits alike
    cases others with
    | nil => exact absurd (List.append_eq_nil_iff.mp alike).1 (inhabited value)
    | cons other others =>
      simp only [List.flatMap_cons] at alike
      rcases framed (fits value List.mem_cons_self) (otherFits other List.mem_cons_self) alike with
        ⟨rfl, alikeBehind⟩
      rw [induction (fun each among => fits each (.tail _ among))
        (fun each among => otherFits each (.tail _ among)) alikeBehind]

end Framed

/-! ## Texts -/

theorem ofLength_framed : Framed ofLength (· < lengthLimit) := littleEndian_framed 8

theorem ofFlag_framed : Framed ofFlag (fun _ => True) := by
  have length (flag : Bool) : (ofFlag flag).length = 1 := rfl
  refine Framed.of_length length ?_
  intro flag other _ _ alike
  cases flag <;> cases other <;> first | rfl | cases alike

theorem ofText_framed : Framed ofText TextFits := by
  intro text other rest otherRest fits otherFits alike
  simp only [ofText, List.append_assoc] at alike
  rcases ofLength_framed fits otherFits alike with ⟨sizes, alikeBehind⟩
  have lengths : text.toUTF8.data.toList.length = other.toUTF8.data.toList.length := sizes
  rcases List.append_inj alikeBehind lengths with ⟨bytes, sameRest⟩
  refine ⟨String.toByteArray_inj.mp ?_, sameRest⟩
  exact ByteArray.ext (Array.ext' bytes)

theorem ofTexts_framed : Framed ofTexts TextsFit := by
  intro texts others rest otherRest fits otherFits alike
  simp only [ofTexts, List.append_assoc] at alike
  rcases ofLength_framed fits.1 otherFits.1 alike with ⟨lengths, alikeBehind⟩
  exact ofText_framed.flatMap lengths fits.2 otherFits.2 alikeBehind

/-! ## Inputs of results -/

theorem ofImprint_framed : Framed ByteStream.ofImprint ImprintFits := by
  intro imprint other rest otherRest fits otherFits alike
  simp only [ByteStream.ofImprint, List.append_assoc] at alike
  rcases ofTexts_framed fits.modules otherFits.modules alike with ⟨modules, fromName⟩
  rcases ofText_framed fits.name otherFits.name fromName with ⟨name, fromParameters⟩
  rcases ofText_framed fits.parameters otherFits.parameters fromParameters with
    ⟨parameters, fromPredicates⟩
  rcases ofText_framed fits.predicates otherFits.predicates fromPredicates with
    ⟨predicates, fromMembers⟩
  rcases ofTexts_framed fits.members otherFits.members fromMembers with ⟨members, fromEquality⟩
  rcases ofFlag_framed trivial trivial fromEquality with ⟨equality, sameRest⟩
  refine ⟨?_, sameRest⟩
  cases imprint
  cases other
  rw [Imprint.mk.injEq]
  exact ⟨modules, name, parameters, predicates, members, equality⟩

theorem ofExports_framed :
    Framed (fun exports : Option (List String) =>
        match exports with
        | some names => ofFlag true ++ ofTexts names
        | none => ofFlag false)
      (fun exports => ∀ names ∈ exports, TextsFit names) := by
  intro exports others rest otherRest fits otherFits alike
  cases exports with
  | none =>
    cases others with
    | none => exact ⟨rfl, (ofFlag_framed trivial trivial alike).2⟩
    | some others =>
      dsimp only at alike
      rw [List.append_assoc] at alike
      cases (ofFlag_framed trivial trivial alike).1
  | some names =>
    cases others with
    | none =>
      dsimp only at alike
      rw [List.append_assoc] at alike
      cases (ofFlag_framed trivial trivial alike).1
    | some others =>
      simp only [List.append_assoc] at alike
      have behind := (ofFlag_framed trivial trivial alike).2
      rcases ofTexts_framed (fits names rfl) (otherFits others rfl) behind with ⟨rfl, sameRest⟩
      exact ⟨rfl, sameRest⟩

theorem ofCrate_framed : Framed ofCrate CrateFits := by
  intro external other rest otherRest fits otherFits alike
  simp only [ofCrate, List.append_assoc] at alike
  rcases ofText_framed fits.localName otherFits.localName alike with ⟨localName, fromCrateName⟩
  rcases ofText_framed fits.crateName otherFits.crateName fromCrateName with
    ⟨crateName, fromExports⟩
  rcases ofExports_framed fits.exports otherFits.exports fromExports with ⟨exports, sameRest⟩
  refine ⟨?_, sameRest⟩
  cases external
  cases other
  rw [ExternalCrate.mk.injEq]
  exact ⟨localName, crateName, exports⟩

theorem ofCrate_ne_nil (external : ExternalCrate) : ofCrate external ≠ [] := by
  simp [ofCrate, ofText, ofLength, littleEndian]

theorem imprint_eq_of_stream {blueprint other : Blueprint} (fits : BlueprintFits blueprint)
    (otherFits : BlueprintFits other)
    (alike : ByteStream.ofBlueprint blueprint = ByteStream.ofBlueprint other) :
    blueprint.imprint = other.imprint :=
  ofImprint_framed.injective fits otherFits alike

/-- Crates with one stream are equal, and in the same order. -/
theorem crates_eq_of_stream {crates others : List ExternalCrate}
    (fits : ∀ external ∈ crates, CrateFits external)
    (otherFits : ∀ external ∈ others, CrateFits external)
    (alike : ByteStream.ofCrates crates = ByteStream.ofCrates others) : crates = others :=
  ofCrate_framed.flatMap_injective ofCrate_ne_nil fits otherFits alike

section Digested

variable [Digest]

theorem imprint_eq_of_ofImprint {imprint other : Imprint} (fits : ImprintFits imprint)
    (otherFits : ImprintFits other) (alike : ofImprint imprint = ofImprint other) :
    imprint = other :=
  ofImprint_framed.injective fits otherFits (Digest.injective alike)

theorem imprint_eq_of_ofBlueprint {blueprint other : Blueprint} (fits : BlueprintFits blueprint)
    (otherFits : BlueprintFits other) (alike : ofBlueprint blueprint = ofBlueprint other) :
    blueprint.imprint = other.imprint :=
  imprint_eq_of_ofImprint fits otherFits alike

theorem crates_eq_of_ofCrates {crates others : List ExternalCrate}
    (fits : ∀ external ∈ crates, CrateFits external)
    (otherFits : ∀ external ∈ others, CrateFits external)
    (alike : ofCrates crates = ofCrates others) : crates = others :=
  crates_eq_of_stream fits otherFits (Digest.injective alike)

end Digested

/-- The inputs of two results have one stream exactly if they agree part by part, as they are
printed. The crates of a compilation end where the bytes do: their number stands nowhere. -/
theorem fingerprints_eq_iff :
    (∀ blueprint other : Blueprint, BlueprintFits blueprint → BlueprintFits other →
      (ByteStream.ofBlueprint blueprint = ByteStream.ofBlueprint other ↔
        blueprint.modules = other.modules ∧ blueprint.name.spelling = other.name.spelling ∧
          blueprint.parameters.text = other.parameters.text ∧
          blueprint.predicates.text = other.predicates.text ∧
          blueprint.members = other.members ∧ blueprint.equality = other.equality)) ∧
      ∀ compilation other : Compilation, (∀ external ∈ compilation.crates, CrateFits external) →
        (∀ external ∈ other.crates, CrateFits external) →
        (ByteStream.ofCrates compilation.crates = ByteStream.ofCrates other.crates ↔
          List.Forall₂ (fun left right => left.localName = right.localName ∧
            left.crateName = right.crateName ∧ left.exports = right.exports)
            compilation.crates other.crates) := by
  constructor
  · intro blueprint other fits otherFits
    have alike_iff : ByteStream.ofBlueprint blueprint = ByteStream.ofBlueprint other ↔
        blueprint.imprint = other.imprint :=
      ⟨imprint_eq_of_stream fits otherFits, congrArg ByteStream.ofImprint⟩
    rw [alike_iff, Blueprint.imprint, Blueprint.imprint, Imprint.mk.injEq]
  · intro compilation other fits otherFits
    have alike_iff : ByteStream.ofCrates compilation.crates = ByteStream.ofCrates other.crates ↔
        compilation.crates = other.crates :=
      ⟨crates_eq_of_stream fits otherFits, congrArg ByteStream.ofCrates⟩
    have oneByOne : (fun left right : ExternalCrate => left.localName = right.localName ∧
        left.crateName = right.crateName ∧ left.exports = right.exports) = Eq := by
      funext left right
      cases left
      cases right
      exact (ExternalCrate.mk.injEq ..).symm
    rw [alike_iff, oneByOne, List.forall₂_eq_eq_eq]

/-- The names of two modules run together to that of one, and one more crate stands behind the
others. -/
theorem fingerprints_eq_iff_shapes :
    ByteStream.ofBlueprint ⟨["sha", "pes"], .plain "Point", ⟨[], false⟩, ⟨[], false⟩, ["x"], true⟩ ≠
        ByteStream.ofBlueprint ⟨["shapes"], .plain "Point", ⟨[], false⟩, ⟨[], false⟩, ["x"], true⟩ ∧
      ByteStream.ofCrates (Compilation.ofUnits [] [.runtime "autoser"]).crates ≠
        ByteStream.ofCrates (Compilation.ofUnits [] []).crates := by
  rcases fingerprints_eq_iff with ⟨blueprints, crates⟩
  constructor
  · intro alike
    have parts := (blueprints _ _ (by decide) (by decide)).mp alike
    exact absurd parts.1 (by decide)
  · intro alike
    have agree := (crates _ _ (by decide) (by decide)).mp alike
    exact absurd agree.length_eq (by decide)

end Fingerprint

end Wireform.Generation
