import Mathlib.Data.List.Forall2
import Wireform.Generation.Pass
import Wireform.Proofs.Names.OpaqueGlob
import Wireform.Proofs.Names.Outlook

/-! # Replacement of a struct

A source where one struct has been replaced by another of the same name. What stands around it says
what it said before, but may have moved. Names see no difference, and the other candidates are the
same ones. -/

namespace Wireform.Syntax

/-- The attribute at no particular place. What it is made of has no places. -/
def Attribute.placeless (tag : Attribute) : Attribute := { tag with position := .start }

def Field.placeless (field : Field) : Field :=
  { field with
    attributes := field.attributes.map Attribute.placeless
    position := .start }

def Struct.placeless (declaration : Struct) : Struct :=
  { declaration with
    attributes := declaration.attributes.map Attribute.placeless
    position := .start
    fields := declaration.fields.map Field.placeless }

def Method.placeless (method : Method) : Method := { method with position := .start }

mutual
def Item.placeless : Item → Item
  | .struct content => .struct content.placeless
  | .module attributes visible name none =>
    .module (attributes.map Attribute.placeless) visible name none
  | .module attributes visible name (some content) =>
    .module (attributes.map Attribute.placeless) visible name (some (placelessAll content))
  | .implementation parameters self methods =>
    .implementation parameters self (methods.map Method.placeless)
  | item => item

def Item.placelessAll : List Item → List Item
  | [] => []
  | head :: tail => head.placeless :: placelessAll tail
end

end Wireform.Syntax

namespace Wireform.Generation

open Wireform.Names Wireform.Syntax

/-! ## The same text in another place -/

/-- Attributes that say the same: their paths are the same, and whoever reads their tokens reads the
same. -/
structure SameAttribute (left right : Attribute) : Prop where
  path : left.path = right.path
  skips : isForeignSkip left = isForeignSkip right
  arguments : markerArguments? left = markerArguments? right

structure SameField (left right : Field) : Prop where
  attributes : List.Forall₂ SameAttribute left.attributes right.attributes
  name : left.name = right.name
  ty : left.ty = right.ty

structure SameStruct (left right : Struct) : Prop where
  attributes : List.Forall₂ SameAttribute left.attributes right.attributes
  visibility : left.visibility = right.visibility
  name : left.name = right.name
  typeNames : left.parameters.typeNames = right.parameters.typeNames
  parameters : left.parameters.text = right.parameters.text
  predicates : left.predicates.text = right.predicates.text
  fields : List.Forall₂ SameField left.fields right.fields

theorem forall₂_of_map_eq {α β : Type} {f : α → β} {related : α → α → Prop}
    (each : ∀ first second, f first = f second → related first second) {left right : List α}
    (same : left.map f = right.map f) : List.Forall₂ related left right := by
  have pairs : List.Forall₂ Eq (left.map f) (right.map f) := by rw [same, List.forall₂_same]; simp
  rw [List.forall₂_map_left_iff, List.forall₂_map_right_iff] at pairs
  exact pairs.imp each

theorem SameAttribute.of_placeless (left right : Attribute)
    (same : left.placeless = right.placeless) : SameAttribute left right where
  path := (congrArg Attribute.path same :)
  skips := (congrArg isForeignSkip same :)
  arguments := (congrArg markerArguments? same :)

theorem SameField.of_placeless (left right : Field) (same : left.placeless = right.placeless) :
    SameField left right where
  attributes := forall₂_of_map_eq SameAttribute.of_placeless (congrArg Field.attributes same :)
  name := (congrArg Field.name same :)
  ty := (congrArg Field.ty same :)

/-- Structs that differ in nothing but their places say the same. -/
theorem SameStruct.of_placeless (left right : Struct) (same : left.placeless = right.placeless) :
    SameStruct left right where
  attributes := forall₂_of_map_eq SameAttribute.of_placeless (congrArg Struct.attributes same)
  visibility := (congrArg Struct.visibility same :)
  name := (congrArg Struct.name same :)
  typeNames := (congrArg (fun declaration => declaration.parameters.typeNames) same :)
  parameters := (congrArg (fun declaration => declaration.parameters.text) same :)
  predicates := (congrArg (fun declaration => declaration.predicates.text) same :)
  fields := forall₂_of_map_eq SameField.of_placeless (congrArg Struct.fields same)

/-- Items that say the same. The attributes of modules matter only where files are looked for. -/
inductive SameItems : List Item → List Item → Prop where
  | nil : SameItems [] []
  | same (item : Item) {left right : List Item} (rest : SameItems left right) :
      SameItems (item :: left) (item :: right)
  | struct {first second : Struct} {left right : List Item} (same : SameStruct first second)
      (rest : SameItems left right) : SameItems (.struct first :: left) (.struct second :: right)
  | module {attributes others : List Attribute} {visible : Visibility} {name : Name}
      {first second left right : List Item} (inner : SameItems first second)
      (rest : SameItems left right) :
      SameItems (.module attributes visible name (some first) :: left)
        (.module others visible name (some second) :: right)
  | elsewhere {attributes others : List Attribute} {visible : Visibility} {name : Name}
      {left right : List Item} (rest : SameItems left right) :
      SameItems (.module attributes visible name none :: left)
        (.module others visible name none :: right)
  | implementation {first second : Parameters} (self : Ty) {methods others : List Method}
      {left right : List Item} (same : methods.map Method.name = others.map Method.name)
      (rest : SameItems left right) :
      SameItems (.implementation first self methods :: left)
        (.implementation second self others :: right)

mutual
theorem SameItems.cons_of_placeless {left right : List Item} (rest : SameItems left right)
    (first second : Item) (alike : first.placeless = second.placeless) :
    SameItems (first :: left) (second :: right) := by
  cases first with
  | struct content =>
    cases second with
    | struct other => exact .struct (.of_placeless content other (Item.struct.inj alike)) rest
    | module _ _ _ inner => cases inner <;> cases alike
    | _ => cases alike
  | module _ _ _ inner =>
    cases second with
    | module _ _ _ other =>
      cases inner <;> cases other <;> obtain ⟨-, rfl, rfl, contents⟩ := Item.module.inj alike
      case none.none => exact .elsewhere rest
      case some.some inner other =>
        exact .module (of_placelessAll inner other (Option.some.inj contents)) rest
      all_goals cases contents
    | _ => cases inner <;> cases alike
  | implementation parameters self methods =>
    cases second with
    | module _ _ _ inner => cases inner <;> cases alike
    | implementation others otherSelf otherMethods =>
      obtain ⟨-, rfl, sameMethods⟩ := Item.implementation.inj alike
      have names := congrArg (List.map Method.name) sameMethods
      rw [List.map_map, List.map_map] at names
      exact .implementation self names rest
    | _ => cases alike
  | _ =>
    cases second with
    | module _ _ _ inner => cases inner <;> cases alike
    | _ => cases alike <;> exact .same _ rest

/-- Items that differ in nothing but their places say the same. -/
theorem SameItems.of_placelessAll : ∀ left right : List Item,
    Item.placelessAll left = Item.placelessAll right → SameItems left right
  | [], [], _ => .nil
  | first :: rest, second :: others, alike => by
    rcases List.cons.inj alike with ⟨heads, tails⟩
    exact (of_placelessAll rest others tails).cons_of_placeless first second heads
end

/-- One struct of the items, which stands in `module`, is replaced, and the other items are the
same. -/
inductive Replaced (old new : Struct) (module : ModulePath) :
    (around : ModulePath) → List Item → List Item → Prop where
  | here {before after others rest : List Item} (front : SameItems before others)
      (back : SameItems after rest) :
      Replaced old new module module
        (before ++ .struct old :: after) (others ++ .struct new :: rest)
  | inside {around : ModulePath} {attributes tags : List Attribute} {visible : Visibility}
      {name : Name} {inner replaced before after others rest : List Item}
      (front : SameItems before others)
      (within : Replaced old new module (around ++ [name.text]) inner replaced)
      (back : SameItems after rest) :
      Replaced old new module around
        (before ++ .module attributes visible name (some inner) :: after)
        (others ++ .module tags visible name (some replaced) :: rest)

/-- One struct in the file `file` is replaced, and the other files are the same. -/
inductive ReplacedIn (old new : Struct) (module : ModulePath) (file : String) :
    List SourceUnit → List SourceUnit → Prop where
  | mk (before after : List SourceUnit) {unit other : SourceUnit} (inFile : unit.path = file)
      (same : other.path = file) (place : other.module = unit.module)
      (within : Replaced old new module unit.module unit.items other.items) :
      ReplacedIn old new module file (before ++ unit :: after) (before ++ other :: after)

/-! ## What names see -/

section Outlook

variable {old new : Struct} {module around : ModulePath} {file : String}

theorem SameItems.placeless {left right : List Item} (same : SameItems left right) :
    (Declaration.ofItems file module left).map Declaration.placeless =
      (Declaration.ofItems file module right).map Declaration.placeless := by
  induction same generalizing module with
  | nil => rfl
  | same item rest induction =>
    rw [Declaration.ofItems, Declaration.ofItems, List.map_append, List.map_append, induction]
  | struct same rest induction =>
    rw [Declaration.ofItems, Declaration.ofItems, List.map_append, List.map_append, induction,
      Declaration.ofItem, Declaration.ofItem, same.name]
  | module inner rest innerInduction induction =>
    rw [Declaration.ofItems, Declaration.ofItems, List.map_append, List.map_append, induction,
      Declaration.ofItem, Declaration.ofItem]
    simp only [List.map_cons, innerInduction]
  | elsewhere rest induction =>
    rw [Declaration.ofItems, Declaration.ofItems, List.map_append, List.map_append, induction]
    rfl
  | implementation self same rest induction =>
    rw [Declaration.ofItems, Declaration.ofItems, List.map_append, List.map_append, induction]
    have placeless (methods : List Method) :
        (methods.map fun method : Method => (⟨method.name, .start⟩ : Method)) =
          (methods.map Method.name).map fun name => ⟨name, .start⟩ := by
      rw [List.map_map]
      rfl
    simp only [Declaration.ofItem, List.map_cons, List.map_nil, Declaration.placeless, placeless,
      same]

theorem Replaced.placeless {left right : List Item}
    (replaced : Replaced old new module around left right)
    (sameName : old.name.text = new.name.text) :
    (Declaration.ofItems file around left).map Declaration.placeless =
      (Declaration.ofItems file around right).map Declaration.placeless := by
  induction replaced with
  | here front back =>
    simp only [Declaration.ofItems_append, Declaration.ofItems, List.map_append, front.placeless,
      back.placeless, Declaration.ofItem, sameName]
  | inside front within back induction =>
    simp only [Declaration.ofItems_append, Declaration.ofItems, List.map_append, front.placeless,
      back.placeless, Declaration.ofItem, List.map_cons, induction]

theorem ReplacedIn.sameOutlook {left right : List SourceUnit} {externalCrates : List ExternalCrate}
    (replaced : ReplacedIn old new module file left right)
    (sameName : old.name.text = new.name.text) :
    (Compilation.ofUnits left externalCrates).SameOutlook (.ofUnits right externalCrates) := by
  obtain ⟨before, after, inFile, same, place, within⟩ := replaced
  refine .of_placeless rfl ?_
  simp only [Compilation.ofUnits, List.flatMap_append, List.flatMap_cons, List.map_append,
    Compilation.declarationsOf, inFile, same, place, within.placeless sameName]

end Outlook

/-! ## The other candidates -/

structure SameCandidate (left right : Candidate) : Prop where
  declaration : SameStruct left.declaration right.declaration
  module : left.module = right.module

theorem SameAttribute.refl (tag : Attribute) : SameAttribute tag tag := ⟨rfl, rfl, rfl⟩

theorem SameField.refl (field : Field) : SameField field field :=
  ⟨List.forall₂_same.mpr fun tag _ => .refl tag, rfl, rfl⟩

theorem SameStruct.refl (declaration : Struct) : SameStruct declaration declaration :=
  ⟨List.forall₂_same.mpr fun tag _ => .refl tag, rfl, rfl, rfl, rfl, rfl,
    List.forall₂_same.mpr fun field _ => .refl field⟩

theorem SameCandidate.refl (candidate : Candidate) : SameCandidate candidate candidate :=
  ⟨.refl candidate.declaration, rfl⟩

theorem forall₂_sameCandidate (candidates : List Candidate) :
    List.Forall₂ SameCandidate candidates candidates :=
  List.forall₂_same.mpr fun candidate _ => .refl candidate

/-- Where values go in pairs, so do their images. -/
theorem map_eq_of_forall₂ {α β γ : Type} {related : α → β → Prop} {f : α → γ} {g : β → γ}
    (same : ∀ first second, related first second → f first = g second) {left : List α}
    {right : List β} (pairs : List.Forall₂ related left right) : left.map f = right.map g := by
  induction pairs with
  | nil => rfl
  | cons first rest induction => rw [List.map_cons, List.map_cons, same _ _ first, induction]

theorem any_eq_of_forall₂ {α β : Type} {related : α → β → Prop} {f : α → Bool} {g : β → Bool}
    (same : ∀ first second, related first second → f first = g second) {left : List α}
    {right : List β} (pairs : List.Forall₂ related left right) : left.any f = right.any g := by
  have images := congrArg (List.any · id) (map_eq_of_forall₂ same pairs)
  simpa only [List.any_map, Function.id_comp] using images

theorem filter_map_eq_of_forall₂ {α β γ : Type} {related : α → β → Prop} {keeps : α → Bool}
    {keeps' : β → Bool} {f : α → γ} {g : β → γ}
    (chosen : ∀ first second, related first second → keeps first = keeps' second)
    (same : ∀ first second, related first second → f first = g second) {left : List α}
    {right : List β} (pairs : List.Forall₂ related left right) :
    (left.filter keeps).map f = (right.filter keeps').map g := by
  induction pairs with
  | nil => rfl
  | @cons first second left right pair rest induction =>
    rw [List.filter_cons, List.filter_cons, chosen first second pair]
    split
    · rw [List.map_cons, List.map_cons, same first second pair, induction]
    · exact induction

theorem zipIdx_map_eq_of_forall₂ {α β γ : Type} {related : α → β → Prop} {f : α → Nat → γ}
    {g : β → Nat → γ}
    (same : ∀ first second index, related first second → f first index = g second index)
    {left : List α} {right : List β} (pairs : List.Forall₂ related left right) (start : Nat) :
    (left.zipIdx start).map (fun entry => f entry.1 entry.2) =
      (right.zipIdx start).map fun entry => g entry.1 entry.2 := by
  induction pairs generalizing start with
  | nil => rfl
  | cons pair rest induction =>
    rw [List.zipIdx_cons, List.zipIdx_cons, List.map_cons, List.map_cons, same _ _ _ pair,
      induction]

theorem SameStruct.isAttributed {left right : Struct} (same : SameStruct left right) :
    Candidate.isAttributed left = Candidate.isAttributed right :=
  any_eq_of_forall₂ (fun first second alike => by rw [alike.path]) same.attributes

theorem Candidate.ofItems_append (file : String) (module : ModulePath) (before after : List Item) :
    ofItems file module (before ++ after) =
      ofItems file module before ++ ofItems file module after := by
  induction before with
  | nil => rfl
  | cons head tail induction =>
    simp only [List.cons_append, ofItems, induction, List.append_assoc]

theorem SameItems.candidates {file : String} {module : ModulePath} {left right : List Item}
    (same : SameItems left right) : List.Forall₂ SameCandidate
      (Candidate.ofItems file module left) (Candidate.ofItems file module right) := by
  induction same generalizing module with
  | nil => exact .nil
  | same item rest induction => exact List.rel_append (forall₂_sameCandidate _) induction
  | struct same rest induction =>
    apply List.rel_append _ induction
    rw [Candidate.ofItem, Candidate.ofItem, ← same.isAttributed]
    split
    · exact .cons ⟨same, rfl⟩ .nil
    · exact .nil
  | module inner rest innerInduction induction =>
    exact List.rel_append innerInduction induction
  | elsewhere rest induction => exact List.rel_append .nil induction
  | implementation self same rest induction => exact List.rel_append .nil induction

/-- Candidates where one struct is replaced: the same ones before it, the struct itself as far as it
is a candidate, and the same ones behind it. -/
inductive CandidatesAround (old new : Struct) (module : ModulePath) (file : String) :
    List Candidate → List Candidate → Prop where
  | mk {before after others rest : List Candidate}
      (front : List.Forall₂ SameCandidate before others)
      (back : List.Forall₂ SameCandidate after rest) :
      CandidatesAround old new module file
        (before ++ (Candidate.ofItem file module (.struct old) ++ after))
        (others ++ (Candidate.ofItem file module (.struct new) ++ rest))

section CandidatesAround

variable {old new : Struct} {module around : ModulePath} {file : String}

theorem CandidatesAround.extend {left right before after others rest : List Candidate}
    (candidates : CandidatesAround old new module file left right)
    (front : List.Forall₂ SameCandidate before others)
    (back : List.Forall₂ SameCandidate after rest) :
    CandidatesAround old new module file
      (before ++ (left ++ after)) (others ++ (right ++ rest)) := by
  obtain ⟨ownFront, ownBack⟩ := candidates
  have both : CandidatesAround old new module file _ _ :=
    .mk (List.rel_append front ownFront) (List.rel_append ownBack back)
  simpa only [List.append_assoc] using both

theorem Replaced.candidates {left right : List Item}
    (replaced : Replaced old new module around left right) : CandidatesAround old new module file
      (Candidate.ofItems file around left) (Candidate.ofItems file around right) := by
  induction replaced with
  | here front back =>
    rw [Candidate.ofItems_append, Candidate.ofItems_append, Candidate.ofItems, Candidate.ofItems]
    exact .mk front.candidates back.candidates
  | inside front within back induction =>
    rw [Candidate.ofItems_append, Candidate.ofItems_append, Candidate.ofItems, Candidate.ofItems,
      Candidate.ofItem, Candidate.ofItem]
    exact induction.extend front.candidates back.candidates

theorem ReplacedIn.candidates {left right : List SourceUnit} {externalCrates : List ExternalCrate}
    (replaced : ReplacedIn old new module file left right) : CandidatesAround old new module file
      (Candidate.select (.ofUnits left externalCrates))
      (Candidate.select (.ofUnits right externalCrates)) := by
  obtain ⟨before, after, inFile, same, place, within⟩ := replaced
  simp only [Candidate.select, Compilation.ofUnits, List.flatMap_append, List.flatMap_cons,
    inFile, same, place]
  exact within.candidates.extend (forall₂_sameCandidate _) (forall₂_sameCandidate _)

end CandidatesAround

end Wireform.Generation
