import Mathlib.Data.List.Basic
import Wireform.Proofs.Names.Origin
import Wireform.Proofs.Syntax.Identifiers

/-! # Identities

A module or an item is identified by the joined names on the way to it. Names that sources give are
identifiers, so their joined text tells them apart. A unit can stand in a module whose name is none,
but no such name holds what stands between two names. -/

namespace Wireform.Text

/-- A character that can stand nowhere in an identifier. -/
def isForeign (letter : Char) : Bool := !startsIdentifier letter && !continuesIdentifier letter

theorem notMem_of_isIdentifierText {letters : List Char} {letter : Char}
    (identifier : isIdentifierText letters = true) (foreign : isForeign letter = true) :
    letter ∉ letters := by
  obtain ⟨starts, continues⟩ :
      startsIdentifier letter = false ∧ continuesIdentifier letter = false := by
    simpa [isForeign] using foreign
  cases letters with
  | nil => exact List.not_mem_nil
  | cons first rest =>
    obtain ⟨firstStarts, restContinue⟩ := Bool.and_eq_true_iff.mp identifier
    intro among
    rcases List.mem_cons.mp among with rfl | among
    · rw [starts] at firstStarts
      cases firstStarts
    · have continued := List.all_eq_true.mp restContinue letter among
      rw [continues] at continued
      cases continued

/-! ## Joined texts -/

theorem append_cons_inj {mark : Char} {first second firstRest secondRest : List Char}
    (inFirst : mark ∉ first) (inSecond : mark ∉ second)
    (same : first ++ mark :: firstRest = second ++ mark :: secondRest) :
    first = second ∧ firstRest = secondRest := by
  induction first generalizing second with
  | nil =>
    cases second with
    | nil => exact ⟨rfl, (List.cons.inj same).2⟩
    | cons letter second =>
      rw [(List.cons.inj same).1] at inSecond
      exact absurd List.mem_cons_self inSecond
  | cons letter first induction =>
    cases second with
    | nil =>
      rw [← (List.cons.inj same).1] at inFirst
      exact absurd List.mem_cons_self inFirst
    | cons other second =>
      obtain rfl := (List.cons.inj same).1
      obtain ⟨rfl, rest⟩ := induction (fun among => inFirst (List.mem_cons_of_mem _ among))
        (fun among => inSecond (List.mem_cons_of_mem _ among))
        (List.cons.inj same).2
      exact ⟨rfl, rest⟩

/-- Pieces are told apart in a text that has a mark between them, if the mark starts with a
character that stands in none of them. -/
theorem intercalate_inj {mark : Char} {marks : List Char} {first second : List (List Char)}
    (notEmpty : first ≠ []) (notEmpty' : second ≠ []) (inFirst : ∀ piece ∈ first, mark ∉ piece)
    (inSecond : ∀ piece ∈ second, mark ∉ piece)
    (same : (mark :: marks).intercalate first = (mark :: marks).intercalate second) :
    first = second := by
  induction first generalizing second with
  | nil => exact absurd rfl notEmpty
  | cons piece rest induction =>
    -- The last piece has no mark behind it, so one list cannot end before the other.
    obtain ⟨other, others, rfl⟩ := List.exists_cons_of_ne_nil notEmpty'
    obtain ⟨inPiece, inRest⟩ := List.forall_mem_cons.mp inFirst
    obtain ⟨inOther, inOthers⟩ := List.forall_mem_cons.mp inSecond
    cases rest with
    | nil =>
      cases others with
      | nil => simpa using same
      | cons next others =>
        rw [List.intercalate_singleton, List.intercalate_cons_cons] at same
        exact absurd (by simp [same]) inPiece
    | cons next rest =>
      cases others with
      | nil =>
        rw [List.intercalate_singleton, List.intercalate_cons_cons] at same
        exact absurd (by simp [← same]) inOther
      | cons otherNext others =>
        rw [List.intercalate_cons_cons, List.intercalate_cons_cons, List.append_assoc,
          List.append_assoc] at same
        obtain ⟨rfl, behind⟩ := append_cons_inj inPiece inOther same
        rw [induction (List.cons_ne_nil _ _) (List.cons_ne_nil _ _) inRest inOthers
          (List.append_cancel_left behind)]

/-- No two colons stand next to one another. -/
def IsWhole (letters : List Char) : Prop := ¬[':', ':'] <:+: letters

theorem isWhole_of_notMem {letters : List Char} (absent : ':' ∉ letters) : IsWhole letters :=
  fun contained => absent (contained.subset List.mem_cons_self)

/-- Joined pieces that are names are told apart from all other pieces that double colons can be put
between. -/
theorem eq_of_intercalate_eq {first second : List (List Char)} (notEmpty : first ≠ [])
    (notEmpty' : second ≠ []) (named : ∀ piece ∈ first, piece ≠ [] ∧ ':' ∉ piece)
    (whole : ∀ piece ∈ second, IsWhole piece)
    (same : [':', ':'].intercalate first = [':', ':'].intercalate second) : first = second := by
  induction first generalizing second with
  | nil => exact absurd rfl notEmpty
  | cons piece rest induction =>
    rcases List.exists_cons_of_ne_nil notEmpty' with ⟨other, others, rfl⟩
    rcases List.forall_mem_cons.mp named with ⟨⟨_, inPiece⟩, inRest⟩
    rcases List.forall_mem_cons.mp whole with ⟨otherWhole, othersWhole⟩
    cases rest with
    | nil =>
      cases others with
      | nil => simpa using same
      | cons next others =>
        rw [List.intercalate_singleton, List.intercalate_cons_cons] at same
        exact absurd (by simp [same]) inPiece
    | cons next rest =>
      -- What follows the first separator does not start with a colon.
      rcases List.exists_cons_of_ne_nil (inRest next List.mem_cons_self).1 with
        ⟨letter, letters, rfl⟩
      have notColon : ':' ≠ letter := by
        rintro rfl
        exact (inRest _ List.mem_cons_self).2 List.mem_cons_self
      have begins : ∃ tail, [':', ':'].intercalate ((letter :: letters) :: rest) = letter :: tail := by
        cases rest with
        | nil => exact ⟨letters, by simp⟩
        | cons => exact ⟨_, by rw [List.intercalate_cons_cons]; rfl⟩
      rcases begins with ⟨tail, begins⟩
      rw [List.intercalate_cons_cons, List.append_assoc] at same
      cases others with
      | nil =>
        rw [List.intercalate_singleton] at same
        exact absurd ⟨piece, _, by rw [List.append_assoc]; exact same⟩ otherWhole
      | cons otherNext others =>
        rw [List.intercalate_cons_cons, List.append_assoc] at same
        -- If the other piece has a colon, the separator begins there: either the piece holds both
        -- colons, or it ends between them and its own separator runs into the next name.
        by_cases colon : ':' ∈ other
        · rcases List.eq_append_cons_of_mem colon with ⟨front, back, rfl, inFront⟩
          rw [List.append_assoc] at same
          rcases append_cons_inj inPiece inFront same with ⟨rfl, behind⟩
          cases back with
          | nil =>
            rw [begins] at behind
            exact absurd (List.cons.inj (List.cons.inj behind).2).1.symm notColon
          | cons mark back =>
            rw [← (List.cons.inj behind).1] at otherWhole
            exact absurd ⟨piece, back, by simp⟩ otherWhole
        · rcases append_cons_inj inPiece colon same with ⟨rfl, behind⟩
          rw [induction (List.cons_ne_nil _ _) (List.cons_ne_nil _ _) inRest othersWhole
            (List.cons.inj behind).2]

theorem notMem_intercalate {mark : Char} {marks : List Char} {pieces : List (List Char)}
    (inMarks : mark ∉ marks) (inPieces : ∀ piece ∈ pieces, mark ∉ piece) :
    mark ∉ marks.intercalate pieces := by
  induction pieces with
  | nil => exact List.not_mem_nil
  | cons piece rest induction =>
    obtain ⟨inPiece, inRest⟩ := List.forall_mem_cons.mp inPieces
    cases rest with
    | nil =>
      rw [List.intercalate_singleton]
      exact inPiece
    | cons next rest =>
      rw [List.intercalate_cons_cons, List.mem_append, List.mem_append]
      exact not_or.mpr ⟨not_or.mpr ⟨inPiece, inMarks⟩, induction inRest⟩

end Wireform.Text

namespace Wireform.Names

open Wireform.Syntax Wireform.Text

def isIdentifierPath (path : List String) : Bool :=
  path.all fun name => isIdentifierText name.toList

theorem isIdentifierPath_iff {path : List String} :
    isIdentifierPath path = true ↔ ∀ name ∈ path, isIdentifierText name.toList = true :=
  List.all_eq_true

/-- Names are told apart by their joined text if the separator starts with a character that stands in
none of them. -/
theorem eq_of_joined_eq {mark : Char} {separator : String} {marks : List Char}
    (spelled : separator.toList = mark :: marks) {first second : List String}
    (notEmpty : first ≠ []) (notEmpty' : second ≠ [])
    (inFirst : ∀ name ∈ first, mark ∉ name.toList) (inSecond : ∀ name ∈ second, mark ∉ name.toList)
    (same : separator.intercalate first = separator.intercalate second) : first = second := by
  have sameLetters := congrArg String.toList same
  rw [String.toList_intercalate, String.toList_intercalate, spelled] at sameLetters
  have samePieces := intercalate_inj (by simpa using notEmpty) (by simpa using notEmpty')
    (List.forall_mem_map.mpr inFirst) (List.forall_mem_map.mpr inSecond) sameLetters
  exact List.map_injective_iff.mpr (fun _ _ => String.toList_inj.mp) samePieces

/-- Paths of identifiers are told apart by their joined names. -/
theorem intercalate_injective {mark : Char} {separator : String} {marks : List Char}
    (spelled : separator.toList = mark :: marks) (foreign : isForeign mark = true)
    {first second : List String} (notEmpty : first ≠ []) (notEmpty' : second ≠ [])
    (inFirst : isIdentifierPath first = true) (inSecond : isIdentifierPath second = true)
    (same : separator.intercalate first = separator.intercalate second) : first = second := by
  have apart {path : List String} (identifiers : isIdentifierPath path = true) :
      ∀ name ∈ path, mark ∉ name.toList := by
    intro name among
    exact notMem_of_isIdentifierText (isIdentifierPath_iff.mp identifiers name among) foreign
  exact eq_of_joined_eq spelled notEmpty notEmpty' (apart inFirst) (apart inSecond) same

/-! ## Names of modules -/

theorem exists_cons_of_colonPieces (letters : List Char) :
    ∃ first others, colonPieces letters = first :: others ∧ first <+: letters := by
  fun_induction colonPieces letters with
  | case1 => exact ⟨[], [], rfl, List.prefix_refl _⟩
  | case2 rest => exact ⟨[], _, rfl, List.nil_prefix⟩
  | case3 letter rest _ none induction =>
    rcases induction with ⟨first, others, pieces, _⟩
    rw [pieces] at none
    cases none
  | case4 letter rest _ first others pieces induction =>
    rcases induction with ⟨own, more, known, begins⟩
    rw [pieces] at known
    cases known
    exact ⟨letter :: first, others, rfl, List.cons_prefix_cons.mpr ⟨rfl, begins⟩⟩

theorem isWhole_of_mem_colonPieces (letters : List Char) :
    ∀ piece ∈ colonPieces letters, IsWhole piece := by
  fun_induction colonPieces letters with
  | case1 => exact List.forall_mem_singleton.mpr (isWhole_of_notMem List.not_mem_nil)
  | case2 rest induction =>
    exact List.forall_mem_cons.mpr ⟨isWhole_of_notMem List.not_mem_nil, induction⟩
  | case3 letter rest _ none induction =>
    rcases exists_cons_of_colonPieces rest with ⟨first, others, pieces, _⟩
    rw [pieces] at none
    cases none
  | case4 letter rest apart first others pieces induction =>
    rw [pieces] at induction
    rcases List.forall_mem_cons.mp induction with ⟨firstWhole, othersWhole⟩
    refine List.forall_mem_cons.mpr ⟨?_, othersWhole⟩
    intro contained
    rcases List.infix_cons_iff.mp contained with front | behind
    · -- The letter and the first one of the rest would have been a separator.
      rcases exists_cons_of_colonPieces rest with ⟨own, more, known, begins⟩
      rw [pieces] at known
      cases known
      rcases List.cons_prefix_cons.mp front with ⟨rfl, next⟩
      rcases next.trans begins with ⟨tail, rfl⟩
      exact apart tail rfl rfl
    · exact firstWhole behind

theorem isWhole_of_mem_ofText {text name : String} (among : name ∈ ModulePath.ofText text) :
    IsWhole name.toList := by
  rcases List.mem_map.mp (List.mem_filter.mp among).1 with ⟨piece, inPieces, rfl⟩
  rw [String.toList_ofList]
  exact isWhole_of_mem_colonPieces _ piece inPieces

theorem colonPieces_cons {letter : Char} (other : letter ≠ ':') {rest first : List Char}
    {others : List (List Char)} (pieces : colonPieces rest = first :: others) :
    colonPieces (letter :: rest) = (letter :: first) :: others := by
  rw [colonPieces, pieces]
  exact fun _ same => absurd same other

theorem colonPieces_append {letters : List Char} (absent : ':' ∉ letters) (rest : List Char) :
    colonPieces (letters ++ ':' :: ':' :: rest) = letters :: colonPieces rest := by
  induction letters with
  | nil => rw [List.nil_append, colonPieces]
  | cons letter letters induction =>
    rcases List.ne_and_not_mem_of_not_mem_cons absent with ⟨other, behind⟩
    exact colonPieces_cons other.symm (induction behind)

theorem colonPieces_of_notMem {letters : List Char} (absent : ':' ∉ letters) :
    colonPieces letters = [letters] := by
  induction letters with
  | nil => rfl
  | cons letter letters induction =>
    rcases List.ne_and_not_mem_of_not_mem_cons absent with ⟨other, behind⟩
    exact colonPieces_cons other.symm (induction behind)

theorem colonPieces_intercalate {pieces : List (List Char)} (notEmpty : pieces ≠ [])
    (absent : ∀ piece ∈ pieces, ':' ∉ piece) :
    colonPieces ([':', ':'].intercalate pieces) = pieces := by
  induction pieces with
  | nil => exact absurd rfl notEmpty
  | cons piece rest induction =>
    rcases List.forall_mem_cons.mp absent with ⟨inPiece, inRest⟩
    cases rest with
    | nil => rw [List.intercalate_singleton, colonPieces_of_notMem inPiece]
    | cons next rest =>
      rw [List.intercalate_cons_cons, List.append_assoc]
      exact (colonPieces_append inPiece _).trans
        (congrArg _ (induction (List.cons_ne_nil _ _) inRest))

/-- A path of identifiers can be read back from its text. -/
theorem ofText_text {path : ModulePath} (identifiers : isIdentifierPath path = true) :
    ModulePath.ofText path.text = path := by
  have identifier := isIdentifierPath_iff.mp identifiers
  have colon : isForeign ':' = true := by decide
  have pieces : path ≠ [] → splitPath path.text = path := by
    intro notEmpty
    have absent : ∀ piece ∈ path.map String.toList, ':' ∉ piece := by
      intro piece among
      rcases List.mem_map.mp among with ⟨name, inPath, rfl⟩
      exact notMem_of_isIdentifierText (identifier name inPath) colon
    rw [splitPath, ModulePath.text, String.toList_intercalate]
    refine (congrArg _ (colonPieces_intercalate (by simpa using notEmpty) absent)).trans ?_
    simp
  cases path with
  | nil => rfl
  | cons first rest =>
    rw [ModulePath.ofText, pieces (List.cons_ne_nil _ _), List.filter_eq_self]
    intro name among
    refine decide_eq_true ?_
    rintro rfl
    exact absurd (identifier _ among) (by decide)

theorem intercalate_concat (separator first name : String) (names : List String) :
    separator.intercalate (first :: (names ++ [name])) =
      separator.intercalate (first :: names) ++ separator ++ name := by
  induction names generalizing first with
  | nil => simp [String.intercalate_cons_cons]
  | cons next names induction =>
    rw [List.cons_append, String.intercalate_cons_cons, String.intercalate_cons_cons, induction]
    simp only [String.append_assoc]

theorem qualifiedName_concat (module : ModulePath) (name : String) :
    ModulePath.qualifiedName (module ++ [name]) = module.qualifiedName ++ "::" ++ name :=
  intercalate_concat _ _ _ _

/-- A path of identifiers shares its identity with no other path that a source can have. -/
theorem eq_of_qualifiedName_eq {path other : ModulePath} (identifiers : isIdentifierPath path = true)
    (whole : ∀ name ∈ other, IsWhole name.toList)
    (same : path.qualifiedName = other.qualifiedName) : path = other := by
  have colon : isForeign ':' = true := by decide
  have crate : isIdentifierText "crate".toList = true := by decide
  have named : ∀ piece ∈ ("crate" :: path).map String.toList, piece ≠ [] ∧ ':' ∉ piece := by
    intro piece among
    rcases List.mem_map.mp among with ⟨name, nameAmong, rfl⟩
    have identifier : isIdentifierText name.toList = true := by
      rcases List.mem_cons.mp nameAmong with rfl | inPath
      · exact crate
      · exact isIdentifierPath_iff.mp identifiers name inPath
    refine ⟨?_, notMem_of_isIdentifierText identifier colon⟩
    intro empty
    rw [empty] at identifier
    cases identifier
  have otherWhole : ∀ piece ∈ ("crate" :: other).map String.toList, IsWhole piece := by
    intro piece among
    rcases List.mem_map.mp among with ⟨name, nameAmong, rfl⟩
    rcases List.mem_cons.mp nameAmong with rfl | inOther
    · exact isWhole_of_notMem (by decide)
    · exact whole name inOther
  have sameLetters := congrArg String.toList same
  rw [ModulePath.qualifiedName, ModulePath.qualifiedName, String.toList_intercalate,
    String.toList_intercalate] at sameLetters
  have samePieces := eq_of_intercalate_eq (by simp) (by simp) named otherWhole sameLetters
  have sameNames : ("crate" :: path) = "crate" :: other :=
    List.map_injective_iff.mpr (fun _ _ => String.toList_inj.mp) samePieces
  exact (List.cons.inj sameNames).2

/-! ## Names in sources -/

theorem Contains.isIdentified {around module : ModulePath} {items : List Item} {item : Item}
    (contains : Contains around items module item) (identified : Item.areIdentified items = true) :
    item.isIdentified = true := by
  induction contains with
  | here among => exact Item.areIdentified_iff.mp identified _ among
  | inside among _ induction =>
    have own := Item.areIdentified_iff.mp identified _ among
    rw [Item.isIdentified, Bool.and_eq_true] at own
    exact induction own.2

theorem isIdentifier_of_module {attributes : List Attribute} {visible : Visibility} {name : Name}
    {content : Option (List Item)}
    (identified : (Item.module attributes visible name content).isIdentified = true) :
    name.isIdentifier = true := by
  cases content with
  | none => exact identified
  | some inner => exact (Bool.and_eq_true_iff.mp identified).1

theorem Defines.isIdentifierText {item : Item} {space : Namespace} {name : String}
    {definition : Definition} (defines : Defines item space name definition)
    (identified : item.isIdentified = true) : isIdentifierText name.toList = true := by
  cases defines <;> exact (Name.isIdentifier_iff.mp identified).1

theorem isWhole_of_isIdentifierText {name : String}
    (identifier : isIdentifierText name.toList = true) : IsWhole name.toList :=
  isWhole_of_notMem (notMem_of_isIdentifierText identifier (by decide))

theorem isWhole_of_isIdentifier (name : Name) (identifier : name.isIdentifier = true) :
    IsWhole name.text.toList :=
  isWhole_of_isIdentifierText (Name.isIdentifier_iff.mp identifier).1

/-- The names of a module stand in its place or are written in front of its body. -/
theorem Contains.forall_names {around module : ModulePath} {items : List Item} {item : Item}
    {holds : String → Prop} (own : ∀ name : Name, name.isIdentifier = true → holds name.text)
    (contains : Contains around items module item) (identified : Item.areIdentified items = true)
    (outside : ∀ name ∈ around, holds name) : ∀ name ∈ module, holds name := by
  induction contains with
  | here among => exact outside
  | inside among _ induction =>
    have inner := Item.areIdentified_iff.mp identified _ among
    rw [Item.isIdentified, Bool.and_eq_true] at inner
    apply induction inner.2
    rw [List.forall_mem_append, List.forall_mem_singleton]
    exact ⟨outside, own _ inner.1⟩

theorem Compilation.Contains.isIdentified {compilation : Compilation} {module : ModulePath}
    {item : Item} (contains : compilation.Contains module item) : item.isIdentified = true := by
  obtain ⟨unit, _, inside⟩ := contains
  exact inside.isIdentified (areIdentified_of_parseFile? unit.parses)

section Places

variable {units : List SourceUnit} {externalCrates : List ExternalCrate} {module : ModulePath}
  {holds : String → Prop}

theorem forall_names_of_contains (own : ∀ name : Name, name.isIdentifier = true → holds name.text)
    (places : ∀ unit ∈ units, ∀ name ∈ unit.module, holds name) {item : Item}
    (contains : (Compilation.ofUnits units externalCrates).Contains module item) :
    ∀ name ∈ module, holds name := by
  rcases contains with ⟨unit, among, inside⟩
  exact inside.forall_names own (areIdentified_of_parseFile? unit.parses) (places _ among)

/-- What holds of the names of all places and of all identifiers holds of the names of every
module. -/
theorem forall_names_of_introduces
    (own : ∀ name : Name, name.isIdentifier = true → holds name.text)
    (places : ∀ unit ∈ units, ∀ name ∈ unit.module, holds name)
    (introduces : (Compilation.ofUnits units externalCrates).Introduces module) :
    ∀ name ∈ module, holds name := by
  cases introduces with
  | root => exact List.forall_mem_nil _
  | unit among around => exact fun name inModule => places _ among name (around.subset inModule)
  | item contains =>
    rw [List.forall_mem_append, List.forall_mem_singleton]
    exact ⟨forall_names_of_contains own places contains,
      own _ (isIdentifier_of_module contains.isIdentified)⟩

/-- A module with a visibility is declared by an item, so its name is an identifier. -/
theorem exists_of_moduleVisibility? {visible : Visibility}
    (declared :
      (Compilation.ofUnits units externalCrates).moduleVisibility? module = some visible) :
    ∃ parent name, module = parent ++ [name] ∧ isIdentifierText name.toList = true := by
  rw [Compilation.moduleVisibility?] at declared
  split at declared
  · obtain ⟨declaration, among, states⟩ := List.exists_of_findSome?_eq_some declared
    cases declaration with
    | visibility stated written =>
      obtain ⟨rfl, rfl⟩ : stated = module ∧ written = visible := by simpa using states
      rcases Compilation.mem_declarations_ofUnits among with
        ⟨_, _, same, _⟩ | ⟨unit, unitAmong, parent, item, contains, stated⟩
      · cases same
      · cases stated with
        | visibility attributes _ name content =>
          have inCrate : (Compilation.ofUnits units externalCrates).Contains parent
              (.module attributes written name content) := ⟨unit, unitAmong, contains⟩
          have identifier := isIdentifier_of_module inCrate.isIdentified
          exact ⟨parent, name.text, rfl, (Name.isIdentifier_iff.mp identifier).1⟩
        | binding binding => cases binding
    | _ => cases states
  · cases declared

end Places

/-- Every unit is what some source text says. -/
def Parsed (units : List SourceUnit) : Prop :=
  ∀ unit ∈ units, ∃ path module source, SourceUnit.parse? path module source = some unit

namespace Parsed

variable {units : List SourceUnit} {externalCrates : List ExternalCrate} {module : ModulePath}

theorem isWhole_of_mem_module (parsed : Parsed units) :
    ∀ unit ∈ units, ∀ name ∈ unit.module, IsWhole name.toList := by
  intro unit among
  rcases parsed unit among with ⟨path, place, source, isParsed⟩
  rcases SourceUnit.parse?_eq_some_iff.mp isParsed with ⟨items, parses, rfl⟩
  exact fun name => isWhole_of_mem_ofText

theorem forall_isWhole_of_contains (parsed : Parsed units) {item : Item}
    (contains : (Compilation.ofUnits units externalCrates).Contains module item) :
    ∀ name ∈ module, IsWhole name.toList :=
  forall_names_of_contains isWhole_of_isIdentifier parsed.isWhole_of_mem_module contains

theorem forall_isWhole_of_introduces (parsed : Parsed units)
    (introduces : (Compilation.ofUnits units externalCrates).Introduces module) :
    ∀ name ∈ module, IsWhole name.toList :=
  forall_names_of_introduces isWhole_of_isIdentifier parsed.isWhole_of_mem_module introduces

end Parsed

end Wireform.Names
