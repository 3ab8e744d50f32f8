import Wireform.Syntax.Parse

/-! # Names of items

The names that a source gives to its items are identifiers, so that they can be joined to paths and
file names and told apart again. The rules of a level take the names of nested items from the level
below: the induction is on the levels. -/

namespace Wireform.Syntax

/-- The words that lead from module to module, or to the type at hand. -/
def pathWords : List String := ["super", "self", "Self", "crate"]

namespace Name

/-- Whether the word is an identifier, or a keyword with which no path can start. -/
def isIdentifier (name : Name) : Bool :=
  Text.isIdentifierText name.text.toList && !pathWords.contains name.text

theorem isIdentifier_iff {name : Name} : name.isIdentifier = true ↔
    Text.isIdentifierText name.text.toList = true ∧ name.text ∉ pathWords := by
  simp [isIdentifier]

theorem notMem_pathWords_of_isFree {name : Name} (free : name.isFree = true) :
    name.text ∉ pathWords := by
  intro among
  have reserved : (if name.raw then unescapableWords else keywords).contains name.text = true := by
    have everywhere : ∀ word ∈ pathWords, word ∈ unescapableWords ∧ word ∈ keywords := by decide
    rw [List.contains_iff_mem]
    cases name.raw with
    | true => exact (everywhere _ among).1
    | false => exact (everywhere _ among).2
  rw [isFree, reserved] at free
  cases free

/-- A word without the mark of raw names is the spelling of one name only. -/
theorem spelling_eq_iff {name : Name} {word : String}
    (unmarked : word.toList.take 2 ≠ ['r', '#']) : name.spelling = word ↔ name = .plain word := by
  rcases name with ⟨raw, text⟩
  cases raw with
  | false => simp [spelling, plain]
  | true =>
    have differs : "r#" ++ text ≠ word := by
      rintro rfl
      apply unmarked
      rw [String.toList_append]
      rfl
    simp [spelling, plain, differs]

theorem isWord_iff {name : Name} {word : String} :
    name.isWord word = true ↔ name = .plain word := by
  rcases name with ⟨raw, text⟩
  cases raw <;> simp [isWord, plain]

end Name

namespace Item

mutual
/-- Whether the item and all items in it declare identifiers. -/
def isIdentified : Item → Bool
  | .struct declared => declared.name.isIdentifier
  | .declaration _ name => name.isIdentifier
  | .typeAlias name _ _ => name.isIdentifier
  | .constant name _ _ => name.isIdentifier
  | .module _ _ name none => name.isIdentifier
  | .module _ _ name (some items) => name.isIdentifier && areIdentified items
  | _ => true

def areIdentified : List Item → Bool
  | [] => true
  | head :: tail => head.isIdentified && areIdentified tail
end

theorem areIdentified_iff {items : List Item} :
    areIdentified items = true ↔ ∀ item ∈ items, item.isIdentified = true := by
  induction items with
  | nil => simp [areIdentified]
  | cons head tail induction => simp [areIdentified, induction]

end Item

namespace Parser

variable {α β : Type} {parser first : Parser α} {next : α → Parser β}
  {holds : α → Prop} {later : β → Prop}

/-- Whatever the parser yields has the property. -/
structure Yields (parser : Parser α) (holds : α → Prop) : Prop where
  of_run : ∀ {trees value rest}, parser.run trees = some (value, rest) → holds value

namespace Yields

theorem failure : Yields (failure : Parser α) holds := ⟨fun result => nomatch result⟩

theorem pure {value : α} (so : holds value) : Yields (pure value : Parser α) holds := by
  constructor
  intro trees other rest result
  cases result
  exact so

/-- The property of what comes out in the end can rest on what came out before. -/
theorem bind (before : Yields first holds)
    (after : ∀ value, holds value → Yields (next value) later) : Yields (first >>= next) later := by
  constructor
  intro trees value rest result
  rw [StateT.run_bind] at result
  cases found : first.run trees with
  | none =>
    rw [found] at result
    cases result
  | some pair =>
    rw [found] at result
    exact (after pair.1 (before.of_run found)).of_run result

theorem anything : Yields parser fun _ => True := ⟨fun _ => trivial⟩

theorem andThen (after : ∀ value, Yields (next value) later) : Yields (first >>= next) later :=
  bind anything fun value _ => after value

theorem map {change : α → β} (before : Yields parser holds)
    (after : ∀ value, holds value → later (change value)) : Yields (change <$> parser) later := by
  rw [map_eq_pure_bind]
  exact bind before fun value so => pure (after value so)

theorem ite {condition : Prop} [Decidable condition] {other : Parser α}
    (yes : condition → Yields parser holds) (no : ¬condition → Yields other holds) :
    Yields (if condition then parser else other) holds := by
  by_cases asked : condition
  · rw [if_pos asked]
    exact yes asked
  · rw [if_neg asked]
    exact no asked

theorem iteBind {condition : Prop} [Decidable condition] {other : Parser α}
    (yes : Yields parser holds) (no : Yields other holds)
    (after : ∀ value, holds value → Yields (next value) later) :
    Yields (if condition then parser >>= next else other >>= next) later :=
  ite (fun _ => bind yes after) fun _ => bind no after

theorem require {condition : Bool} :
    Yields (Parser.require condition) fun _ => condition = true := by
  constructor
  intro trees value rest result
  cases condition with
  | false => cases result
  | true => rfl

theorem inside {delimiter : Delimiter} (content : Yields parser holds) :
    Yields (Parser.inside delimiter parser) holds := by
  apply andThen
  intro tree
  cases tree with
  | group other trees position =>
    apply andThen
    intro _
    cases found : parser.run trees with
    | none => exact failure
    | some pair =>
      obtain ⟨value, rest⟩ := pair
      cases rest with
      | nil => exact pure (content.of_run found)
      | cons _ _ => exact failure
  | _ => exact failure

theorem manyWhile {more : List Tree → Bool} (item : Yields parser holds) :
    Yields (Parser.manyWhile more parser) fun values => ∀ value ∈ values, holds value := by
  have rounds (count : Nat) : Yields (Parser.manyWhile.go more parser count) fun values =>
      ∀ value ∈ values, holds value := by
    induction count with
    | zero => exact pure (List.forall_mem_nil _)
    | succ count induction =>
      apply andThen
      intro goesOn
      apply ite
      · intro _
        apply bind item
        intro first firstHolds
        apply bind induction
        intro rest restHolds
        exact pure (List.forall_mem_cons.mpr ⟨firstHolds, restHolds⟩)
      · intro _
        exact pure (List.forall_mem_nil _)
  exact andThen fun trees => rounds _

theorem untilEnd (item : Yields parser holds) :
    Yields (Parser.untilEnd parser) fun values => ∀ value ∈ values, holds value := by
  apply bind (manyWhile item)
  intro values all
  apply andThen
  intro _
  apply andThen
  intro _
  exact pure all

end Yields

theorem yields_anyName :
    Yields anyName fun name => Text.isIdentifierText name.text.toList = true := by
  apply Yields.andThen
  intro tree
  cases tree with
  | word name position =>
    apply Yields.bind Yields.require
    intro _ identifier
    exact .pure identifier
  | _ => exact .failure

theorem yields_name : Yields name fun name => name.isIdentifier = true := by
  apply Yields.bind yields_anyName
  intro name identifier
  apply Yields.bind Yields.require
  intro _ free
  exact .pure (Name.isIdentifier_iff.mpr ⟨identifier, Name.notMem_pathWords_of_isFree free⟩)

theorem yields_nameOr {exception : String} (other : exception ∉ pathWords) :
    Yields (nameOr exception) fun name => name.isIdentifier = true := by
  apply Yields.bind yields_anyName
  intro name identifier
  apply Yields.bind Yields.require
  intro _ allowed
  apply Yields.pure
  refine Name.isIdentifier_iff.mpr ⟨identifier, ?_⟩
  rcases Bool.or_eq_true_iff.mp allowed with free | excepted
  · exact Name.notMem_pathWords_of_isFree free
  · rw [Name.isWord_iff.mp excepted]
    exact other

end Parser

namespace Rules

open Wireform.Syntax.Parser

variable {rules : Rules}

/-- The rule yields items that declare identifiers. -/
abbrev Identifies (parser : Parser ItemPhrase) : Prop :=
  Yields parser fun phrase => phrase.item.isIdentified = true

theorem yields_items (nested : ∀ before attributes, Identifies (rules.item before attributes)) :
    Yields rules.items fun phrases => ∀ phrase ∈ phrases, phrase.item.isIdentified = true := by
  apply Yields.untilEnd
  apply Yields.andThen
  intro before
  apply Yields.andThen
  intro attributes
  exact nested before attributes

theorem areIdentified_of_phrases {phrases : List ItemPhrase}
    (all : ∀ phrase ∈ phrases, phrase.item.isIdentified = true) :
    Item.areIdentified (phrases.map ItemPhrase.item) = true := by
  rw [Item.areIdentified_iff]
  intro item among
  obtain ⟨phrase, phraseAmong, rfl⟩ := List.mem_map.mp among
  exact all phrase phraseAmong

theorem identifies_module (nested : ∀ before attributes, Identifies (rules.item before attributes))
    (attributes : List Attribute) (visibility : Visibility) :
    Identifies (rules.module attributes visibility) := by
  apply Yields.andThen
  intro unchecked
  apply Yields.andThen
  intro _
  apply Yields.bind (yields_nameOr (by decide))
  intro name identifier
  apply Yields.andThen
  intro closed
  apply Yields.ite
  · intro _
    exact .pure identifier
  · intro _
    apply Yields.inside
    apply Yields.andThen
    intro inner
    apply Yields.bind (yields_items nested)
    intro items all
    apply Yields.pure
    simp only [Item.isIdentified, identifier, areIdentified_of_phrases all, Bool.and_self]

theorem identifies_struct (attributes : List Attribute) (visibility : Visibility) :
    Identifies (rules.struct attributes visibility) := by
  apply Yields.andThen
  intro _
  apply Yields.andThen
  intro position
  apply Yields.bind yields_name
  intro name identifier
  apply Yields.andThen
  intro parameters
  apply Yields.andThen
  intro clause
  apply Yields.andThen
  intro before
  apply Yields.andThen
  intro tuple
  apply Yields.ite
  · intro _
    apply Yields.andThen
    intro fields
    apply Yields.andThen
    intro after
    apply Yields.andThen
    intro _
    exact .pure identifier
  · intro _
    apply Yields.andThen
    intro record
    apply Yields.ite
    · intro _
      apply Yields.andThen
      intro fields
      exact .pure identifier
    · intro _
      apply Yields.andThen
      intro _
      exact .pure identifier

theorem yields_signature (foreign : Bool) :
    Yields (rules.signature foreign) fun head => head.method.name.isIdentifier = true := by
  apply Yields.andThen
  rintro ⟨words, safe⟩
  apply Yields.andThen
  intro _
  apply Yields.andThen
  intro position
  apply Yields.bind yields_name
  intro name identifier
  apply Yields.andThen
  intro parameters
  apply Yields.andThen
  rintro ⟨inputs, trailing, variadic⟩
  apply Yields.andThen
  intro output
  apply Yields.andThen
  intro predicates
  exact .pure identifier

theorem yields_typeDeclaration (place : ClausePlace) :
    Yields (rules.typeDeclaration place) fun declared => declared.name.isIdentifier = true := by
  apply Yields.andThen
  intro _
  apply Yields.bind yields_name
  intro name identifier
  repeat' first
    | exact .pure identifier
    | apply Yields.andThen; intro _
    | apply Yields.ite <;> intro _

theorem yields_constantDeclaration :
    Yields rules.constantDeclaration fun declared => declared.name.isIdentifier = true := by
  apply Yields.andThen
  intro _
  apply Yields.bind (yields_nameOr (by decide))
  intro name identifier
  repeat' first
    | exact .pure identifier
    | apply Yields.andThen; intro _
    | apply Yields.ite <;> intro _

theorem yields_trait (attributes visibility : Phrase) :
    Yields (rules.trait attributes visibility) fun declared =>
      declared.1.isIdentifier = true := by
  apply Yields.andThen
  intro plain
  apply Yields.andThen
  intro unchecked
  apply Yields.andThen
  intro automatic
  apply Yields.andThen
  intro _
  apply Yields.bind yields_name
  intro name identifier
  repeat' first
    | exact .pure identifier
    | apply Yields.andThen; intro _
    | apply Yields.ite <;> intro _

theorem identifies_function (before : List Tree) (attributes visibility : Phrase) :
    Identifies (rules.function before attributes visibility) := by
  apply Yields.bind (yields_signature false)
  intro head identifier
  apply Yields.andThen
  intro body
  cases body with
  | some body => exact .pure identifier
  | none => exact .andThen fun _ => .pure rfl

theorem identifies_static (before : List Tree) (attributes visibility : Phrase) :
    Identifies (rules.static before attributes visibility) := by
  apply Yields.andThen
  intro _
  apply Yields.andThen
  intro mutable
  apply Yields.bind yields_name
  intro name identifier
  repeat' first
    | exact .pure identifier
    | exact .pure rfl
    | apply Yields.andThen; intro _
    | apply Yields.ite <;> intro _

theorem identifies_constant (before : List Tree) (attributes visibility : Phrase) :
    Identifies (rules.constant before attributes visibility) := by
  apply Yields.bind yields_constantDeclaration
  intro declared identifier
  split
  · exact .pure identifier
  · exact .andThen fun _ => .pure rfl

theorem identifies_typeAlias (before : List Tree) (attributes visibility : Phrase) :
    Identifies (rules.typeAlias before attributes visibility) := by
  apply Yields.bind (yields_typeDeclaration _)
  intro declared identifier
  split
  · exact .pure identifier
  · exact .andThen fun _ => .pure rfl

theorem identifies_enumeration (attributes visibility : Phrase) :
    Identifies (rules.enumeration attributes visibility) := by
  apply Yields.andThen
  intro _
  apply Yields.bind yields_name
  intro name identifier
  apply Yields.andThen
  intro parameters
  apply Yields.andThen
  intro predicates
  apply Yields.andThen
  rintro ⟨variants, trailing⟩
  exact .pure identifier

theorem identifies_union (attributes visibility : Phrase) :
    Identifies (rules.union attributes visibility) := by
  apply Yields.andThen
  intro _
  apply Yields.bind yields_name
  intro name identifier
  apply Yields.andThen
  intro parameters
  apply Yields.andThen
  intro predicates
  apply Yields.andThen
  rintro ⟨fields, trailing⟩
  exact .pure identifier

theorem identifies_invocationItem (attributes : Phrase) :
    Identifies (invocationItem attributes) := by
  apply Yields.andThen
  intro path
  apply Yields.andThen
  intro _
  apply Yields.andThen
  intro named
  have ofSome : Yields (some <$> nameOr "try") fun name =>
      ∀ written, name = some written → written.isIdentifier = true := by
    apply Yields.map (yields_nameOr (by decide))
    rintro name identifier written ⟨⟩
    exact identifier
  have ofNone : Yields (pure none : Parser (Option Name)) fun name =>
      ∀ written, name = some written → written.isIdentifier = true := by
    apply Yields.pure
    intro written same
    cases same
  apply Yields.iteBind ofSome ofNone
  intro name identifier
  apply Yields.andThen
  rintro ⟨delimiter, content⟩
  cases name with
  | some written =>
    have declared := identifier written rfl
    repeat' first
      | exact .pure declared
      | apply Yields.andThen; intro _
      | apply Yields.ite <;> intro _
  | none =>
    repeat' first
      | exact .pure rfl
      | apply Yields.andThen; intro _
      | apply Yields.ite <;> intro _

/-- Every way through these rules ends in an item that declares nothing of its own. -/
theorem identifies_others (rules : Rules) (before : List Tree) (attributes visibility : Phrase)
    (visible : Bool) :
    Identifies (useDeclaration before attributes visibility) ∧
      Identifies (externalCrate attributes visibility) ∧
      Identifies (rules.implementation before attributes visible) ∧
      Identifies (tokenDefinition before) := by
  refine ⟨?_, ?_, ?_, ?_⟩
  all_goals
    repeat' first
      | exact .pure rfl
      | apply Yields.andThen; intro _
      | apply Yields.ite <;> intro _
      | apply Yields.inside
      | split

theorem identifies_itemRule
    (nested : ∀ before attributes, Identifies (rules.item before attributes))
    (before : List Tree) (attributes : List Attribute) :
    Identifies (rules.itemRule before attributes) := by
  apply Yields.andThen
  intro visible
  apply Yields.andThen
  intro visibility
  apply Yields.andThen
  intro trees
  obtain ⟨use, crate, implementation, tokens⟩ :=
    identifies_others rules before (attributesPhrase attributes) visibility.phrase visible
  refine .ite (fun _ => identifies_function before _ _) fun _ => ?_
  refine .ite (fun _ => .ite (fun _ => crate) fun _ => ?_) fun _ => ?_
  · exact .andThen fun _ => .andThen fun _ => .pure rfl
  refine .ite (fun _ => use) fun _ => ?_
  refine .ite (fun _ => identifies_static before _ _) fun _ => ?_
  refine .ite (fun _ => identifies_constant before _ _) fun _ => ?_
  refine .ite (fun _ => identifies_module nested attributes visibility) fun _ => ?_
  refine .ite (fun _ => identifies_typeAlias before _ _) fun _ => ?_
  refine .ite (fun _ => identifies_struct attributes visibility) fun _ => ?_
  refine .ite (fun _ => identifies_enumeration _ _) fun _ => ?_
  refine .ite (fun _ => identifies_union _ _) fun _ => ?_
  refine .ite (fun _ => .bind (yields_trait _ _) fun declared identifier => .pure identifier)
    fun _ => ?_
  refine .ite (fun _ => implementation) fun _ => ?_
  refine .ite (fun _ => .andThen fun _ => .andThen fun _ => .pure rfl) fun _ => ?_
  refine .ite (fun _ => tokens) fun _ => ?_
  exact .andThen fun _ => identifies_invocationItem _

theorem identifies_item (depth : Nat) (before : List Tree) (attributes : List Attribute) :
    Identifies ((level depth).item before attributes) := by
  induction depth generalizing before attributes with
  | zero => exact .failure
  | succ depth induction => exact identifies_itemRule induction before attributes

end Rules

/-- All items of a source declare identifiers. -/
theorem areIdentified_of_parseFile? {source : String} {items : List Item}
    (parsed : parseFile? source = some items) : Item.areIdentified items = true := by
  obtain ⟨trees, -, parsed⟩ := Option.bind_eq_some_iff.mp parsed
  have yields (rules : Rules)
      (nested : ∀ before attributes, Rules.Identifies (rules.item before attributes)) :
      Parser.Yields (do
        discard rules.innerAttributes
        return (← rules.items).map ItemPhrase.item) fun items =>
          Item.areIdentified items = true := by
    apply Parser.Yields.andThen
    intro _
    apply Parser.Yields.bind (Rules.yields_items nested)
    intro phrases all
    exact .pure (Rules.areIdentified_of_phrases all)
  rw [parseTrees?, Parser.parseAll?] at parsed
  split at parsed
  · rename_i found
    cases parsed
    exact (yields _ (Rules.identifies_item _)).of_run found
  · cases parsed

end Wireform.Syntax
