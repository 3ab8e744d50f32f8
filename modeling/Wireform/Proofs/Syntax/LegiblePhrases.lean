import Wireform.Proofs.Syntax.Nesting
import Wireform.Proofs.Syntax.TokenText
import Wireform.Syntax.Phrase.Item

/-! # Legible phrases

Phrases are put together from smaller ones by writing one after another, so what holds of all tokens
of the parts holds of the whole. Of a phrase it is asked that its tokens can be told by their text;
of what stands in angle brackets also that it ends only where it is seen to end. -/

namespace Wireform.Syntax

open Wireform.Text

/-! ## Data made of tokens -/

/-- Data that is read from tokens. -/
class Legible (α : Type) where
  /-- Whether everything in it can be told by its text. -/
  legible : α → Prop

export Legible (legible)

/-- Data of which nothing is asked. -/
class Unread (α : Type) : Prop

instance instLegibleUnread {α : Type} [Unread α] : Legible α := ⟨fun _ => True⟩

instance : Unread Unit := ⟨⟩
instance : Unread Bool := ⟨⟩
instance : Unread Nat := ⟨⟩
instance : Unread Position := ⟨⟩
instance : Unread Delimiter := ⟨⟩

instance : Legible Tree := ⟨Tree.Legible⟩
instance : Legible Name := ⟨fun name => isIdentifierText name.text.toList = true⟩

/-- A text that is written as a word. -/
instance : Legible String := ⟨fun text => isIdentifierText text.toList = true⟩

@[simp]
theorem legible_unread {α : Type} [Unread α] (value : α) : legible value := trivial

section Containers

variable {α β : Type} [Legible α] [Legible β]

instance : Legible (List α) := ⟨fun list => ∀ value ∈ list, legible value⟩
instance : Legible (Option α) := ⟨fun option => ∀ value ∈ option, legible value⟩
instance : Legible (α × β) := ⟨fun pair => legible pair.1 ∧ legible pair.2⟩

@[simp]
theorem legible_pair {pair : α × β} : legible pair ↔ legible pair.1 ∧ legible pair.2 := Iff.rfl

@[simp]
theorem legible_none : legible (none : Option α) := by simp [legible]

@[simp]
theorem legible_some {value : α} : legible (some value) ↔ legible value := by simp [legible]

@[simp]
theorem legible_nil : legible ([] : List α) := List.forall_mem_nil _

@[simp]
theorem legible_cons {head : α} {tail : List α} :
    legible (head :: tail) ↔ legible head ∧ legible tail := List.forall_mem_cons

@[simp]
theorem legible_list_append {list others : List α} :
    legible (list ++ others) ↔ legible list ∧ legible others := List.forall_mem_append

@[simp]
theorem legible_ite {condition : Prop} [Decidable condition] {value other : α}
    (yes : legible value) (no : legible other) :
    legible (if condition then value else other) := by
  split
  · exact yes
  · exact no

theorem legible_of_mem {list : List α} (all : legible list) {value : α} (among : value ∈ list) :
    legible value := all value among

theorem legible_of_subset {list others : List α} (subset : list ⊆ others) (all : legible others) :
    legible list := fun value among => all value (subset among)

theorem legible_map {change : α → β} (each : ∀ value, legible value → legible (change value))
    {list : List α} (all : legible list) : legible (list.map change) := by
  intro value among
  obtain ⟨source, isSource, rfl⟩ := List.mem_map.mp among
  exact each source (all source isSource)

end Containers

/-! ## Words and operators -/

/-- The words that phrases are put together with. -/
@[simp]
theorem legible_words : legible "Self" ∧ legible "_" ∧ legible "as" ∧ legible "async" ∧
    legible "auto" ∧ legible "await" ∧ legible "become" ∧ legible "box" ∧ legible "break" ∧
    legible "builtin" ∧ legible "const" ∧ legible "continue" ∧ legible "crate" ∧ legible "default" ∧
    legible "dyn" ∧ legible "else" ∧ legible "enum" ∧ legible "extern" ∧ legible "false" ∧
    legible "fn" ∧ legible "for" ∧ legible "if" ∧ legible "impl" ∧ legible "in" ∧ legible "let" ∧
    legible "loop" ∧ legible "macro" ∧ legible "match" ∧ legible "mod" ∧ legible "move" ∧
    legible "mut" ∧ legible "pub" ∧ legible "raw" ∧ legible "ref" ∧ legible "return" ∧
    legible "safe" ∧ legible "self" ∧ legible "static" ∧ legible "struct" ∧ legible "trait" ∧
    legible "true" ∧ legible "try" ∧ legible "type" ∧ legible "union" ∧ legible "unsafe" ∧
    legible "use" ∧ legible "where" ∧ legible "while" ∧ legible "yield" := by
  and_intros <;> (change isIdentifierText (String.toList _) = true; decide)

/-- An operator that has no part in angle brackets. -/
structure IsPlainOperator (symbols : String) : Prop where
  legible : legible (Tree.ofOperator symbols)
  plain : ∀ tree ∈ Tree.ofOperator symbols, tree.isPlain = true

theorem legible_ofOperator {symbols : String}
    (marks : (symbols.toList.all fun symbol =>
      markCharacters.contains symbol && symbol != '\'') = true) :
    legible (Tree.ofOperator symbols) := by
  simp only [List.all_eq_true, Bool.and_eq_true, List.contains_iff_mem, bne_iff_ne] at marks
  rw [Tree.ofOperator]
  generalize symbols.toList = letters at marks
  induction letters with
  | nil => exact legible_nil
  | cons first rest ih =>
    obtain ⟨⟨isMark, noQuote⟩, restMarks⟩ := List.forall_mem_cons.mp marks
    cases rest with
    | nil => exact legible_cons.mpr ⟨.mark isMark noQuote false .start, legible_nil⟩
    | cons next rest => exact legible_cons.mpr ⟨.mark isMark noQuote true .start, ih restMarks⟩

@[simp]
theorem isPlainOperator_all : IsPlainOperator "!" ∧ IsPlainOperator "#" ∧ IsPlainOperator "&" ∧
    IsPlainOperator "*" ∧ IsPlainOperator "+" ∧ IsPlainOperator "-" ∧ IsPlainOperator "." ∧
    IsPlainOperator ".." ∧ IsPlainOperator "..." ∧ IsPlainOperator ":" ∧ IsPlainOperator "::" ∧
    IsPlainOperator ";" ∧ IsPlainOperator "?" ∧ IsPlainOperator "@" ∧ IsPlainOperator "|" := by
  and_intros <;> exact ⟨legible_ofOperator (by decide), by decide⟩

/-- The operators that phrases are put together with. -/
@[simp]
theorem legible_operators : legible (Tree.ofOperator "!") ∧ legible (Tree.ofOperator "#") ∧
    legible (Tree.ofOperator "&") ∧ legible (Tree.ofOperator "*") ∧ legible (Tree.ofOperator "+") ∧
    legible (Tree.ofOperator ",") ∧ legible (Tree.ofOperator "-") ∧ legible (Tree.ofOperator "->") ∧
    legible (Tree.ofOperator ".") ∧ legible (Tree.ofOperator "..") ∧
    legible (Tree.ofOperator "...") ∧ legible (Tree.ofOperator "..=") ∧
    legible (Tree.ofOperator ":") ∧ legible (Tree.ofOperator "::") ∧ legible (Tree.ofOperator ";") ∧
    legible (Tree.ofOperator "<") ∧ legible (Tree.ofOperator "=") ∧ legible (Tree.ofOperator "=>") ∧
    legible (Tree.ofOperator ">") ∧ legible (Tree.ofOperator "?") ∧ legible (Tree.ofOperator "@") ∧
    legible (Tree.ofOperator "|") := by
  and_intros <;> exact legible_ofOperator (by decide)

/-! ## Properties of tokens -/

/-- A property that tokens have together if they have it one after another. -/
class TokenProperty (holds : List Tree → Prop) : Prop where
  append {trees others : List Tree} : holds trees → holds others → holds (trees ++ others)
  plain {trees : List Tree} : legible trees → (∀ tree ∈ trees, tree.isPlain = true) → holds trees

/-- Tokens that stand outside angle brackets. -/
structure Whole (trees : List Tree) : Prop where
  legible : legible trees
  closed : Closed trees

/-- Tokens that stand inside angle brackets. -/
structure Inner (trees : List Tree) : Prop where
  legible : legible trees
  enclosed : Enclosed trees

theorem Whole.inner {trees : List Tree} (whole : Whole trees) : Inner trees :=
  ⟨whole.legible, whole.closed.enclosed⟩

instance : TokenProperty legible where
  append all othersAll := legible_list_append.mpr ⟨all, othersAll⟩
  plain all _ := all

instance : TokenProperty Whole where
  append whole othersWhole :=
    ⟨legible_list_append.mpr ⟨whole.legible, othersWhole.legible⟩,
      whole.closed.append othersWhole.closed⟩
  plain all plain := ⟨all, closed_of_isPlain plain⟩

instance : TokenProperty Inner where
  append inner othersInner :=
    ⟨legible_list_append.mpr ⟨inner.legible, othersInner.legible⟩,
      inner.enclosed.append othersInner.enclosed⟩
  plain all plain := ⟨all, (closed_of_isPlain plain).enclosed⟩

/-! ## Phrases -/

namespace Phrase

/-- Whether the tokens of the phrase have the property. -/
def Has (holds : List Tree → Prop) (phrase : Phrase) : Prop := holds phrase.tokens

def AllHave (holds : List Tree → Prop) (phrases : List Phrase) : Prop :=
  ∀ phrase ∈ phrases, phrase.Has holds

instance : Legible Phrase := ⟨Has legible⟩

theorem legible_iff {phrase : Phrase} : legible phrase ↔ phrase.Has legible := Iff.rfl

theorem legible_of_whole {phrase : Phrase} (whole : phrase.Has Whole) : legible phrase :=
  whole.legible

theorem inner_of_whole {phrase : Phrase} (whole : phrase.Has Whole) : phrase.Has Inner :=
  Whole.inner whole

theorem legible_of_inner {phrase : Phrase} (inner : phrase.Has Inner) : legible phrase :=
  inner.legible

section Properties

variable {holds : List Tree → Prop} {phrase other content : Phrase} {phrases : List Phrase}

@[simp]
theorem allHave_nil : AllHave holds [] := List.forall_mem_nil _

@[simp]
theorem allHave_cons : AllHave holds (phrase :: phrases) ↔
    phrase.Has holds ∧ AllHave holds phrases := List.forall_mem_cons

@[simp]
theorem has_stack {shift : Int} : (stack shift content).Has holds ↔ content.Has holds := Iff.rfl

@[simp]
theorem has_fill {shift : Int} : (fill shift content).Has holds ↔ content.Has holds := Iff.rfl

@[simp]
theorem has_closing : (closing content).Has holds ↔ content.Has holds := Iff.rfl

variable [TokenProperty holds]

theorem has_of_isPlain (readable : legible phrase.tokens)
    (plain : ∀ tree ∈ phrase.tokens, tree.isPlain = true) : phrase.Has holds :=
  TokenProperty.plain readable plain

@[simp]
theorem has_shown (layout : List Doc) : (shown layout).Has holds :=
  has_of_isPlain legible_nil (List.forall_mem_nil _)

@[simp]
theorem has_empty : empty.Has holds := has_shown []

@[simp]
theorem has_gap (between : Gap) : (gap between).Has holds := has_shown _

@[simp]
theorem has_blank : blank.Has holds := has_shown _

@[simp]
theorem has_ofName {name : Name} (identifier : legible name) : (ofName name).Has holds :=
  has_of_isPlain (legible_cons.mpr ⟨.word identifier .start, legible_nil⟩)
    (by simp [ofName, Tree.isPlain])

@[simp]
theorem has_word {text : String} (identifier : legible text) : (word text).Has holds :=
  has_ofName (show legible (Name.plain text) from identifier)

@[simp]
theorem has_spacedWord {text : String} (identifier : legible text) :
    (spacedWord text).Has holds := has_word identifier

@[simp]
theorem has_ofLifetime {name : Name} (identifier : legible name) : (ofLifetime name).Has holds :=
  has_of_isPlain (legible_cons.mpr ⟨.lifetime identifier .start .start, legible_nil⟩)
    (by simp [ofLifetime, Tree.isPlain])

@[simp]
theorem has_mark {symbols : String} (plain : IsPlainOperator symbols) : (mark symbols).Has holds :=
  has_of_isPlain plain.legible plain.plain

@[simp]
theorem has_spacedMark {symbols spelling : String} (plain : IsPlainOperator symbols) :
    (spacedMark symbols spelling).Has holds := has_mark plain

@[simp]
theorem has_append (first : phrase.Has holds) (second : other.Has holds) :
    (phrase ++ other).Has holds := TokenProperty.append first second

omit [TokenProperty holds] in
@[simp]
theorem has_ite {condition : Prop} [Decidable condition] (yes : phrase.Has holds)
    (no : other.Has holds) : (if condition then phrase else other).Has holds := by
  split
  · exact yes
  · exact no

@[simp]
theorem has_concat (all : AllHave holds phrases) : (concat phrases).Has holds := by
  induction phrases with
  | nil => exact has_empty
  | cons head tail ih =>
    obtain ⟨first, rest⟩ := allHave_cons.mp all
    have whole : (head ++ concat tail).Has holds := has_append first (ih rest)
    exact whole

@[simp]
theorem has_group {delimiter : Delimiter} (inner : legible content) :
    (group delimiter content).Has holds :=
  has_of_isPlain (legible_cons.mpr ⟨.group delimiter inner .start, legible_nil⟩)
    (by simp [group, Tree.isPlain])

@[simp]
theorem has_inParentheses (inner : legible content) : (inParentheses content).Has holds :=
  has_group inner

@[simp]
theorem has_inBrackets (inner : legible content) : (inBrackets content).Has holds :=
  has_group inner

@[simp]
theorem has_joined {between : Phrase} (separator : between.Has holds) (all : AllHave holds phrases) :
    (joined between phrases).Has holds := by
  induction phrases with
  | nil => exact has_empty
  | cons head tail ih =>
    obtain ⟨first, rest⟩ := allHave_cons.mp all
    cases tail with
    | nil => exact first
    | cons next tail => exact has_concat (by simp [first, separator, ih rest])

@[simp]
theorem has_trailingMark {symbols : String} {trailing : Bool} (written : (mark symbols).Has holds) :
    (trailingMark symbols trailing).Has holds := by
  cases trailing with
  | true => exact written
  | false => exact has_empty

@[simp]
theorem has_plusSeparated {trailing : Bool} (all : AllHave holds phrases) :
    (plusSeparated phrases trailing).Has holds := by
  have plus : IsPlainOperator "+" := by simp [isPlainOperator_all]
  exact has_append (has_joined (has_spacedMark plus) all) (has_trailingMark (has_mark plus))

@[simp]
theorem has_brokenPlusSeparated {trailing : Bool} (all : AllHave holds phrases) :
    (brokenPlusSeparated phrases trailing).Has holds := by
  have plus : IsPlainOperator "+" := by simp [isPlainOperator_all]
  exact has_append (has_joined (has_append (has_gap _) (has_spacedMark plus)) all)
    (has_trailingMark (has_mark plus))

@[simp]
theorem has_commaSeparated {last : Gap} {trailing : Bool} (comma : (mark ",").Has holds)
    (all : AllHave holds phrases) : (commaSeparated last trailing phrases).Has holds := by
  induction phrases with
  | nil => exact has_empty
  | cons head tail ih =>
    obtain ⟨first, rest⟩ := allHave_cons.mp all
    cases tail with
    | nil => exact has_concat (by simp [first, has_trailingMark comma])
    | cons next tail => exact has_concat (by simp [first, comma, ih rest])

@[simp]
theorem has_items {shift : Int} {trailing : Bool} (comma : (mark ",").Has holds)
    (all : AllHave holds phrases) : (items shift phrases trailing).Has holds :=
  has_append (has_gap _) (has_commaSeparated comma all)

end Properties

/-! ## Legible phrases -/

section Legible

variable {phrase other content : Phrase} {phrases : List Phrase}

@[simp]
theorem legible_shown (layout : List Doc) : legible (shown layout) := has_shown layout

@[simp]
theorem legible_empty : legible empty := has_empty

@[simp]
theorem legible_gap (between : Gap) : legible (gap between) := has_gap between

@[simp]
theorem legible_blank : legible blank := has_blank

@[simp]
theorem legible_lineEnd : legible lineEnd := has_gap _

@[simp]
theorem legible_unseen {tokens : List Tree} : legible (unseen tokens) ↔ legible tokens := Iff.rfl

@[simp]
theorem legible_unprintable {tokens : List Tree} :
    legible (unprintable tokens) ↔ legible tokens := Iff.rfl

@[simp]
theorem legible_ofName {name : Name} : legible (ofName name) ↔ legible name := by
  constructor
  · intro all
    cases (legible_cons.mp all).1 with
    | word identifier _ => exact identifier
  · exact has_ofName

@[simp]
theorem legible_word {text : String} : legible (word text) ↔ legible text := legible_ofName

@[simp]
theorem legible_spacedWord {text : String} : legible (spacedWord text) ↔ legible text :=
  legible_ofName

@[simp]
theorem legible_ofLifetime {name : Name} : legible (ofLifetime name) ↔ legible name := by
  constructor
  · intro all
    cases (legible_cons.mp all).1 with
    | lifetime identifier _ _ => exact identifier
  · exact has_ofLifetime

@[simp]
theorem legible_mark {symbols : String} :
    legible (mark symbols) ↔ legible (Tree.ofOperator symbols) := Iff.rfl

@[simp]
theorem legible_spacedMark {symbols spelling : String} :
    legible (spacedMark symbols spelling) ↔ legible (Tree.ofOperator symbols) := Iff.rfl

@[simp]
theorem legible_append : legible (phrase ++ other) ↔ legible phrase ∧ legible other :=
  legible_list_append

@[simp]
theorem legible_concat : legible (concat phrases) ↔ legible phrases := by
  constructor
  · intro all phrase among tree isToken
    exact all tree (List.mem_flatMap.mpr ⟨phrase, among, isToken⟩)
  · exact has_concat

@[simp]
theorem legible_stack {shift : Int} : legible (stack shift content) ↔ legible content := Iff.rfl

@[simp]
theorem legible_fill {shift : Int} : legible (fill shift content) ↔ legible content := Iff.rfl

@[simp]
theorem legible_closing : legible (closing content) ↔ legible content := Iff.rfl

@[simp]
theorem legible_group {delimiter : Delimiter} :
    legible (group delimiter content) ↔ legible content := by
  constructor
  · intro all
    cases (legible_cons.mp all).1 with
    | group _ inner => exact inner
  · exact has_group

@[simp]
theorem legible_inParentheses : legible (inParentheses content) ↔ legible content := legible_group

@[simp]
theorem legible_inBrackets : legible (inBrackets content) ↔ legible content := legible_group

@[simp]
theorem legible_inBraces : legible (inBraces content) ↔ legible content := legible_group

@[simp]
theorem legible_ofOption {option : Option Phrase} :
    legible (ofOption option) ↔ legible option := by
  cases option <;> simp [ofOption]

@[simp]
theorem legible_joined {between : Phrase} (separator : legible between) (all : legible phrases) :
    legible (joined between phrases) := has_joined separator all

@[simp]
theorem legible_trailingMark {symbols : String} {trailing : Bool}
    (written : legible (Tree.ofOperator symbols)) : legible (trailingMark symbols trailing) :=
  has_trailingMark written

@[simp]
theorem legible_plusSeparated {trailing : Bool} (all : legible phrases) :
    legible (plusSeparated phrases trailing) := has_plusSeparated all

@[simp]
theorem legible_brokenPlusSeparated {trailing : Bool} (all : legible phrases) :
    legible (brokenPlusSeparated phrases trailing) := has_brokenPlusSeparated all

@[simp]
theorem legible_commaSeparated {last : Gap} {trailing : Bool} (all : legible phrases) :
    legible (commaSeparated last trailing phrases) :=
  has_commaSeparated (by simp [← legible_iff]) all

@[simp]
theorem legible_items {shift : Int} {trailing : Bool} (all : legible phrases) :
    legible (items shift phrases trailing) := has_items (by simp [← legible_iff]) all

@[simp]
theorem legible_single : legible (single phrase) ↔ legible phrase := by simp [single]

end Legible

end Phrase

end Wireform.Syntax
