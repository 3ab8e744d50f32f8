import Mathlib
import Wireform.Proofs.Syntax.LegibleItems
import Wireform.Syntax.Grammar.Type

/-! # Legible readings

What rules read from trees that can be told by their text can be told by its text. Each rule keeps to
that as long as those that it calls do. -/

namespace Wireform.Syntax

open Std.Do Wireform.Text Phrase

set_option mvcgen.warning false

section Containers

variable {α : Type} [Legible α] {list : List α}

theorem legible_getLast? (all : legible list) {last : α} (isLast : list.getLast? = some last) :
    legible last := legible_of_mem all (List.mem_of_getLast? isLast)

@[simp]
theorem legible_or {option other : Option α} (all : legible option) (otherAll : legible other) :
    legible (option.or other) := by
  cases option with
  | none => exact otherAll
  | some value => exact all

@[simp]
theorem legible_reorder {first : α → Bool} {trailing : Bool} (all : legible list) :
    legible (Rules.reorder first list trailing).1 := by
  simp only [Rules.reorder, List.partition_eq_filter_filter, legible_list_append]
  exact ⟨legible_of_subset List.filter_sublist.subset all,
    legible_of_subset List.filter_sublist.subset all⟩

end Containers

/-! ## Single trees -/

@[simp]
theorem legible_groupTree {delimiter : Delimiter} {content : List Tree} {position : Position} :
    legible (Tree.group delimiter content position) ↔ legible content := by
  constructor
  · rintro (_ | _ | _ | _ | _ | ⟨_, all, _⟩)
    exact all
  · intro all
    exact .group delimiter all position

@[simp]
theorem legible_settledAll {trees : List Tree} (all : legible trees) :
    legible (Tree.settledAll trees) := Tree.legible_settledAll trees all

section Literals

variable {token : Literal} {position : Position}

theorem readsBack_of_legible (all : legible (Tree.literal token position)) : token.ReadsBack := by
  rcases all with _ | _ | ⟨readsBack, _⟩
  exact readsBack

theorem legible_literalToken (all : legible (Tree.literal token position)) : legible token := by
  obtain ⟨kind, spelling⟩ := token
  have readsBack := readsBack_of_legible all
  rw [← legible_ofLiteral, ofLiteral]
  dsimp only
  split
  · rename_i rest begins
    have measured := readsBack [] (by simp [Breaks])
    rw [List.append_nil] at measured
    simp only [begins] at measured
    rw [literalLength_eq_none (by decide) (by decide)] at measured
    cases measured
  · exact legible_cons.mpr ⟨.literal readsBack .start, legible_nil⟩

theorem legible_negative (all : legible (Tree.literal token position)) :
    legible (⟨token.kind, "-" ++ token.spelling⟩ : Literal) := by
  have letters : ("-" ++ token.spelling).toList = '-' :: token.spelling.toList :=
    String.toList_append
  have tokens : (ofLiteral ⟨token.kind, "-" ++ token.spelling⟩).tokens =
      [.mark '-' false .start, .literal token .start] := by
    simp only [ofLiteral, letters, String.ofList_toList]
  show ∀ tree ∈ (ofLiteral _).tokens, tree.Legible
  rw [tokens]
  exact legible_cons.mpr ⟨.mark (by decide) (by decide) false .start,
    legible_cons.mpr ⟨.literal (readsBack_of_legible all) .start, legible_nil⟩⟩

end Literals

@[simp]
theorem isWord_const_of_isFree {name : Name} (free : name.isFree = true) :
    name.isWord "const" = false := by
  obtain ⟨raw, text⟩ := name
  cases raw with
  | true => rfl
  | false =>
    by_contra isWord
    obtain rfl : text = "const" := by simpa [Name.isWord] using isWord
    exact absurd free (by decide +kernel)

namespace Parser

variable {α : Type} {good : α → Prop}

/-- From trees that can be told by their text, the parser takes something good and leaves such
trees. -/
abbrev Gives (good : α → Prop) (parser : Parser α) : Prop :=
  ⦃fun trees => ⌜legible trees⌝⦄ parser ⦃⇓? value rest => ⌜good value ∧ legible rest⌝⦄

theorem gives_iff {parser : Parser α} : Gives good parser ↔ ∀ trees, legible trees →
    ∀ value rest, parser.run trees = some (value, rest) → good value ∧ legible rest := by
  constructor
  · intro gives trees all value rest run
    have both := gives trees all
    simp [WP.wp, StateT.run] at both run
    rw [run] at both
    exact both
  · intro each trees all
    cases run : parser.run trees with
    | none =>
      simp [WP.wp, run]
      trivial
    | some pair =>
      simp [WP.wp, run]
      exact each trees all pair.1 pair.2 run

theorem Gives.mono {better : α → Prop} {parser : Parser α} (gives : Gives good parser)
    (implies : ∀ value, good value → better value) : Gives better parser :=
  gives_iff.mpr fun trees all value rest run =>
    (gives_iff.mp gives trees all value rest run).imp_left (implies value)

@[spec]
theorem failure_spec : Gives good failure :=
  gives_iff.mpr fun _ _ _ _ run => by cases run

@[spec]
theorem peek_spec (ahead : List Tree → Bool) : Gives legible (peek ahead) := by
  mvcgen [peek]

@[spec]
theorem atEnd_spec : Gives legible atEnd := peek_spec _

@[spec]
theorem require_spec (condition : Bool) :
    Gives (fun _ => condition = true) (require condition) := by
  mvcgen [require]

@[spec]
theorem discard_spec [Legible α] {parser : Parser α} (gives : Gives legible parser) :
    Gives (fun _ => True) (discard parser) := by
  have same : discard parser = (fun _ => PUnit.unit) <$> parser :=
    congrFun (congrFun map_const _) parser
  rw [same]
  mvcgen [gives]
  all_goals simp_all

/-! ## Taking trees -/

@[spec]
theorem tree_spec : Gives legible tree := by
  mvcgen [tree]
  all_goals simp_all

@[spec]
theorem nameOf_spec (tree : Tree) : Gives legible (nameOf tree) := by
  mvcgen [nameOf]

@[spec]
theorem anyName_spec : Gives legible anyName := by
  mvcgen [anyName]
  all_goals simp_all

@[spec]
theorem name_spec : Gives (fun name => legible name ∧ name.isFree = true) name := by
  mvcgen [name]
  all_goals simp_all

@[spec]
theorem nameOr_spec (exception : String) : Gives legible (nameOr exception) := by
  mvcgen [nameOr]
  all_goals simp_all

@[spec]
theorem takesWord_spec (text : String) : Gives legible (takesWord text) := by
  mvcgen [takesWord]
  all_goals simp_all

@[spec]
theorem word_spec (text : String) : Gives legible (word text) := by
  mvcgen [word]
  all_goals simp_all

@[spec]
theorem takesMark_spec (operator : String) : Gives legible (takesMark operator) := by
  mvcgen [takesMark]
  all_goals simp_all
  exact legible_of_subset (List.drop_subset _ _) ‹_›

@[spec]
theorem mark_spec (operator : String) : Gives legible (mark operator) := by
  mvcgen [mark]
  all_goals simp_all

@[spec]
theorem lifetime_spec : Gives legible lifetime := by
  mvcgen [lifetime]
  all_goals simp_all

@[spec]
theorem optionalLifetime_spec : Gives legible optionalLifetime := by
  mvcgen [optionalLifetime]
  all_goals simp_all

theorem inside_gives (delimiter : Delimiter) {content : Parser α} (gives : Gives good content) :
    Gives good (inside delimiter content) := by
  mvcgen [inside]
  all_goals simp_all
  rename_i all run _
  exact (gives_iff.mp gives _ all.1 _ _ run).1

@[spec]
theorem inside_spec [Legible α] (delimiter : Delimiter) {content : Parser α}
    (gives : Gives legible content) : Gives legible (inside delimiter content) :=
  inside_gives delimiter gives

@[spec]
theorem everything_spec : Gives legible everything := by
  mvcgen [everything]
  all_goals simp_all

@[spec]
theorem anyGroup_spec : Gives legible anyGroup := by
  mvcgen [anyGroup]
  all_goals simp_all

theorem whole_truth (value : Bool) : (ExprPhrase.truth value).phrase.Has Whole := by
  cases value <;> exact has_word (by simp)

@[spec]
theorem literal_spec :
    Gives (fun expression => legible expression ∧ expression.phrase.Has Whole) literal := by
  mvcgen [literal]
  all_goals simp_all [whole_truth]
  · rename_i all
    exact ⟨legible_literalToken all.1, whole_ofLiteral (legible_literalToken all.1)⟩
  · rename_i all _ _ _
    exact ⟨legible_negative all.1, whole_ofLiteral (legible_negative all.1)⟩

@[spec]
theorem textLiteral_spec : Gives legible textLiteral := by
  mvcgen [textLiteral]
  all_goals simp_all
  rename_i all _ _ _
  exact legible_literalToken all.1

@[spec]
theorem tokensSince_spec {before : List Tree} (all : legible before) :
    Gives legible (tokensSince before) := by
  mvcgen [tokensSince]
  all_goals simp_all only [and_true]
  exact legible_map (fun _ => Tree.Legible.settled) (legible_of_subset (List.take_subset _ _) all)

theorem good_of_parseAll? {parser : Parser α} (gives : Gives good parser) {trees : List Tree}
    (all : legible trees) {value : α} (parsed : parseAll? parser trees = some value) :
    good value := by
  unfold parseAll? at parsed
  split at parsed
  · rename_i run
    obtain rfl := Option.some.inj parsed
    exact (gives_iff.mp gives trees all _ _ run).1
  · cases parsed

@[spec]
theorem position_spec : Gives legible position := by
  mvcgen [position]
  all_goals simp_all

/-! ## Repetition -/

theorem listUntil_gives {stop : List Tree → Bool} {separator : String} {item : Parser α}
    (gives : Gives good item) :
    Gives (fun pair => ∀ value ∈ pair.1, good value) (listUntil stop separator item) := by
  have round (rounds : Nat) (trailing : Bool) :
      Gives (fun pair => ∀ value ∈ pair.1, good value)
        (listUntil.go stop separator item rounds trailing) := by
    induction rounds generalizing trailing with
    | zero =>
      mvcgen [listUntil.go, gives]
      all_goals simp_all
    | succ rounds ih =>
      mvcgen [listUntil.go, gives, ih]
      all_goals simp_all
  mvcgen [listUntil, round]

section Repetition

variable [Legible α] {item : Parser α} (gives : Gives legible item)

include gives

@[spec]
theorem listUntil_spec {stop : List Tree → Bool} {separator : String} :
    Gives legible (listUntil stop separator item) :=
  (listUntil_gives gives).mono fun _ all => ⟨all, trivial⟩

@[spec]
theorem commaList_spec : Gives legible (commaList item) := listUntil_spec gives

@[spec]
theorem listWhile_spec {stop : List Tree → Bool} {separator : String} :
    Gives legible (listWhile stop separator item) := by
  have round (rounds : Nat) (trailing : Bool) :
      Gives legible (listWhile.go stop separator item rounds trailing) := by
    induction rounds generalizing trailing with
    | zero =>
      mvcgen [listWhile.go, gives]
      all_goals simp_all
    | succ rounds ih =>
      mvcgen [listWhile.go, gives, ih]
      all_goals simp_all
  mvcgen [listWhile, round]

@[spec]
theorem manyWhile_spec {more : List Tree → Bool} : Gives legible (manyWhile more item) := by
  have round (rounds : Nat) : Gives legible (manyWhile.go more item rounds) := by
    induction rounds with
    | zero =>
      mvcgen [manyWhile.go]
      all_goals simp_all
    | succ rounds ih =>
      mvcgen [manyWhile.go, gives, ih]
      all_goals simp_all
  mvcgen [manyWhile, round]

@[spec]
theorem untilEnd_spec : Gives legible (untilEnd item) := by
  mvcgen [untilEnd, gives]
  all_goals simp_all

end Repetition

@[simp]
theorem legible_plain {name : Name} (identifier : legible name) : legible (Segment.plain name) :=
  ⟨identifier, legible_noArguments⟩

@[simp]
theorem legible_ofName {name : Name} (identifier : legible name) : legible (Path.ofName name) :=
  legible_cons.mpr ⟨legible_plain identifier, legible_nil⟩

@[spec]
theorem modulePath_spec : Gives legible modulePath := by
  mvcgen [modulePath]
  all_goals simp_all
  exact legible_map (fun _ => legible_plain) (by simp_all)

end Parser

/-- Rules that read nothing that could not be told by its text. -/
class Rules.ReadLegibly (rules : Rules) : Prop where
  type (plus : Bool) : Parser.Gives legible (rules.type plus)
  bound (capture constant : Bool) : Parser.Gives legible (rules.bound capture constant)
  operand (braces : Bool) : Parser.Gives legible (rules.operand braces)
  continued (braces : Bool) (strength : Nat) {first : ExprPhrase} (all : legible first) :
    Parser.Gives legible (rules.continued braces strength first)
  bounded {attributes : Phrase} (all : legible attributes) :
    Parser.Gives legible (rules.bounded attributes)
  pattern : Parser.Gives legible rules.pattern
  statements : Parser.Gives legible rules.statements
  item {before : List Tree} {attributes : List Attribute} (beforeAll : legible before)
    (all : legible attributes) : Parser.Gives legible (rules.item before attributes)

attribute [spec] Rules.ReadLegibly.type Rules.ReadLegibly.bound Rules.ReadLegibly.operand
  Rules.ReadLegibly.continued Rules.ReadLegibly.bounded Rules.ReadLegibly.pattern
  Rules.ReadLegibly.statements Rules.ReadLegibly.item

namespace Rules

open Wireform.Syntax.Parser

variable {rules : Rules} [rules.ReadLegibly]

@[spec]
theorem expression_spec (braces : Bool) : Gives legible (rules.expression braces) := by
  mvcgen [Rules.expression]
  all_goals simp_all

/-! ## Attributes and blocks -/

@[spec]
theorem attributeValue_spec : Gives legible rules.attributeValue := by
  mvcgen [Rules.attributeValue]
  all_goals simp_all
  rename_i all _ run
  exact (gives_iff.mp literal_spec _ all _ _ run).1.1

@[spec]
theorem attributeBody_spec (inner : Bool) : Gives legible (rules.attributeBody inner) := by
  mvcgen [Rules.attributeBody]
  all_goals simp_all

@[spec]
theorem outerAttribute_spec : Gives legible rules.outerAttribute := by
  mvcgen [Rules.outerAttribute]
  all_goals simp_all

@[spec]
theorem outerAttributes_spec : Gives legible rules.outerAttributes :=
  manyWhile_spec outerAttribute_spec

@[spec]
theorem outerPhrase_spec :
    Gives (fun phrase => AttributeTokens phrase.tokens ∧ legible phrase) rules.outerPhrase := by
  mvcgen [Rules.outerPhrase]
  all_goals simp_all [attributeTokens_attributesPhrase]

@[spec]
theorem innerAttribute_spec : Gives legible rules.innerAttribute := by
  mvcgen [Rules.innerAttribute]
  all_goals simp_all

@[spec]
theorem innerAttributes_spec : Gives legible rules.innerAttributes :=
  manyWhile_spec innerAttribute_spec

@[spec]
theorem innerPhrase_spec : Gives legible rules.innerPhrase := by
  mvcgen [Rules.innerPhrase]
  all_goals simp_all

@[spec]
theorem block_spec : Gives legible rules.block := by
  mvcgen [Rules.block]
  all_goals simp_all

@[spec]
theorem attributedBlock_spec : Gives legible rules.attributedBlock := by
  mvcgen [Rules.attributedBlock]
  all_goals simp_all

/-! ## Arguments and paths -/

@[simp]
theorem whole_block {block : Block} (all : legible block) :
    (ExprPhrase.block none block).phrase.Has Whole := by
  obtain ⟨content, small⟩ : ∃ content, block.small = inBraces content := by
    unfold Block.small
    split
    · exact ⟨_, rfl⟩
    · exact ⟨_, rfl⟩
  have written := Block.legible_small all
  refine has_append has_empty (has_stack.mpr ?_)
  rw [small] at written ⊢
  exact has_group (legible_inBraces.mp written)

@[spec]
theorem constantArgument_spec : Gives (Phrase.Has Whole) rules.constantArgument := by
  mvcgen [Rules.constantArgument]
  all_goals simp_all

@[spec]
theorem argument_spec : Gives legible rules.argument := by
  mvcgen [Rules.argument]
  all_goals simp_all

@[spec]
theorem angledArguments_spec : Gives legible rules.angledArguments := by
  mvcgen [Rules.angledArguments]
  all_goals simp_all

@[spec]
theorem output_spec (plus : Bool) : Gives legible (rules.output plus) := by
  mvcgen [Rules.output]
  all_goals simp_all

@[spec]
theorem calledArguments_spec : Gives legible rules.calledArguments := by
  mvcgen [Rules.calledArguments]
  all_goals simp_all

@[spec]
theorem segment_spec (expression : Bool) : Gives legible (rules.segment expression) := by
  mvcgen [Rules.segment]
  all_goals simp_all

@[spec]
theorem path_spec (expression : Bool) : Gives legible (rules.path expression) := by
  mvcgen [Rules.path]
  all_goals simp_all

@[spec]
theorem projection_spec (expression : Bool) : Gives legible (rules.projection expression) := by
  mvcgen [Rules.projection]
  all_goals simp_all

/-! ## Parameters and bounds -/

@[spec]
theorem boundsAfterColon_spec (stop : List Tree → Bool) :
    Gives legible (rules.boundsAfterColon stop) := by
  mvcgen [Rules.boundsAfterColon]
  all_goals simp_all

omit [rules.ReadLegibly] in
@[spec]
theorem lifetimesAfterColon_spec (stop : List Tree → Bool) :
    Gives legible (lifetimesAfterColon stop) := by
  mvcgen [Rules.lifetimesAfterColon]
  all_goals simp_all

@[simp]
theorem legible_underscore :
    legible (Name.plain "_") ∧ (Name.plain "_").isWord "const" = false := by
  constructor
  · show legible "_"
    simp
  · decide +kernel

@[spec]
theorem parameter_spec (anonymous : Bool) : Gives legible (rules.parameter anonymous) := by
  mvcgen [Rules.parameter]
  all_goals simp_all

@[spec]
theorem parameters_spec : Gives legible rules.parameters := by
  mvcgen [Rules.parameters]
  all_goals simp_all

@[spec]
theorem binder_spec : Gives legible rules.binder := by
  mvcgen [Rules.binder]
  all_goals simp_all

@[spec]
theorem optionalBinder_spec : Gives legible rules.optionalBinder := by
  mvcgen [Rules.optionalBinder]
  all_goals simp_all

@[spec]
theorem capturedParameter_spec : Gives (Phrase.Has Whole) capturedParameter := by
  mvcgen [Rules.capturedParameter]
  all_goals simp_all

@[spec]
theorem capturedParameters_spec : Gives (Phrase.Has Whole) capturedParameters := by
  have list : Gives (fun pair => AllHave Whole pair.1)
      (listUntil (Ahead.mark ">") "," capturedParameter) := listUntil_gives capturedParameter_spec
  mvcgen [Rules.capturedParameters, list, -listUntil_spec]
  all_goals simp_all
  rename_i all _
  have inner : AllHave Inner _ := fun phrase among => inner_of_whole (all.1 phrase among)
  exact whole_angled [_] [_, _] [] rfl (by simp) (by simp [has_joined, inner]) allHave_nil

@[spec]
theorem constancy_spec : Gives (Phrase.Has Whole) constancy := by
  mvcgen [Rules.constancy]
  all_goals simp_all

@[spec]
theorem calledPath_spec {path : Path} (all : legible path) :
    Gives legible (rules.calledPath path) := by
  mvcgen [Rules.calledPath]
  all_goals simp_all
  rename_i isLast _ _ _ _
  exact ⟨legible_of_subset (List.dropLast_subset _) all, (legible_getLast? all isLast).1⟩

@[simp]
theorem legible_constantBound {grouped relaxed : Bool} {before after : Option Binder}
    {constancy : Phrase} {path : Path} (beforeAll : legible before)
    (constancyWhole : constancy.Has Whole) (afterAll : legible after) (all : legible path) :
    legible (constantBound grouped before constancy relaxed after path) := by
  have written : (concat [optionalBinderPhrase before, constancy,
      if relaxed then Phrase.mark "?" else .empty, optionalBinderPhrase after,
      path.phrase false]).Has Whole :=
    has_concat (by
      simp [whole_optionalBinder beforeAll, constancyWhole, whole_optionalBinder afterAll,
        whole_path all])
  refine legible_verbatimBound ?_
  cases grouped with
  | true => exact has_inParentheses (legible_of_whole written)
  | false => exact written

@[spec]
theorem traitBound_spec (grouped constant : Bool) :
    Gives legible (rules.traitBound grouped constant) := by
  mvcgen [Rules.traitBound]
  all_goals simp_all +zetaDelta

@[spec]
theorem boundRule_spec (capture constant : Bool) :
    Gives legible (rules.boundRule capture constant) := by
  mvcgen [Rules.boundRule]
  all_goals simp_all

@[spec]
theorem bounds_spec (plus existential : Bool) : Gives legible (rules.bounds plus existential) := by
  mvcgen [Rules.bounds]
  all_goals simp_all

@[spec]
theorem predicate_spec : Gives legible rules.predicate := by
  mvcgen [Rules.predicate]
  all_goals simp_all

@[spec]
theorem predicates_spec : Gives legible rules.predicates := by
  mvcgen [Rules.predicates]
  all_goals simp_all

/-! ## Types -/

@[simp]
theorem legible_verbatimPhrase {tokens : List Tree} :
    legible (Ty.verbatim tokens).phrase ↔ legible tokens := Iff.rfl

@[spec]
theorem functionInput_spec {attributes : Phrase} (all : legible attributes) (first : Bool) :
    Gives legible (rules.functionInput attributes first) := by
  mvcgen [Rules.functionInput]
  all_goals simp_all

@[spec]
theorem variadicDots_spec {before : Phrase} (all : legible before) :
    Gives legible (variadicDots before) := by
  mvcgen [Rules.variadicDots]
  all_goals simp_all

@[spec]
theorem variadicInput_spec {attributes : Phrase} (all : legible attributes) :
    Gives legible (variadicInput attributes) := by
  mvcgen [Rules.variadicInput]
  all_goals simp_all

@[spec]
theorem functionInputs_spec : Gives legible rules.functionInputs := by
  have round (rounds : Nat) (first : Bool) :
      Gives legible (functionInputs.go rules rounds first) := by
    induction rounds generalizing first with
    | zero =>
      mvcgen [Rules.functionInputs.go]
      all_goals simp_all
    | succ rounds ih =>
      mvcgen [Rules.functionInputs.go, ih]
      all_goals simp_all
  mvcgen [Rules.functionInputs, round]

@[spec]
theorem optionalConvention_spec :
    Gives (fun phrase => phrase.Has Whole ∧ legible phrase) optionalConvention := by
  have convention {name : Option Literal} (all : legible name) :
      (Written.convention name).Has Whole ∧ legible (Written.convention name) :=
    ⟨Written.whole_convention all, legible_of_whole (Written.whole_convention all)⟩
  mvcgen [Rules.optionalConvention]
  all_goals simp_all

@[spec]
theorem functionHeader_spec : Gives (Phrase.Has Whole) functionHeader := by
  mvcgen [Rules.functionHeader]
  all_goals simp_all [Written.whole_words]

@[spec]
theorem functionPointer_spec {binder : Option Binder} (all : legible binder) :
    Gives legible (rules.functionPointer binder) := by
  mvcgen [Rules.functionPointer]
  all_goals simp_all

theorem legible_groupedBound? {ty : Ty} (all : legible ty) {bound : Bound}
    (found : groupedBound? ty = some bound) : legible bound := by
  unfold groupedBound? at found
  split at found
  · obtain rfl := Option.some.inj found
    exact legible_traitBound.mpr ⟨legible_none, all⟩
  · obtain rfl := Option.some.inj found
    exact legible_traitBound.mpr (legible_traitBound.mp (legible_cons.mp all).1)
  · obtain rfl := Option.some.inj found
    exact (legible_cons.mp all).1
  · cases found

@[spec]
theorem moreBounds_spec : Gives legible rules.moreBounds := by
  mvcgen [Rules.moreBounds]
  all_goals simp_all

instance : Legible Parenthesized where
  legible
    | .complete ty => legible ty
    | .relaxed bound => legible bound
    | .single ty => legible ty

@[simp]
theorem legible_complete {ty : Ty} : legible (Parenthesized.complete ty) ↔ legible ty := Iff.rfl

@[simp]
theorem legible_relaxed {bound : Bound} :
    legible (Parenthesized.relaxed bound) ↔ legible bound := Iff.rfl

@[simp]
theorem legible_singleType {ty : Ty} : legible (Parenthesized.single ty) ↔ legible ty := Iff.rfl

@[spec]
theorem parenthesizedContent_spec : Gives legible rules.parenthesizedContent := by
  mvcgen [Rules.parenthesizedContent]
  all_goals simp_all

@[spec]
theorem parenthesizedType_spec (plus : Bool) : Gives legible (rules.parenthesizedType plus) := by
  mvcgen [Rules.parenthesizedType]
  all_goals simp_all
  rename_i all _ found _ _
  exact legible_groupedBound? all.1 found

@[spec]
theorem pathType_spec (plus : Bool) {binder : Option Binder} (all : legible binder) :
    Gives legible (rules.pathType plus binder) := by
  mvcgen [Rules.pathType]
  all_goals simp_all +zetaDelta [whole_invocationPhrase]

@[spec]
theorem referenceType_spec : Gives legible rules.referenceType := by
  mvcgen [Rules.referenceType]
  all_goals simp_all

@[spec]
theorem pointerType_spec : Gives legible rules.pointerType := by
  mvcgen [Rules.pointerType]
  all_goals simp_all

@[spec]
theorem objectType_spec (plus : Bool) : Gives legible (rules.objectType plus) := by
  mvcgen [Rules.objectType]
  all_goals simp_all +zetaDelta
  rename_i all _ _
  exact legible_verbatimType (has_concat (by simp [all.1]))

@[spec]
theorem existentialType_spec (plus : Bool) : Gives legible (rules.existentialType plus) := by
  mvcgen [Rules.existentialType]
  all_goals simp_all

@[spec]
theorem bracketedType_spec : Gives legible rules.bracketedType := by
  mvcgen [Rules.bracketedType]
  all_goals simp_all

@[spec]
theorem boundType_spec (plus : Bool) : Gives legible (rules.boundType plus) := by
  mvcgen [Rules.boundType]
  all_goals simp_all

@[spec]
theorem providedType_spec : Gives legible providedType := by
  mvcgen [Rules.providedType]
  all_goals simp_all
  rename_i identifier all
  have inner : legible (unseen _) := all.1
  exact legible_verbatimType (TokenProperty.append (has_concat (by simp [identifier.1.1]))
    (has_inParentheses inner))

@[spec]
theorem typeRule_spec (plus : Bool) : Gives legible (rules.typeRule plus) := by
  mvcgen [Rules.typeRule]
  all_goals simp_all

end Rules

end Wireform.Syntax
