import Wireform.Generation.Pass
import Wireform.Proofs.Names.Origin
import Wireform.Proofs.Syntax.LegibleItemRules
import Wireform.Proofs.Syntax.ParameterTokens

/-! # Imprints

A fragment is put together from trees, yet it follows from how these are printed. What the printed
text leaves open is where the tokens stand, and nothing that is generated depends on that. -/

namespace Wireform.Generation

open Wireform.Names Wireform.Syntax
open Phrase

/-! ## Pushed items -/

theorem endsWithMark_map_settled (symbol : Char) (tokens : List Tree) :
    endsWithMark symbol (tokens.map Tree.settled) = endsWithMark symbol tokens := by
  unfold endsWithMark
  rw [List.getLast?_map]
  cases tokens.getLast? with
  | none => rfl
  | some last => cases last <;> rfl

theorem map_pushed (separator : Char) (list item : List Tree)
    (settled : (Tree.ofOperator (String.singleton separator)).map Tree.settled =
      Tree.ofOperator (String.singleton separator)) :
    (pushed separator list item).map Tree.settled =
      pushed separator (list.map Tree.settled) (item.map Tree.settled) := by
  unfold pushed
  rw [endsWithMark_map_settled, List.isEmpty_map]
  split <;> simp [settled]

/-! ## Parameters -/

theorem tokens_brokenPlusSeparated (bounds : List Bound) (trailing : Bool) :
    (brokenPlusSeparated (boundPhrases bounds) trailing).tokens =
      (boundsBehindColon bounds trailing).tokens.tail := by
  cases bounds <;> cases trailing <;> rfl

theorem tokens_of_default_eq_none {parameter : Parameter} (none : parameter.default = none) :
    parameter.phrase.tokens = parameter.attributes.tokens ++ parameter.own.tokens := by
  rw [← Parameter.tokens_defaulted, Defaulted.tokens, Defaulted.behind, Parameter.defaulted, none]
  exact List.append_nil _

theorem declaredTokens_type (bound : Bound) (attributes : Phrase) (name : Name)
    (bounds : List Bound) (trailing : Bool) (default : Option Ty) :
    (declaredTokens bound (.type attributes name bounds trailing default)).map Tree.settled =
      attributes.tokens.map Tree.settled ++ (.word name .start :: Tree.ofOperator ":") ++
        pushed '+' ((boundsBehindColon bounds trailing).tokens.map Tree.settled).tail
          (bound.phrase.tokens.map Tree.settled) := by
  have settledColon : (Tree.word name .start :: Tree.ofOperator ":").map Tree.settled =
      .word name .start :: Tree.ofOperator ":" := rfl
  have written : declaredTokens bound (.type attributes name bounds trailing default) =
      attributes.tokens ++ (.word name .start :: Tree.ofOperator ":") ++
        pushed '+' (boundsBehindColon bounds trailing).tokens.tail bound.phrase.tokens := by
    rw [← tokens_brokenPlusSeparated]
    simp [declaredTokens, ofName, mark]
  rw [written, List.map_append, List.map_append, map_pushed _ _ _ rfl, settledColon, List.map_tail]

section Parameters

variable {parameter other : Parameter} (all : legible parameter) (otherAll : legible other)
  (same : parameter.defaulted.settled = other.defaulted.settled)

include all otherAll same

/-- Parameters that are printed alike agree in their attributes and in what stands behind them. -/
theorem alike_parts :
    parameter.attributes.tokens.map Tree.settled = other.attributes.tokens.map Tree.settled ∧
      parameter.own.tokens.map Tree.settled = other.own.tokens.map Tree.settled := by
  have sameHead : parameter.defaulted.settled.head = other.defaulted.settled.head := by rw [same]
  simp only [Parameter.defaulted, Defaulted.settled, List.map_append] at sameHead
  exact (Parameter.attributeTokens all).append_inj (Parameter.attributeTokens otherAll)
    (Parameter.beginsNamed_own all) (Parameter.beginsNamed_own otherAll) sameHead

/-- Neither what a parameter is declared as nor how it is named depends on its default. -/
theorem declaredTokens_alike (bound : Bound) :
    (declaredTokens bound parameter).map Tree.settled =
        (declaredTokens bound other).map Tree.settled ∧
      (argumentTokens parameter).map Tree.settled = (argumentTokens other).map Tree.settled := by
  obtain ⟨sameAttributes, sameOwn⟩ := alike_parts all otherAll same
  have notConst {name : Name} (noWord : name.isWord "const" = false) :
      Tree.word name .start ≠ .word (.plain "const") .start := by
    intro sameWord
    obtain rfl := (Tree.word.inj sameWord).1
    exact absurd noWord (by decide)
  have withoutDefault {parameter other : Parameter} (none : parameter.default = none)
      (otherNone : other.default = Option.none)
      (sameAttributes : parameter.attributes.tokens.map Tree.settled =
        other.attributes.tokens.map Tree.settled)
      (sameOwn : parameter.own.tokens.map Tree.settled = other.own.tokens.map Tree.settled) :
      parameter.phrase.tokens.map Tree.settled = other.phrase.tokens.map Tree.settled := by
    rw [tokens_of_default_eq_none none, tokens_of_default_eq_none otherNone, List.map_append,
      List.map_append, sameAttributes, sameOwn]
  -- The first token behind the attributes tells the kind of the parameter.
  cases parameter with
  | lifetime attributes name bounds trailing =>
    cases other with
    | lifetime otherAttributes otherName otherBounds otherTrailing =>
      obtain ⟨sameName, -⟩ := List.cons.inj sameOwn
      exact ⟨withoutDefault rfl rfl sameAttributes sameOwn, congrArg ([·]) sameName⟩
    | type => cases sameOwn
    | constant => cases sameOwn
  | type attributes name bounds trailing default =>
    cases other with
    | lifetime => cases sameOwn
    | type otherAttributes otherName otherBounds otherTrailing otherDefault =>
      obtain ⟨sameName, sameBounds⟩ := List.cons.inj sameOwn
      refine ⟨?_, congrArg ([·]) sameName⟩
      obtain rfl := (Tree.word.inj sameName).1
      have bounds : (boundsBehindColon bounds trailing).tokens.map Tree.settled =
        (boundsBehindColon otherBounds otherTrailing).tokens.map Tree.settled := sameBounds
      rw [declaredTokens_type, declaredTokens_type, bounds]
      exact congrArg (· ++ _ ++ _) sameAttributes
    | constant => exact absurd (List.cons.inj sameOwn).1 (notConst all.2.2.1)
  | constant attributes name ty default =>
    cases other with
    | lifetime => cases sameOwn
    | type => exact absurd (List.cons.inj sameOwn).1.symm (notConst otherAll.2.2.1)
    | constant otherAttributes otherName otherTy otherDefault =>
      obtain ⟨sameName, -⟩ := List.cons.inj (List.cons.inj sameOwn).2
      refine ⟨?_, congrArg ([·]) sameName⟩
      exact @withoutDefault (.constant attributes name ty none)
        (.constant otherAttributes otherName otherTy none) rfl rfl sameAttributes sameOwn

end Parameters

/-- Where one view of two lists is the same, so is any that is told by it. -/
theorem map_eq_of_map_eq {α β γ : Type} {view : α → β} {told : α → γ} {list others : List α}
    (tells : ∀ item ∈ list, ∀ other ∈ others, view item = view other → told item = told other)
    (same : list.map view = others.map view) : list.map told = others.map told := by
  induction list generalizing others with
  | nil => rw [List.map_eq_nil_iff.mp same.symm]
  | cons head tail induction =>
    cases others with
    | nil => cases same
    | cons other others =>
      obtain ⟨sameHead, sameTail⟩ := List.cons.inj same
      rw [List.map_cons, List.map_cons, tells head List.mem_cons_self other List.mem_cons_self
        sameHead, induction (fun item among other amongOthers =>
          tells item (.tail _ among) other (.tail _ amongOthers)) sameTail]

theorem map_angledTokens {parameters : Parameters} (notEmpty : parameters.list ≠ [])
    (tokens : Parameter → List Tree) :
    (angledTokens parameters tokens).map Tree.settled =
      Tree.ofOperator "<" ++
          separated comma parameters.trailing
            (parameters.list.map fun parameter => (tokens parameter).map Tree.settled) ++
        Tree.ofOperator ">" := by
  have closing : (Tree.ofOperator ">").map Tree.settled = Tree.ofOperator ">" := rfl
  have opening : (Tree.ofOperator "<").map Tree.settled = Tree.ofOperator "<" := rfl
  have between : comma.map Tree.settled = comma := rfl
  rw [angledTokens, if_neg (by simpa using notEmpty), List.map_append, List.map_append,
    map_separated, opening, closing, between, List.map_map]
  rfl

/-- Parameters that are printed alike are written alike, whatever of them but their defaults is
written. -/
theorem angledTokens_alike {parameters others : Parameters} (all : legible parameters)
    (othersAll : legible others) (same : parameters.text = others.text)
    {tokens : Parameter → List Tree}
    (alike : ∀ parameter other : Parameter, legible parameter → legible other →
      parameter.defaulted.settled = other.defaulted.settled →
        (tokens parameter).map Tree.settled = (tokens other).map Tree.settled) :
    (angledTokens parameters tokens).map Tree.settled =
      (angledTokens others tokens).map Tree.settled := by
  have readable {parameters : Parameters} (all : legible parameters) :
      ∀ tree ∈ parameters.phrase.tokens, tree.Legible := Parameters.legible_phrase all
  obtain ⟨sameList, sameTrailing⟩ := Parameters.defaulted_inj all othersAll
    (Tree.settledAll_eq_of_textList (readable all) (readable othersAll) same)
  by_cases empty : parameters.list = []
  · rw [empty] at sameList
    have otherEmpty : others.list = [] := List.map_eq_nil_iff.mp sameList.symm
    simp [angledTokens, empty, otherEmpty]
  · have otherNotEmpty : others.list ≠ [] := by
      intro otherEmpty
      rw [otherEmpty] at sameList
      exact empty (List.map_eq_nil_iff.mp sameList)
    have sameTokens := map_eq_of_map_eq
      (fun parameter among other amongOthers =>
        alike parameter other (all parameter among) (othersAll other amongOthers)) sameList
    rw [map_angledTokens empty, map_angledTokens otherNotEmpty, sameTrailing empty, sameTokens]

/-! ## Predicates -/

theorem tokens_beforeBody_eq_nil {predicates : Predicates} :
    predicates.beforeBody.tokens = [] ↔ predicates.list.isEmpty = true := by
  unfold Predicates.beforeBody
  split
  · simp_all [blank, shown]
  · simp_all [Predicates.clause, concat, gap, shown, word]

theorem clauseTokens_alike {predicates others : Predicates} (all : legible predicates)
    (othersAll : legible others) (same : predicates.text = others.text)
    (predicate : Option Predicate) :
    Tree.settledAll (clauseTokens predicates predicate) =
      Tree.settledAll (clauseTokens others predicate) := by
  have readable {predicates : Predicates} (all : legible predicates) :
      ∀ tree ∈ predicates.beforeBody.tokens, tree.Legible := Predicates.legible_beforeBody all
  have sameClause : Tree.settledAll predicates.beforeBody.tokens =
      Tree.settledAll others.beforeBody.tokens :=
    Tree.settledAll_eq_of_textList (readable all) (readable othersAll) same
  cases predicate with
  | none => exact sameClause
  | some predicate =>
    have sameEmpty : predicates.list.isEmpty = others.list.isEmpty := by
      rw [Bool.eq_iff_iff, ← tokens_beforeBody_eq_nil, ← tokens_beforeBody_eq_nil,
        ← Tree.settledAll_eq_nil, sameClause, Tree.settledAll_eq_nil]
    rw [clauseTokens, clauseTokens, sameClause, sameEmpty]

/-! ## Fragments -/

instance : Legible Blueprint :=
  ⟨fun blueprint => legible blueprint.name ∧ legible blueprint.parameters ∧
    legible blueprint.predicates⟩

section Fragments

variable {blueprint other : Blueprint} (all : legible blueprint) (otherAll : legible other)
  (same : blueprint.imprint = other.imprint)

include all otherAll same

theorem Impl.header?_congr (impl : Impl) : impl.header? blueprint = impl.header? other := by
  obtain ⟨sameModules, sameName, sameParameters, samePredicates, sameMembers, sameEquality⟩ :=
    Imprint.mk.inj same
  obtain ⟨nameAll, parametersAll, predicatesAll⟩ := all
  obtain ⟨otherNameAll, otherParametersAll, otherPredicatesAll⟩ := otherAll
  have name : blueprint.name = other.name := Name.eq_of_spelling nameAll otherNameAll sameName
  have declared := angledTokens_alike parametersAll otherParametersAll sameParameters
    fun _ _ all otherAll alike => (declaredTokens_alike all otherAll alike impl.bound).1
  have arguments := angledTokens_alike parametersAll otherParametersAll sameParameters
    fun _ _ all otherAll alike => (declaredTokens_alike all otherAll alike impl.bound).2
  have self : ((ofName blueprint.name).tokens ++
        angledTokens blueprint.parameters argumentTokens).map Tree.settled =
      ((ofName other.name).tokens ++ angledTokens other.parameters argumentTokens).map
        Tree.settled := by
    rw [List.map_append, List.map_append, arguments, name]
  have clause := clauseTokens_alike predicatesAll otherPredicatesAll samePredicates impl.predicate
  rw [header?, header?, Header.read?, Header.read?, Tree.settledAll_congr declared,
    Tree.settledAll_congr self, clause]

/-- What is generated for a blueprint depends on nothing but how it is printed. -/
theorem Blueprint.fragment_congr : blueprint.fragment = other.fragment := by
  obtain ⟨sameModules, sameName, -, -, sameMembers, sameEquality⟩ := Imprint.mk.inj same
  have name : blueprint.name = other.name := Name.eq_of_spelling all.1 otherAll.1 sameName
  have impls : blueprint.impls = other.impls := by
    rw [Blueprint.impls, Blueprint.impls, sameMembers, sameEquality]
  have headers : (fun impl : Impl => impl.header? blueprint) = fun impl => impl.header? other :=
    funext fun impl => impl.header?_congr all otherAll same
  have code (modules : List Name) : blueprint.code modules = other.code modules := by
    rw [Blueprint.code, Blueprint.code, impls, headers, name]
  have fileName : blueprint.fileName = other.fileName := by
    rw [Blueprint.fileName, Blueprint.fileName, sameModules, name]
  rw [Blueprint.fragment, Blueprint.fragment, sameModules, fileName, funext code]

end Fragments

/-! ## Candidates -/

namespace Candidate

mutual
theorem contains_of_mem_ofItem {file : String} {candidate : Candidate} :
    ∀ (item : Item) (around : ModulePath), candidate ∈ ofItem file around item →
      ∀ {items : List Item}, item ∈ items →
        Names.Contains around items candidate.module (.struct candidate.declaration)
  | .struct declaration, around, among, items, isItem => by
    rw [ofItem] at among
    split at among
    · cases List.mem_singleton.mp among
      exact .here isItem
    · cases among
  | .module attributes visible name (some inner), around, among, items, isItem => by
    rw [ofItem] at among
    exact .inside isItem (contains_of_mem_ofItems inner _ among)
  | .module _ _ _ none, _, among, _, _ => by simp [ofItem] at among
  | .declaration _ _, _, among, _, _ => by simp [ofItem] at among
  | .typeAlias _ _ _, _, among, _, _ => by simp [ofItem] at among
  | .constant _ _ _, _, among, _, _ => by simp [ofItem] at among
  | .use _ _, _, among, _, _ => by simp [ofItem] at among
  | .externalCrate _ _, _, among, _, _ => by simp [ofItem] at among
  | .implementation _ _ _, _, among, _, _ => by simp [ofItem] at among
  | .other, _, among, _, _ => by simp [ofItem] at among

theorem contains_of_mem_ofItems {file : String} {candidate : Candidate} :
    ∀ (items : List Item) (around : ModulePath), candidate ∈ ofItems file around items →
      Names.Contains around items candidate.module (.struct candidate.declaration)
  | [], _, among => by cases among
  | head :: tail, around, among => by
    rw [ofItems] at among
    rcases List.mem_append.mp among with ofHead | ofTail
    · exact contains_of_mem_ofItem head around ofHead List.mem_cons_self
    · exact (contains_of_mem_ofItems tail around ofTail).tail
end

theorem contains_of_mem_select {compilation : Compilation} {candidate : Candidate}
    (selected : candidate ∈ select compilation) :
    compilation.Contains candidate.module (.struct candidate.declaration) := by
  obtain ⟨unit, among, inUnit⟩ := List.mem_flatMap.mp selected
  exact ⟨unit, among, contains_of_mem_ofItems unit.items unit.module inUnit⟩

end Candidate

theorem legible_of_contains {around module : ModulePath} {items : List Item} {item : Item}
    (contains : Names.Contains around items module item) (all : legible items) : legible item := by
  induction contains with
  | here among => exact all _ among
  | inside among _ induction =>
    exact induction (legible_some.mp (legible_moduleItem.mp (all _ among)))

/-- A candidate's declaration can be told by its text, as it was read from one. -/
theorem Candidate.legible_declaration {compilation : Compilation} {candidate : Candidate}
    (selected : candidate ∈ Candidate.select compilation) : legible candidate.declaration := by
  obtain ⟨unit, -, contains⟩ := contains_of_mem_select selected
  exact legible_structItem.mp (legible_of_contains contains (legible_of_parseFile? unit.parses))

theorem Candidate.legible_blueprint {candidate : Candidate} (all : legible candidate.declaration)
    (accepted : Accepted) : legible (candidate.blueprint accepted) := all

end Wireform.Generation
