import Wireform.Proofs.Syntax.LegibleExpressions

/-! # Legible patterns and items

What is written of a pattern or an item can be told by its text if that of its parts can. -/

namespace Wireform.Syntax

open Wireform.Text Phrase

/-! ## Patterns -/

instance : Legible PatternPhrase := ⟨fun pattern => legible pattern.phrase⟩

namespace PatternPhrase

variable {pattern : PatternPhrase} {written : Phrase}

@[simp]
theorem legible_phrase : legible pattern.phrase ↔ legible pattern := Iff.rfl

@[simp]
theorem legible_phrases {list : List PatternPhrase} (all : legible list) :
    legible (list.map phrase) := legible_map (fun _ => legible_phrase.mpr) all

@[simp]
theorem legible_ofPhrase : legible (ofPhrase written) ↔ legible written := Iff.rfl

@[simp]
theorem legible_verbatim {tokens : List Tree} : legible (verbatim tokens) ↔ legible tokens :=
  Iff.rfl

@[simp]
theorem legible_wildcard : legible wildcard := legible_word.mpr (by simp)

@[simp]
theorem legible_rest : legible rest := legible_mark.mpr (by simp)

@[simp]
theorem legible_ofExpr {expression : ExprPhrase} :
    legible (ofExpr expression) ↔ legible expression := Iff.rfl

@[simp]
theorem legible_literal {token : ExprPhrase} : legible (literal token) ↔ legible token := Iff.rfl

@[simp]
theorem legible_range {first last : Option ExprPhrase} {dots : String}
    (symbols : legible (Tree.ofOperator dots)) (firstAll : legible first)
    (lastAll : legible last) : legible (range first dots last) :=
  ExprPhrase.legible_range symbols firstAll lastAll

@[simp]
theorem legible_binding {byReference mutable : Bool} {name : Name} {inner : Option PatternPhrase}
    (identifier : legible name) (all : legible inner) :
    legible (binding byReference mutable name inner) := by
  cases byReference <;> cases mutable <;> cases inner <;> simp_all [binding]

@[simp]
theorem legible_reference {mutable : Bool} :
    legible (reference mutable pattern) ↔ legible pattern := by
  cases mutable <;> simp [reference]

@[simp]
theorem legible_alternatives {leading : Bool} {more : List PatternPhrase}
    (first : legible pattern) (all : legible more) :
    legible (alternatives leading pattern more) := by
  unfold alternatives
  split
  · exact first
  · refine legible_append.mpr ⟨by simp, ?_⟩
    split <;> simp [first, all]

@[simp]
theorem legible_grouped : legible (grouped pattern) ↔ legible pattern := by simp [grouped]

@[simp]
theorem legible_tuple {patterns : List PatternPhrase} {trailing : Bool} (all : legible patterns) :
    legible (tuple patterns trailing) := by
  match patterns with
  | [] => simp [tuple]
  | [only] => cases trailing <;> simpa [tuple] using all
  | first :: second :: rest => exact legible_inParentheses.mpr (legible_items (legible_phrases all))

@[simp]
theorem legible_slice {patterns : List PatternPhrase} {trailing : Bool} (all : legible patterns) :
    legible (slice patterns trailing) := by simp [slice, all]

@[simp]
theorem legible_tupleStruct {patterns : List PatternPhrase} {trailing : Bool}
    (path : legible written) (all : legible patterns) :
    legible (tupleStruct written patterns trailing) := by simp [tupleStruct, path, all]

@[simp]
theorem legible_field {attributes : Phrase} {name : Option Phrase}
    (attributesAll : legible attributes) (nameAll : legible name) (all : legible pattern) :
    legible (field attributes name pattern) := by
  cases name <;> simp_all [field]

@[simp]
theorem legible_struct {fields : List Phrase} {trailing : Bool} {rest : Option Phrase}
    (path : legible written) (all : legible fields) (restAll : legible rest) :
    legible (struct written fields trailing rest) := by
  have separate : legible (fields.map fun field => concat [field, mark ",", gap .blank]) :=
    legible_map (fun field fieldAll => by simp [fieldAll]) all
  have group (content : Phrase) (contentAll : legible content) :
      legible (written ++ inBraces content) :=
    legible_append.mpr ⟨path, legible_inBraces.mpr contentAll⟩
  unfold struct
  cases rest with
  | none => exact group _ (by simp [all])
  | some attributes => exact group _ (by simp [separate, legible_some.mp restAll])

@[simp]
theorem legible_typed {ty : Ty} (all : legible pattern) (tyAll : legible ty) :
    legible (typed pattern ty) := by simp [typed, all, tyAll]

end PatternPhrase

/-! ## Parts of items -/

instance : Legible Predicate := ⟨fun predicate => legible predicate.phrase⟩
instance : Legible Parameters := ⟨fun parameters => legible parameters.list⟩
instance : Legible Predicates := ⟨fun predicates => legible predicates.list⟩
instance : Legible Visibility := ⟨fun visibility => legible visibility.phrase⟩

@[simp]
theorem legible_predicatePhrase {predicate : Predicate} :
    legible predicate.phrase ↔ legible predicate := Iff.rfl

@[simp]
theorem legible_lifetimePredicate {name : Name} {bounds : List Name} {trailing : Bool}
    (identifier : legible name) (all : legible bounds) :
    legible (Predicate.lifetime name bounds trailing) := by
  have lifetimes : legible (bounds.map ofLifetime) :=
    legible_map (fun _ => legible_ofLifetime.mpr) all
  change legible (concat _)
  cases bounds with
  | nil => simp [identifier]
  | cons head tail =>
    have separated : legible (brokenPlusSeparated _ trailing) :=
      legible_brokenPlusSeparated lifetimes
    simp only [legible_concat, legible_cons, legible_fill, legible_append]
    exact ⟨legible_ofLifetime.mpr identifier, by simp, ⟨legible_blank, separated⟩, legible_nil⟩

@[simp]
theorem legible_typePredicate {binder : Option Binder} {ty : Ty} {bounds : List Bound}
    {trailing : Bool} (binderAll : legible binder) (tyAll : legible ty) (all : legible bounds) :
    legible (Predicate.type binder ty bounds trailing) := by
  have binderWritten := legible_of_whole (whole_optionalBinder binderAll)
  change legible (concat _)
  cases bounds with
  | nil => simp [binderWritten, tyAll]
  | cons head tail =>
    have separated : legible (brokenPlusSeparated _ trailing) :=
      legible_brokenPlusSeparated (legible_boundPhrases all)
    simp only [legible_concat, legible_cons, legible_fill, legible_append]
    exact ⟨binderWritten, legible_tyPhrase tyAll, by simp, ⟨legible_blank, separated⟩, legible_nil⟩

@[simp]
theorem legible_parameters {list : List Parameter} {trailing : Bool} :
    legible (Parameters.mk list trailing) ↔ legible list := Iff.rfl

@[simp]
theorem legible_predicates {list : List Predicate} {trailing : Bool} :
    legible (Predicates.mk list trailing) ↔ legible list := Iff.rfl

@[simp]
theorem Parameters.legible_phrase {parameters : Parameters} (all : legible parameters) :
    legible parameters.phrase := by
  have phrases : legible (parameters.list.map Parameter.phrase) :=
    legible_map (fun _ parameterAll => legible_of_inner (inner_parameter parameterAll)) all
  unfold Parameters.phrase
  split <;> simp [phrases]

namespace Predicates

variable {predicates : Predicates} (all : legible predicates)

include all

theorem legible_clause (between : Gap) {last : Phrase} (lastAll : legible last) :
    legible (predicates.clause between last) := by
  have phrases : legible (predicates.list.map Predicate.phrase) :=
    legible_map (fun _ => legible_predicatePhrase.mpr) all
  simp [clause, phrases, lastAll]

@[simp]
theorem legible_beforeBody : legible predicates.beforeBody := by
  unfold beforeBody
  split
  · simp
  · exact legible_clause all _ (by simp)

@[simp]
theorem legible_beforeSemicolon : legible predicates.beforeSemicolon := by
  unfold beforeSemicolon
  split
  · simp
  · exact legible_clause all _ (by simp)

@[simp]
theorem legible_beforeDefinition : legible predicates.beforeDefinition := by
  unfold beforeDefinition
  split
  · simp
  · exact legible_clause all _ (by simp)

@[simp]
theorem legible_afterDefinition : legible predicates.afterDefinition := by
  unfold afterDefinition
  split
  · simp
  · exact legible_clause all _ (by simp)

end Predicates

@[simp]
theorem legible_visibilityPhrase {visibility : Visibility} :
    legible visibility.phrase ↔ legible visibility := Iff.rfl

@[simp]
theorem legible_inherited : legible Visibility.inherited := legible_empty

@[simp]
theorem legible_everywhere : legible Visibility.everywhere :=
  legible_spacedWord.mpr (by simp)

@[simp]
theorem legible_restricted {spelledOut : Bool} {path : Path} (all : legible path) :
    legible (Visibility.restricted spelledOut path) := by
  have pathWritten : legible (path.phrase false) := legible_of_whole (whole_path all false)
  have place : legible ((if spelledOut then word "in" else empty) ++ path.phrase false) := by
    cases spelledOut <;> simp [pathWritten]
  have word : legible (spacedWord "pub") := legible_spacedWord.mpr (by simp)
  exact legible_cons.mpr ⟨word _ List.mem_cons_self,
    legible_inParentheses.mpr place⟩

/-! ## Fields and functions -/

namespace Written

@[simp]
theorem legible_words {list : List (Bool × String)} (all : legible list) :
    legible (words list) := by
  refine legible_concat.mpr (legible_map ?_ all)
  exact fun pair pairAll => legible_ite (legible_spacedWord.mpr pairAll.2) legible_empty

theorem whole_words {list : List (Bool × String)} (all : legible list) :
    (words list).Has Whole :=
  has_concat (allHave_map.mpr fun pair among => has_ite (has_spacedWord (all pair among).2) has_empty)

theorem whole_convention {name : Option Literal} (all : legible name) :
    (convention name).Has Whole := by
  refine has_append (has_spacedWord (by simp)) ?_
  cases name with
  | none => exact has_empty
  | some name => exact has_append (whole_ofLiteral (legible_some.mp all)) has_blank

@[simp]
theorem legible_withBody {head lines : Phrase} :
    legible (withBody head lines) ↔ legible head ∧ legible lines := by
  have braces : legible (inBraces lines) ↔ legible lines := legible_inBraces
  exact legible_list_append.trans (and_congr_right' braces)

@[simp]
theorem legible_withoutBody {shift : Int} {content : Phrase} :
    legible (withoutBody shift content) ↔ legible content := by simp [withoutBody]

@[simp]
theorem legible_members {attributes : Phrase} {list : List Phrase} :
    legible (members attributes list) ↔ legible attributes ∧ legible list := by simp [members]

@[simp]
theorem legible_listedMembers {list : List Phrase} {trailing : Bool} (all : legible list) :
    legible (listedMembers list trailing) := by
  change legible (separated comma trailing (list.map tokens))
  have comma : legible comma := by simp [comma]
  induction list with
  | nil => exact legible_nil
  | cons head tail ih =>
    obtain ⟨first, rest⟩ := legible_cons.mp all
    cases tail with
    | nil =>
      simp only [List.map, separated]
      split
      · exact legible_list_append.mpr ⟨first, comma⟩
      · exact first
    | cons next tail =>
      exact legible_list_append.mpr ⟨legible_list_append.mpr ⟨first, comma⟩, ih rest⟩

@[simp]
theorem legible_field {attributes visibility : Phrase} {name : Option Name} {ty : Ty}
    (attributesAll : legible attributes) (visibilityAll : legible visibility)
    (identifier : legible name) (tyAll : legible ty.phrase) :
    legible (field attributes visibility name ty) := by
  cases name <;> simp_all [field]

@[simp]
theorem legible_tupleFields {fields : List Phrase} {trailing : Bool} (all : legible fields) :
    legible (tupleFields fields trailing) := by simp [tupleFields, all]

@[simp]
theorem legible_boundsAfterColon {between : Phrase} {bounds : List Bound} {trailing : Bool}
    (betweenAll : legible between) (all : legible bounds) :
    legible (boundsAfterColon between bounds trailing) := by
  unfold boundsAfterColon
  split
  · simp
  · simp [betweenAll, all]

@[simp]
theorem legible_receiver {reference mutable : Bool} {lifetime : Option Name} {ty : Option Ty}
    (identifier : legible lifetime) (tyAll : legible ty) :
    legible (receiver reference lifetime mutable ty) := by
  cases lifetime <;> cases ty <;> simp_all [receiver]

@[simp]
theorem legible_signature {words : Phrase} {name : Name} {parameters : Parameters}
    {inputs : List Phrase} {trailing : Bool} {variadic : Option Phrase} {output : Option Ty}
    (wordsAll : legible words) (identifier : legible name) (parametersAll : legible parameters)
    (inputsAll : legible inputs) (dots : legible variadic) (outputAll : legible output) :
    legible (signature words name parameters inputs trailing variadic output) := by
  have outputWritten := legible_of_whole (outputPhrase_whole outputAll)
  simp [signature, wordsAll, identifier, parametersAll, inputsAll, dots, outputWritten]

@[simp]
theorem legible_function {head : Phrase} {predicates : Predicates} {body : Option Block}
    (headAll : legible head) (predicatesAll : legible predicates) (all : legible body) :
    legible (function head predicates body) := by
  cases body with
  | some block => simp [function, headAll, predicatesAll, legible_some.mp all]
  | none => simp [function, headAll, predicatesAll]

/-! ## Declarations -/

@[simp]
theorem legible_value {shift : Int} {words parameters : Phrase} {name : Name} {ty : Ty}
    {value : Option ExprPhrase} : legible (Written.value shift words name parameters ty value) ↔
      legible words ∧ legible name ∧ legible parameters ∧ legible ty.phrase ∧ legible value := by
  cases value <;> simp [Written.value]

@[simp]
theorem legible_definition {equals : Phrase} {ty : Ty} :
    legible (definition equals ty) ↔ legible equals ∧ legible ty.phrase := by simp [definition]

section Named

variable {visibility words head attributes : Phrase} {name : Name} {parameters : Parameters}
  {predicates : Predicates} {list : List Phrase} {bounds : List Bound} {trailing : Bool}

@[simp]
theorem legible_typeAlias {ty : Ty} (visibilityAll : legible visibility)
    (identifier : legible name) (parametersAll : legible parameters)
    (predicatesAll : legible predicates) (tyAll : legible ty) :
    legible (typeAlias visibility name parameters predicates ty) := by
  simp [typeAlias, visibilityAll, identifier, parametersAll, predicatesAll, tyAll]

@[simp]
theorem legible_associatedType {boundsWritten : Phrase} {ty : Option Ty} (tyAll : legible ty) :
    legible (associatedType words name parameters boundsWritten ty predicates) ↔
      legible words ∧ legible name ∧ legible parameters.phrase ∧ legible boundsWritten ∧
        legible predicates.afterDefinition := by
  cases ty <;> simp_all [associatedType]

@[simp]
theorem legible_foreignType (visibilityAll : legible visibility) (identifier : legible name)
    (parametersAll : legible parameters) (predicatesAll : legible predicates) :
    legible (foreignType visibility name parameters predicates) := by
  simp [foreignType, visibilityAll, identifier, parametersAll, predicatesAll]

@[simp]
theorem legible_named {keyword : String} : legible (named visibility keyword name parameters) ↔
    legible visibility ∧ legible keyword ∧ legible name ∧ legible parameters.phrase := by
  simp [named]

@[simp]
theorem legible_record (all : legible list) : legible (record head predicates list trailing) ↔
    legible head ∧ legible predicates.beforeBody := by simp [record, all]

@[simp]
theorem legible_tupleStruct (all : legible list) :
    legible (tupleStruct head list trailing predicates) ↔
      legible head ∧ legible predicates.beforeSemicolon := by simp [tupleStruct, all]

@[simp]
theorem legible_unitStruct : legible (unitStruct head predicates) ↔
    legible head ∧ legible predicates.beforeSemicolon := by simp [unitStruct]

instance : Legible VariantFields where
  legible
    | .none => True
    | .named fields _ => legible fields
    | .tuple fields _ => legible fields

@[simp]
theorem legible_noFields : legible VariantFields.none := trivial

@[simp]
theorem legible_namedFields : legible (VariantFields.named list trailing) ↔ legible list := Iff.rfl

@[simp]
theorem legible_unnamedFields : legible (VariantFields.tuple list trailing) ↔ legible list :=
  Iff.rfl

@[simp]
theorem legible_variant {fields : VariantFields} {number : Option ExprPhrase}
    (headAll : legible head) (all : legible fields) (numberAll : legible number) :
    legible (variant head fields number) := by
  cases fields <;> cases number <;> simp_all [variant]

@[simp]
theorem legible_trait (boundsAll : legible bounds) :
    legible (trait head bounds trailing predicates attributes list) ↔
      legible head ∧ legible predicates.beforeBody ∧ legible attributes ∧ legible list := by
  simp [trait, boundsAll, and_assoc]

@[simp]
theorem legible_traitAlias (boundsAll : legible bounds) :
    legible (traitAlias head bounds trailing predicates) ↔
      legible head ∧ legible predicates.beforeSemicolon := by
  simp [traitAlias, boundsAll]

@[simp]
theorem legible_implementation {implemented : Option Phrase} {self : Ty}
    (wordsAll : legible words) (parametersAll : legible parameters)
    (implementedAll : legible implemented) (selfAll : legible self)
    (predicatesAll : legible predicates) (attributesAll : legible attributes)
    (all : legible list) :
    legible (implementation words parameters implemented self predicates attributes list) := by
  cases implemented <;> simp_all [implementation]

@[simp]
theorem legible_foreignModule (wordsAll : legible words) (attributesAll : legible attributes)
    (all : legible list) : legible (foreignModule words attributes list) := by
  simp [foreignModule, wordsAll, attributesAll, all]

@[simp]
theorem legible_module {content : Option (Phrase × List Phrase)} (wordsAll : legible words)
    (identifier : legible name) (all : legible content) : legible (module words name content) := by
  cases content <;> simp_all [module]

@[simp]
theorem legible_externalCrate {newName : Option Name} (visibilityAll : legible visibility)
    (identifier : legible name) (newIdentifier : legible newName) :
    legible (externalCrate visibility name newName) := by
  cases newName <;> simp_all [externalCrate]

end Named

/-! ## Imports and invocations -/

instance : Legible UsePhrase := ⟨fun tree => legible tree.written⟩

@[simp]
theorem legible_usePhrase {written : Phrase} {endsInGroup : Bool} :
    legible (UsePhrase.mk written endsInGroup) ↔ legible written := Iff.rfl

@[simp]
theorem legible_useWritten {tree : UsePhrase} : legible tree.written ↔ legible tree := Iff.rfl

@[simp]
theorem legible_useGroup {trees : List UsePhrase} {trailing : Bool} (all : legible trees) :
    legible (useGroup trees trailing) := by
  have separate : legible (useGroup.separate trees) := by
    induction trees with
    | nil => exact legible_empty
    | cons head tail ih =>
      obtain ⟨first, rest⟩ := legible_cons.mp all
      cases tail with
      | nil => exact first
      | cons next tail => exact legible_concat.mpr (by simp [legible_useWritten.mpr first, ih rest])
  simp [useGroup, separate]

@[simp]
theorem legible_useDeclaration {visibility : Phrase} {global : Bool} {tree : UsePhrase}
    (visibilityAll : legible visibility) (all : legible tree) :
    legible (useDeclaration visibility global tree) := by
  cases global <;> simp [useDeclaration, visibilityAll, all]

@[simp]
theorem legible_invocation {written : Phrase} {delimiter : Delimiter} (all : legible written) :
    legible (invocation written delimiter) := by
  simp [invocation, all]

end Written

/-! ## Items -/

instance : Legible Struct where
  legible declaration :=
    legible declaration.name ∧ legible declaration.parameters ∧ legible declaration.predicates

@[simp]
theorem legible_struct {declaration : Struct} : legible declaration ↔ legible declaration.name ∧
    legible declaration.parameters ∧ legible declaration.predicates := Iff.rfl

/-- An item whose structs, and those of the modules in it, can be told by their text. -/
inductive Item.Legible : Item → Prop where
  | struct {declaration : Struct} (all : legible declaration) : Legible (.struct declaration)
  | declaration (kind : DeclarationKind) (name : Name) : Legible (.declaration kind name)
  | typeAlias (name : Name) (parameters : Parameters) (ty : Ty) :
      Legible (.typeAlias name parameters ty)
  | constant (name : Name) (ty : Ty) (value : Expr) : Legible (.constant name ty value)
  | module (attributes : List Attribute) (visibility : Visibility) (name : Name)
      {content : Option (List Item)} (all : ∀ items ∈ content, ∀ item ∈ items, Legible item) :
      Legible (.module attributes visibility name content)
  | use (global : Bool) (tree : UseTree) : Legible (.use global tree)
  | externalCrate (name : Name) (newName : Option Name) : Legible (.externalCrate name newName)
  | implementation (parameters : Parameters) (self : Ty) (methods : List Method) :
      Legible (.implementation parameters self methods)
  | other : Legible .other

instance : Legible Item := ⟨Item.Legible⟩

/-- What declares nothing that fragments are written for is not looked into. -/
@[simp]
theorem legible_otherItems : (∀ kind name, legible (Item.declaration kind name)) ∧
    (∀ name parameters ty, legible (Item.typeAlias name parameters ty)) ∧
    (∀ name ty value, legible (Item.constant name ty value)) ∧
    (∀ global tree, legible (Item.use global tree)) ∧
    (∀ name newName, legible (Item.externalCrate name newName)) ∧
    (∀ parameters self methods, legible (Item.implementation parameters self methods)) ∧
    legible Item.other :=
  ⟨.declaration, .typeAlias, .constant, .use, .externalCrate, .implementation, .other⟩

@[simp]
theorem legible_structItem {declaration : Struct} :
    legible (Item.struct declaration) ↔ legible declaration := by
  constructor
  · rintro ⟨all⟩
    exact all
  · exact .struct

@[simp]
theorem legible_moduleItem {attributes : List Attribute} {visibility : Visibility} {name : Name}
    {content : Option (List Item)} :
    legible (Item.module attributes visibility name content) ↔ legible content := by
  constructor
  · rintro (_ | _ | _ | _ | ⟨_, _, _, all⟩)
    exact all
  · exact .module attributes visibility name

instance : Legible ItemPhrase := ⟨fun phrase => legible phrase.item ∧ legible phrase.written⟩

@[simp]
theorem legible_itemPhrase {item : Item} {written : Phrase} :
    legible (ItemPhrase.mk item written) ↔ legible item ∧ legible written := Iff.rfl

@[simp]
theorem legible_itemWritten {phrase : ItemPhrase} (all : legible phrase) :
    legible phrase.written := all.2

@[simp]
theorem legible_writtenItems {phrases : List ItemPhrase} (all : legible phrases) :
    legible (phrases.map ItemPhrase.item) ∧ legible (phrases.map ItemPhrase.written) :=
  ⟨legible_map (fun _ phraseAll => (legible_itemPhrase.mp phraseAll).1) all,
    legible_map (fun _ => legible_itemWritten) all⟩

end Wireform.Syntax
