import Wireform.Proofs.Syntax.LegibleExpressionRules
import Wireform.Proofs.Syntax.LexedTrees
import Wireform.Syntax.Parse

/-! # Readings of files

The rules for items read what can be told by its text, and so do the levels of rules that whole
texts are read with. -/

namespace Wireform.Syntax

open Std.Do Wireform.Text Phrase

set_option mvcgen.warning false

namespace Rules

open Wireform.Syntax.Parser

variable {rules : Rules} [rules.ReadLegibly]

/-! ## Parts of items -/

@[spec]
theorem visibilityPath_spec : Gives legible visibilityPath := by
  mvcgen [Rules.visibilityPath]
  all_goals simp_all

@[spec]
theorem visibility_spec : Gives legible visibility := by
  mvcgen [Rules.visibility]
  all_goals simp_all
  rename_i all _ _ parsed
  exact good_of_parseAll? visibilityPath_spec all.1 parsed

instance : Unread FunctionParameter := ⟨⟩
instance : Unread Method := ⟨⟩

instance : Unread Field := ⟨⟩

@[simp]
theorem legible_fieldOf {attributes : List Attribute} {visibility : Visibility}
    {name : Option Name} {ty : Ty} {position : Position} (attributesAll : legible attributes)
    (visibilityAll : legible visibility) (identifier : legible name) (tyAll : legible ty.phrase) :
    legible (fieldOf attributes visibility name ty position).2 := by
  simp [fieldOf, attributesAll, visibilityAll, identifier, tyAll]

@[spec]
theorem fieldList_spec {delimiter : Delimiter} {field : Parser FieldPhrase}
    (gives : Gives legible field) : Gives legible (fieldList delimiter field) :=
  inside_spec delimiter (commaList_spec gives)

@[spec]
theorem namedFieldRule_spec (depth : Nat) : Gives legible (rules.namedFieldRule depth) := by
  induction depth with
  | zero =>
    mvcgen [Rules.namedFieldRule]
  | succ depth ih =>
    mvcgen [Rules.namedFieldRule, ih]
    all_goals simp_all +zetaDelta

@[spec]
theorem namedField_spec : Gives legible rules.namedField := by
  mvcgen [Rules.namedField]

@[spec]
theorem tupleField_spec : Gives legible rules.tupleField := by
  mvcgen [Rules.tupleField]
  all_goals simp_all

@[spec]
theorem namedFields_spec : Gives legible rules.namedFields := fieldList_spec namedField_spec

@[spec]
theorem tupleFields_spec : Gives legible rules.tupleFields := fieldList_spec tupleField_spec

@[simp]
theorem legible_optionMap {α β : Type} [Legible β] {change : α → β} {option : Option α}
    (each : ∀ value, legible (change value)) : legible (option.map change) := by
  cases option <;> simp [each]

@[simp]
theorem legible_seconds {α β : Type} [Legible α] [Legible β] {pairs : List (α × β)}
    (all : legible pairs) : legible (pairs.map Prod.snd) :=
  legible_map (fun _ pairAll => (legible_pair.mp pairAll).2) all

@[spec]
theorem variant_spec : Gives legible rules.variant := by
  mvcgen [Rules.variant]
  all_goals simp_all

/-! ## Functions -/

@[spec]
theorem receiver_spec : Gives legible rules.receiver := by
  mvcgen [Rules.receiver]
  all_goals simp_all

@[spec]
theorem functionParameter_spec {attributes : Phrase} (all : legible attributes) :
    Gives legible (rules.functionParameter attributes) := by
  mvcgen [Rules.functionParameter]
  all_goals simp_all +zetaDelta

@[spec]
theorem functionParameters_spec : Gives legible rules.functionParameters := by
  have round (rounds : Nat) (first : Bool) :
      Gives legible (functionParameters.go rules rounds first) := by
    induction rounds generalizing first with
    | zero =>
      mvcgen [Rules.functionParameters.go]
      all_goals simp_all
    | succ rounds ih =>
      mvcgen [Rules.functionParameters.go, ih]
      all_goals simp_all
  mvcgen [Rules.functionParameters, round]

@[spec]
theorem functionWords_spec (foreign : Bool) : Gives legible (functionWords foreign) := by
  mvcgen [Rules.functionWords]
  all_goals simp_all +zetaDelta

instance : Legible Signature where
  legible signature := legible signature.written ∧ legible signature.predicates

@[simp]
theorem legible_signature {signature : Signature} : legible signature ↔
    legible signature.written ∧ legible signature.predicates := Iff.rfl

@[spec]
theorem signature_spec (foreign : Bool) : Gives legible (rules.signature foreign) := by
  mvcgen [Rules.signature]
  all_goals simp_all +zetaDelta

@[spec]
theorem optionalBody_spec : Gives legible rules.optionalBody := by
  mvcgen [Rules.optionalBody]
  all_goals simp_all

/-! ## Types and constants -/

@[spec]
theorem associatedBounds_spec : Gives legible rules.associatedBounds := by
  mvcgen [Rules.associatedBounds]
  all_goals simp_all

instance : Legible TypeDeclaration where
  legible declaration := legible declaration.name ∧ legible declaration.parameters ∧
    legible declaration.bounds ∧ legible declaration.definition ∧ legible declaration.predicates

@[simp]
theorem legible_typeDeclaration {declaration : TypeDeclaration} : legible declaration ↔
    legible declaration.name ∧ legible declaration.parameters ∧ legible declaration.bounds ∧
      legible declaration.definition ∧ legible declaration.predicates := Iff.rfl

theorem legible_definition? {declaration : TypeDeclaration} (all : legible declaration) {ty : Ty}
    (found : declaration.definition? = some ty) : legible ty := by
  unfold TypeDeclaration.definition? at found
  split at found
  · cases found
  · exact (legible_typeDeclaration.mp all).2.2.2.1 ty found

@[spec]
theorem typeDeclaration_spec (place : ClausePlace) :
    Gives legible (rules.typeDeclaration place) := by
  mvcgen [Rules.typeDeclaration]
  all_goals simp_all

instance : Legible ConstantDeclaration where
  legible declaration := legible declaration.name ∧ legible declaration.ty ∧
    legible declaration.value

@[simp]
theorem legible_constantDeclaration {declaration : ConstantDeclaration} : legible declaration ↔
    legible declaration.name ∧ legible declaration.ty ∧ legible declaration.value := Iff.rfl

@[spec]
theorem constantDeclaration_spec : Gives legible rules.constantDeclaration := by
  mvcgen [Rules.constantDeclaration]
  all_goals simp_all

@[spec]
theorem itemInvocation_spec : Gives legible itemInvocation := by
  mvcgen [Rules.itemInvocation]
  all_goals simp_all

@[spec]
theorem members_spec {α : Type} [Legible α] {member : Parser α} (gives : Gives legible member) :
    Gives legible (rules.members member) := by
  mvcgen [Rules.members]
  all_goals simp_all

/-! ## Traits, implementations and foreign items -/

@[spec]
theorem orVerbatim_spec {before : List Tree} {written : Option Phrase} (beforeAll : legible before)
    (all : legible written) : Gives legible (orVerbatim before written) := by
  mvcgen [Rules.orVerbatim]
  all_goals simp_all

section Members

variable {before : List Tree} {attributes words : Phrase} (beforeAll : legible before)
  (all : legible attributes)

include beforeAll all

@[spec]
theorem traitFunction_spec (marked : Bool) :
    Gives legible (rules.traitFunction before attributes marked) := by
  mvcgen [Rules.traitFunction]
  all_goals simp_all +zetaDelta

@[spec]
theorem traitConstant_spec (marked : Bool) :
    Gives legible (rules.traitConstant before attributes marked) := by
  mvcgen [Rules.traitConstant]
  all_goals simp_all +zetaDelta

omit beforeAll all in
@[simp]
theorem legible_associatedBoundsPhrase {bounds : Option (List Bound × Bool)}
    (boundsAll : legible bounds) : legible (associatedBoundsPhrase bounds) := by
  cases bounds <;> simp_all [associatedBoundsPhrase]

@[spec]
theorem traitType_spec (marked : Bool) :
    Gives legible (rules.traitType before attributes marked) := by
  mvcgen [Rules.traitType]
  all_goals simp_all +zetaDelta

omit beforeAll all in
@[spec]
theorem traitMember_spec : Gives legible rules.traitMember := by
  mvcgen [Rules.traitMember]
  all_goals simp_all +zetaDelta

@[spec]
theorem implementationFunction_spec (wordsAll : legible words) :
    Gives legible (rules.implementationFunction before attributes words) := by
  mvcgen [Rules.implementationFunction]
  all_goals simp_all +zetaDelta

@[spec]
theorem implementationConstant_spec (wordsAll : legible words) :
    Gives legible (rules.implementationConstant before attributes words) := by
  mvcgen [Rules.implementationConstant]
  all_goals simp_all +zetaDelta

@[spec]
theorem implementationType_spec (wordsAll : legible words) :
    Gives legible (rules.implementationType before attributes words) := by
  mvcgen [Rules.implementationType]
  all_goals simp_all +zetaDelta

omit beforeAll all in
@[spec]
theorem takesDefault_spec : Gives legible takesDefault := by
  mvcgen [Rules.takesDefault]
  all_goals simp_all

omit beforeAll all in
@[spec]
theorem implementationMember_spec : Gives legible rules.implementationMember := by
  mvcgen [Rules.implementationMember]
  all_goals simp_all +zetaDelta

@[spec]
theorem foreignFunction_spec (wordsAll : legible words) :
    Gives legible (rules.foreignFunction before attributes words) := by
  mvcgen [Rules.foreignFunction]
  all_goals simp_all +zetaDelta

@[spec]
theorem foreignStatic_spec (wordsAll : legible words) :
    Gives legible (rules.foreignStatic before attributes words) := by
  mvcgen [Rules.foreignStatic]
  all_goals simp_all +zetaDelta

@[spec]
theorem foreignType_spec (wordsAll : legible words) :
    Gives legible (rules.foreignType before attributes words) := by
  mvcgen [Rules.foreignType]
  all_goals simp_all +zetaDelta

omit beforeAll all in
@[spec]
theorem foreignMember_spec : Gives legible rules.foreignMember := by
  mvcgen [Rules.foreignMember]
  all_goals simp_all +zetaDelta

end Members

@[spec]
theorem foreignModule_spec {attributes : Phrase} (all : legible attributes) :
    Gives legible (rules.foreignModule attributes) := by
  mvcgen [Rules.foreignModule]
  all_goals simp_all +zetaDelta

@[spec]
theorem trait_spec {attributes visibility : Phrase} (all : legible attributes)
    (visibilityAll : legible visibility) : Gives legible (rules.trait attributes visibility) := by
  mvcgen [Rules.trait]
  all_goals simp_all +zetaDelta

@[spec]
theorem implementation_spec {before : List Tree} {attributes : Phrase} (visible : Bool)
    (beforeAll : legible before) (all : legible attributes) :
    Gives legible (rules.implementation before attributes visible) := by
  mvcgen [Rules.implementation]
  all_goals simp_all +zetaDelta

/-! ## Use declarations and modules -/

instance : Unread UseTree := ⟨⟩

@[spec]
theorem useTree_spec (depth : Nat) (rooted : Bool) : Gives legible (useTree depth rooted) := by
  induction depth generalizing rooted with
  | zero =>
    mvcgen [Rules.useTree]
  | succ depth ih =>
    mvcgen [Rules.useTree, ih]
    all_goals simp_all

@[spec]
theorem useDeclaration_spec {before : List Tree} {attributes visibility : Phrase}
    (beforeAll : legible before) (all : legible attributes) (visibilityAll : legible visibility) :
    Gives legible (useDeclaration before attributes visibility) := by
  mvcgen [Rules.useDeclaration]
  all_goals simp_all

@[spec]
theorem externalCrate_spec {attributes visibility : Phrase} (all : legible attributes)
    (visibilityAll : legible visibility) : Gives legible (externalCrate attributes visibility) := by
  mvcgen [Rules.externalCrate]
  all_goals simp_all

@[spec]
theorem items_spec : Gives legible rules.items := by
  mvcgen [Rules.items]
  all_goals simp_all

@[spec]
theorem module_spec {attributes : List Attribute} {visibility : Visibility}
    (all : legible attributes) (visibilityAll : legible visibility) :
    Gives legible (rules.module attributes visibility) := by
  mvcgen [Rules.module]
  all_goals simp_all +zetaDelta

/-! ## All items -/

section Items

variable {before : List Tree} {attributes visibility : Phrase} (beforeAll : legible before)
  (all : legible attributes) (visibilityAll : legible visibility)

include beforeAll all visibilityAll

@[spec]
theorem static_spec : Gives legible (rules.static before attributes visibility) := by
  mvcgen [Rules.static]
  all_goals simp_all +zetaDelta

@[spec]
theorem constant_spec : Gives legible (rules.constant before attributes visibility) := by
  mvcgen [Rules.constant]
  all_goals simp_all +zetaDelta

@[spec]
theorem typeAlias_spec : Gives legible (rules.typeAlias before attributes visibility) := by
  mvcgen [Rules.typeAlias]
  all_goals simp_all
  rename_i found _ declared
  exact Written.legible_typeAlias visibilityAll declared.1.1 declared.1.2.1
    declared.1.2.2.2.2 (legible_definition? declared.1 found)

@[spec]
theorem function_spec : Gives legible (rules.function before attributes visibility) := by
  mvcgen [Rules.function]
  all_goals simp_all +zetaDelta

omit beforeAll in
@[spec]
theorem enumeration_spec : Gives legible (rules.enumeration attributes visibility) := by
  mvcgen [Rules.enumeration]
  all_goals simp_all +zetaDelta

omit beforeAll in
@[spec]
theorem union_spec : Gives legible (rules.union attributes visibility) := by
  mvcgen [Rules.union]
  all_goals simp_all +zetaDelta

omit all visibilityAll in
@[spec]
theorem tokenDefinition_spec : Gives legible (tokenDefinition before) := by
  mvcgen [Rules.tokenDefinition]
  all_goals simp_all

omit beforeAll all visibilityAll in
@[simp]
theorem legible_namedInvocation {path : Path} {name : Name} {delimiter : Delimiter}
    {content : List Tree} (pathAll : legible path) (identifier : legible name)
    (contentAll : legible content) : legible (namedInvocation path name delimiter content) := by
  unfold namedInvocation
  split <;> simp [pathAll, identifier, contentAll]

omit beforeAll visibilityAll in
@[spec]
theorem invocationItem_spec : Gives legible (invocationItem attributes) := by
  mvcgen [Rules.invocationItem]
  all_goals simp_all +zetaDelta

end Items

@[spec]
theorem struct_spec {attributes : List Attribute} {visibility : Visibility}
    (all : legible attributes) (visibilityAll : legible visibility) :
    Gives legible (rules.struct attributes visibility) := by
  mvcgen [Rules.struct]
  all_goals simp_all +zetaDelta

@[spec]
theorem itemRule_spec {before : List Tree} {attributes : List Attribute}
    (beforeAll : legible before) (all : legible attributes) :
    Gives legible (rules.itemRule before attributes) := by
  mvcgen [Rules.itemRule]
  all_goals simp_all +zetaDelta

/-! ## Levels -/

instance readLegibly_step : rules.step.ReadLegibly where
  type := typeRule_spec
  bound := boundRule_spec
  operand := operandRule_spec
  continued := continuedRule_spec
  bounded := boundedRule_spec
  pattern := patternRule_spec
  statements := statementsRule_spec
  item := itemRule_spec

omit [rules.ReadLegibly] in
/-- Rules keep to what can be told however deep they are applied inside one another. -/
instance readLegibly_level (depth : Nat) : (level depth).ReadLegibly := by
  induction depth with
  | zero =>
    exact ⟨fun _ => failure_spec, fun _ _ => failure_spec, fun _ => failure_spec,
      fun _ _ _ _ => failure_spec, fun _ => failure_spec, failure_spec, failure_spec,
      fun _ _ => failure_spec⟩
  | succ depth ih => exact readLegibly_step

omit [rules.ReadLegibly] in
instance readLegibly_forTrees (trees : List Tree) : (forTrees trees).ReadLegibly :=
  readLegibly_level _

end Rules

/-- The items of a file can be told by its text. -/
theorem legible_of_parseFile? {text : String} {items : List Item}
    (parsed : parseFile? text = some items) : legible items := by
  obtain ⟨trees, read, parsed⟩ := Option.bind_eq_some_iff.mp parsed
  refine Parser.good_of_parseAll? ?_ (Tree.legible_of_readFrom? read) parsed
  mvcgen
  all_goals simp_all

end Wireform.Syntax
