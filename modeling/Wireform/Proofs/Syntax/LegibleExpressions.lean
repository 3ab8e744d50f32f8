import Wireform.Proofs.Syntax.LegibleTypes
import Wireform.Syntax.Attribute
import Wireform.Syntax.Phrase.Item

/-! # Legible expressions and statements

What is written of an expression, an attribute or a statement can be told by its text if that of its
parts can. -/

namespace Wireform.Syntax

open Wireform.Text Phrase

@[simp]
theorem legible_tokens {phrase : Phrase} : legible phrase.tokens ↔ legible phrase := Iff.rfl

/-! ## Literals and invocations -/

/-- A literal is written behind the sign that its spelling may begin with. -/
instance : Legible Literal := ⟨fun token => legible (ofLiteral token)⟩

@[simp]
theorem legible_ofLiteral {token : Literal} : legible (ofLiteral token) ↔ legible token := Iff.rfl

theorem whole_ofLiteral {token : Literal} (all : legible token) : (ofLiteral token).Has Whole := by
  refine has_of_isPlain all ?_
  intro tree among
  unfold ofLiteral at among
  dsimp only at among
  split at among
  · simp only [List.mem_cons, List.not_mem_nil, or_false] at among
    rcases among with rfl | rfl <;> rfl
  · obtain rfl := List.mem_singleton.mp among
    rfl

theorem whole_invocationPhrase {path : Path} {name : Option Name} {delimiter : Delimiter}
    {content : List Tree} (pathAll : legible path) (identifier : legible name)
    (all : legible content) : (invocationPhrase path name delimiter content).Has Whole := by
  have named : (ofOption (name.map fun name => blank ++ ofName name)).Has Whole := by
    cases name with
    | none => exact has_empty
    | some name => exact has_append has_blank (has_ofName (legible_some.mp identifier))
  have group : (Phrase.group delimiter (unseen content)).Has Whole :=
    has_group (legible_unseen.mpr all)
  exact TokenProperty.append (has_concat (by simp [whole_path pathAll, named])) group

@[simp]
theorem legible_invocationPhrase {path : Path} {name : Option Name} {delimiter : Delimiter}
    {content : List Tree} (pathAll : legible path) (identifier : legible name)
    (all : legible content) : legible (invocationPhrase path name delimiter content) :=
  legible_of_whole (whole_invocationPhrase pathAll identifier all)

@[simp]
theorem legible_rulesPhrase {path : Path} {name : Name} {delimiter : Delimiter}
    {content : List Tree} (pathAll : legible path) (identifier : legible name)
    (all : legible content) : legible (rulesPhrase path name delimiter content) := by
  have written : legible ((path.phrase false).tokens ++ Tree.ofOperator "!" ++
      [.word name .start, .group delimiter content .start]) := by
    have pathWritten : legible (path.phrase false).tokens :=
      (whole_path pathAll false).legible
    have group : legible (Tree.group delimiter content .start) := .group delimiter all .start
    have word : legible (Tree.word name .start) := .word identifier .start
    simp [legible_list_append, pathWritten, group, word]
  unfold rulesPhrase
  dsimp only
  split
  · exact written
  · exact written

/-! ## Expressions -/

instance : Legible ExprPhrase := ⟨fun expression => legible expression.tokens⟩

namespace ExprPhrase

variable {expression left right : ExprPhrase} {written : Phrase}

@[simp]
theorem legible_phrase : legible expression.phrase ↔ legible expression := Iff.rfl

@[simp]
theorem legible_opening : legible expression.opening ↔ legible expression := Iff.rfl

@[simp]
theorem legible_tokens : legible expression.tokens ↔ legible expression := Iff.rfl

@[simp]
theorem legible_ofPhrase {expr : Expr} {manner : Manner} :
    legible (ofPhrase expr written manner) ↔ legible written := Iff.rfl

@[simp]
theorem legible_phrases {list : List ExprPhrase} (all : legible list) :
    legible (list.map phrase) := legible_map (fun _ => legible_phrase.mpr) all

@[simp]
theorem legible_withAttributes {attributes : Phrase} (written : legible attributes)
    (all : legible expression) : legible (expression.withAttributes attributes) := by
  unfold withAttributes
  split
  · exact all
  · exact legible_list_append.mpr ⟨written, all⟩

@[simp]
theorem legible_verbatim {tokens : List Tree} : legible (verbatim tokens) ↔ legible tokens :=
  Iff.rfl

@[simp]
theorem legible_literal {token : Literal} : legible (literal token) ↔ legible token := Iff.rfl

@[simp]
theorem legible_truth (value : Bool) : legible (truth value) := by
  cases value <;> simp [truth]

@[simp]
theorem legible_path {path : Path} (all : legible path) : legible (ExprPhrase.path path) :=
  (whole_path all true).legible

@[simp]
theorem legible_projection {projection : Projection} (all : legible projection) :
    legible (ExprPhrase.projection projection) := (all true).legible

@[simp]
theorem legible_grouped : legible (grouped expression) ↔ legible expression := by simp [grouped]

@[simp]
theorem legible_tuple {values : List ExprPhrase} {trailing : Bool} (all : legible values) :
    legible (tuple values trailing) := by
  match values with
  | [] => simp [tuple]
  | [only] => simpa [tuple] using all
  | first :: second :: rest => exact legible_inParentheses.mpr (legible_items (legible_phrases all))

@[simp]
theorem legible_array {values : List ExprPhrase} {trailing : Bool} (all : legible values) :
    legible (array values trailing) := by
  unfold array
  dsimp only
  split
  · simp
  · split <;> simp [all]

@[simp]
theorem legible_repeated : legible (repeated left right) ↔ legible left ∧ legible right := by
  simp [repeated]

@[simp]
theorem legible_inferred : legible inferred := by simp [inferred]

@[simp]
theorem legible_invocation {delimiter : Delimiter} :
    legible (invocation delimiter written) ↔ legible written := Iff.rfl

@[simp]
theorem legible_not : legible (not expression) ↔ legible expression := by simp [not]

@[simp]
theorem legible_unary : legible (unary written expression) ↔
    legible written ∧ legible expression := by simp [unary]

@[simp]
theorem legible_binary {operator : BinaryOperator}
    (symbols : legible (Tree.ofOperator operator.symbols)) (leftAll : legible left)
    (rightAll : legible right) : legible (binary operator left right) := by
  simp [binary, operation, symbols, leftAll, rightAll]

@[simp]
theorem legible_assign : legible (assign left right) ↔ legible left ∧ legible right := by
  simp [assign]

@[simp]
theorem legible_cast {target : Ty} (all : legible expression) (tyAll : legible target) :
    legible (cast expression target) := by
  simp [cast, operation, all, tyAll]

@[simp]
theorem legible_range {first last : Option ExprPhrase} {dots : String}
    (symbols : legible (Tree.ofOperator dots)) (firstAll : legible first)
    (lastAll : legible last) : legible (range first dots last) := by
  cases first <;> cases last <;> simp_all [range, ofOption]

@[simp]
theorem legible_arguments {values : List ExprPhrase} {trailing : Bool} (all : legible values) :
    legible (arguments values trailing) := by
  unfold arguments
  dsimp only
  split
  · split <;> simp_all
  · simp [all]

@[simp]
theorem legible_call : legible (call expression written) ↔ legible expression ∧ legible written :=
  legible_list_append

@[simp]
theorem legible_index : legible (index left right) ↔ legible left ∧ legible right := by
  refine legible_list_append.trans ?_
  simp

@[simp]
theorem legible_question : legible (question expression) ↔ legible expression := by
  refine legible_list_append.trans ?_
  simp

@[simp]
theorem legible_member : legible (member expression written) ↔
    legible expression ∧ legible written := by
  refine legible_list_append.trans ?_
  simp

@[simp]
theorem legible_methodCall {arguments : Phrase} :
    legible (methodCall expression written arguments) ↔
      (legible expression ∧ legible written) ∧ legible arguments := by
  refine legible_list_append.trans ?_
  simp

@[simp]
theorem legible_jump {value : Option ExprPhrase} (keyword : legible written)
    (all : legible value) : legible (jump written value) := by
  cases value <;> simp_all [jump]

@[simp]
theorem legible_letCondition : legible (letCondition written expression) ↔
    legible written ∧ legible expression := by simp [letCondition]

@[simp]
theorem legible_fieldValue {attributes : Phrase} {value : Option ExprPhrase}
    (attributesAll : legible attributes) (name : legible written) (all : legible value) :
    legible (fieldValue attributes written value) := by
  cases value <;> simp_all [fieldValue]

instance : Legible Rest where
  legible
    | .value expression => legible expression
    | _ => True

@[simp]
theorem legible_restNone : legible Rest.none := trivial

@[simp]
theorem legible_restUnnamed : legible Rest.unnamed := trivial

@[simp]
theorem legible_restValue : legible (Rest.value expression) ↔ legible expression := Iff.rfl

@[simp]
theorem legible_struct {fields : List Phrase} {trailing : Bool} {rest : Rest}
    (path : legible written) (all : legible fields) (restAll : legible rest) :
    legible (struct written fields trailing rest) := by
  have separate : legible (fields.map fun field => concat [field, mark ",", gap .blank]) :=
    legible_map (fun field fieldAll => by simp [fieldAll]) all
  have group (content : Phrase) (contentAll : legible content) :
      legible (written ++ inBraces content) :=
    legible_append.mpr ⟨path, legible_inBraces.mpr contentAll⟩
  unfold struct
  cases rest with
  | none => exact group _ (by simp [all])
  | unnamed => exact group _ (by simp [all])
  | value value => exact group _ (by simp [separate, legible_restValue.mp restAll])

end ExprPhrase

/-! ## Attributes -/

instance : Legible Attribute := ⟨fun tag => AttributeTokens tag.written.tokens⟩

theorem attributeTokens_withGap {inner : Bool} {content : Phrase} (all : legible content)
    (comment : Option String) :
    AttributeTokens (Attribute.withGap (Attribute.bracketed inner content) comment).tokens := by
  have tokens : AttributeTokens (Attribute.bracketed inner content).tokens := by
    have sole := AttributeTokens.cons inner all .nil
    cases inner <;> exact sole
  cases comment with
  | some comment => exact tokens
  | none => exact tokens.append .nil

theorem attributeTokens_attributesPhrase {attributes : List Attribute} (all : legible attributes) :
    AttributeTokens (attributesPhrase attributes).tokens := by
  induction attributes with
  | nil => exact .nil
  | cons head tail ih =>
    obtain ⟨first, rest⟩ := legible_cons.mp all
    exact first.append (ih rest)

theorem legible_of_attributeTokens {attributes : Phrase}
    (tokens : AttributeTokens attributes.tokens) : legible attributes := tokens.whole.legible

@[simp]
theorem legible_attributesPhrase {attributes : List Attribute} (all : legible attributes) :
    legible (attributesPhrase attributes) :=
  legible_of_attributeTokens (attributeTokens_attributesPhrase all)

@[simp]
theorem legible_ofPath {inner : Bool} {path : Path} {position : Position} (all : legible path) :
    legible (Attribute.ofPath inner path position) :=
  attributeTokens_withGap (legible_of_whole (whole_path all false)) none

@[simp]
theorem legible_ofList {inner : Bool} {path : Path} {position : Position} {delimiter : Delimiter}
    {tokens : List Tree} (pathAll : legible path) (all : legible tokens) :
    legible (Attribute.ofList inner path position delimiter tokens) := by
  refine attributeTokens_withGap (legible_append.mpr ⟨?_, ?_⟩) none
  · exact legible_of_whole (whole_path pathAll false)
  · exact legible_group.mpr (show legible (unseen tokens) from all)

@[simp]
theorem legible_ofValue {inner : Bool} {path : Path} {position : Position} {value : ExprPhrase}
    (pathAll : legible path) (all : legible value) :
    legible (Attribute.ofValue inner path position value) :=
  attributeTokens_withGap
    (by simp [legible_of_whole (whole_path pathAll false), all]) _

/-! ## Blocks and statements -/

instance : Legible Statement where
  legible
    | .value expression => legible expression
    | .invocation written _ _ => legible written
    | .other written => legible written

instance : Legible Block :=
  ⟨fun block => legible block.attributes ∧ legible block.statements⟩

@[simp]
theorem legible_block {attributes : Phrase} {statements : List Statement} :
    legible (Block.mk attributes statements) ↔ legible attributes ∧ legible statements := Iff.rfl

namespace Statement

@[simp]
theorem legible_value {expression : ExprPhrase} :
    legible (value expression) ↔ legible expression := Iff.rfl

@[simp]
theorem legible_invocation {written : Phrase} {delimiter : Delimiter} {ended : Bool} :
    legible (invocation written delimiter ended) ↔ legible written := Iff.rfl

@[simp]
theorem legible_other {written : Phrase} : legible (other written) ↔ legible written := Iff.rfl

@[simp]
theorem legible_nothing : legible nothing := by simp [nothing]

@[simp]
theorem legible_ended {expression : ExprPhrase} (all : legible expression) :
    legible (ended expression) := by
  unfold ended
  dsimp only
  split <;> simp [all]

@[simp]
theorem legible_declaration {attributes pattern : Phrase} {value : Option ExprPhrase}
    {alternative : Option Phrase} (attributesAll : legible attributes)
    (patternAll : legible pattern) (valueAll : legible value)
    (alternativeAll : legible alternative) :
    legible (declaration attributes pattern value alternative) := by
  cases value <;> cases alternative <;> simp_all [declaration]

theorem legible_phrase {statement : Statement} (all : legible statement) (last : Bool) :
    legible (statement.phrase last) := by
  cases statement with
  | value expression =>
    unfold phrase
    dsimp only
    split <;> simp_all
  | invocation written delimiter ended =>
    unfold phrase
    dsimp only
    split
    · simp_all
    · split <;> simp_all
  | other written => exact all

@[simp]
theorem legible_phraseOfList {statements : List Statement} (all : legible statements) :
    legible (phraseOfList statements) := by
  induction statements with
  | nil => exact legible_empty
  | cons head tail ih =>
    obtain ⟨first, rest⟩ := legible_cons.mp all
    cases tail with
    | nil => exact legible_phrase first true
    | cons next tail => exact legible_append.mpr ⟨legible_phrase first false, ih rest⟩

end Statement

namespace Block

variable {block : Block} (all : legible block)

include all

@[simp]
theorem legible_small : legible block.small := by
  obtain ⟨attributes, statements⟩ := all
  unfold small
  split
  · simp
  · simp only [legible_inBraces, legible_closing, legible_concat, legible_cons]
    refine ⟨legible_gap _, attributes, ?_, legible_nil⟩
    split <;> simp_all

@[simp]
theorem legible_lines : legible block.lines := by
  obtain ⟨attributes, statements⟩ := all
  simp [lines, attributes, statements]

@[simp]
theorem legible_tall : legible block.tall := by simp [tall, all]

@[simp]
theorem legible_tallBehindCondition : legible block.tallBehindCondition := by
  simp [tallBehindCondition, all]

end Block

namespace ExprPhrase

variable {subject : ExprPhrase} {block : Block} {name : Option Name} {words : Phrase}

@[simp]
theorem legible_closureBody (all : legible subject) : legible subject.closureBody := by
  unfold closureBody
  dsimp only
  split <;> simp [all]

@[simp]
theorem legible_arm {attributes pattern : Phrase} {guard : Option ExprPhrase} {comma : Bool}
    (attributesAll : legible attributes) (patternAll : legible pattern) (guardAll : legible guard)
    (all : legible subject) : legible (arm attributes pattern guard subject comma) := by
  have body : legible (Phrase.mk subject.tokens subject.armLayout subject.printable) := all
  cases guard <;> simp_all [arm]

@[simp]
theorem legible_label (identifier : legible name) : legible (label name) := by
  cases name <;> simp_all [label]

@[simp]
theorem legible_block (identifier : legible name) (all : legible block) :
    legible (ExprPhrase.block name block) := by
  simp [ExprPhrase.block, identifier, all]

@[simp]
theorem legible_wordBlock {selfEnding : Bool} (written : legible words) (all : legible block) :
    legible (wordBlock words block selfEnding) := by
  simp [wordBlock, written, all]

@[simp]
theorem legible_condition (all : legible subject) : legible subject.condition := by
  unfold condition
  split <;> simp [all]

instance : Legible Alternative := ⟨fun alternative => legible alternative.written⟩

@[simp]
theorem legible_ofBlock (all : legible block) : legible (Alternative.ofBlock block) := by
  change legible (concat _)
  simp [all]

@[simp]
theorem legible_alternativeWritten {alternative : Option Alternative} (all : legible alternative) :
    legible (alternative.map Alternative.written) := by
  cases alternative <;> simp_all
  exact all

@[simp]
theorem legible_ofChoice {alternative : Option Alternative} (subjectAll : legible subject)
    (all : legible block) (alternativeAll : legible alternative) :
    legible (Alternative.ofChoice subject block alternative) := by
  change legible (concat _)
  simp [subjectAll, all, alternativeAll]

@[simp]
theorem legible_choice {alternative : Option Alternative} (subjectAll : legible subject)
    (all : legible block) (alternativeAll : legible alternative) :
    legible (choice subject block alternative) := by
  cases alternative with
  | some alternative =>
    have written : legible alternative := legible_some.mp alternativeAll
    have written : legible alternative.written := written
    simp [choice, subjectAll, all, written]
  | none =>
    have statements : legible block.statements := all.2
    unfold choice
    dsimp only
    split <;> simp [subjectAll, statements]

@[simp]
theorem legible_loop (identifier : legible name) (all : legible block) :
    legible (loop name block) := by simp [loop, identifier, all]

@[simp]
theorem legible_whileLoop (identifier : legible name) (subjectAll : legible subject)
    (all : legible block) : legible (whileLoop name subject block) := by
  simp [whileLoop, identifier, subjectAll, all]

@[simp]
theorem legible_forLoop {pattern : Phrase} (identifier : legible name)
    (patternAll : legible pattern) (subjectAll : legible subject) (all : legible block) :
    legible (forLoop name pattern subject block) := by
  simp [forLoop, identifier, patternAll, subjectAll, all]

@[simp]
theorem legible_matching {attributes : Phrase} {arms : List Phrase} (subjectAll : legible subject)
    (attributesAll : legible attributes) (all : legible arms) :
    legible (matching subject attributes arms) := by
  simp [matching, subjectAll, attributesAll, all]

@[simp]
theorem legible_closure {inputs : List Phrase} {trailing : Bool} {output : Option Ty}
    (written : legible words) (inputsAll : legible inputs) (outputAll : legible output)
    (all : legible subject) : legible (closure words inputs trailing output subject) := by
  cases output with
  | none =>
    unfold closure
    dsimp only
    split <;> simp [written, inputsAll, all]
  | some ty =>
    have tyAll := legible_some.mp outputAll
    unfold closure
    dsimp only
    split <;> simp [written, inputsAll, tyAll, all]

end ExprPhrase

end Wireform.Syntax
