import Wireform.Proofs.Syntax.LegiblePhrases

/-! # Legible types

Types, paths and bounds stand in angle brackets or in front of a mark that ends them, so it is asked
of them that their own angle brackets are closed. -/

namespace Wireform.Syntax

open Wireform.Text Phrase

/-! ## What is asked -/

instance : Legible Binder := ⟨fun binder => binder.phrase.Has Whole⟩
instance : Legible Argument := ⟨fun argument => argument.phrase.Has Inner⟩
instance : Legible Arguments :=
  ⟨fun arguments => ∀ inExpression, (arguments.phrase inExpression).Has Whole⟩
instance : Legible Segment := ⟨fun segment => legible segment.name ∧ legible segment.arguments⟩
instance : Legible Path := ⟨fun path => legible path.segments⟩
instance : Legible Projection :=
  ⟨fun projection => ∀ inExpression, (projection.phrase inExpression).Has Whole⟩

instance : Legible Bound where
  legible
    | .trait _ binder _ path => legible binder ∧ legible path
    | bound => bound.phrase.Has Whole

/-- A path can turn out to be the name of something else, and the bounds of an object those of
another one. -/
instance : Legible Ty where
  legible
    | .path path => legible path
    | .object _ bounds _ => legible bounds
    | ty => ty.phrase.Has Whole

instance : Legible Input where
  legible
    | .mk attributes name ty => legible attributes ∧ legible name ∧ legible ty.phrase

@[simp]
theorem legible_segment {name : Name} {arguments : Arguments} :
    legible (Segment.mk name arguments) ↔ legible name ∧ legible arguments := Iff.rfl

@[simp]
theorem legible_path {global : Bool} {segments : List Segment} :
    legible (Path.mk global segments) ↔ legible segments := Iff.rfl

@[simp]
theorem legible_input {attributes : Phrase} {name : Option Name} {ty : Ty} :
    legible (Input.mk attributes name ty) ↔
      legible attributes ∧ legible name ∧ legible ty.phrase := Iff.rfl

/-! ## Marks of types -/

@[simp]
theorem inner_comma : (mark ",").Has Inner := ⟨by simp [mark], enclosed_comma⟩

@[simp]
theorem inner_spacedComma (spelling : String) : (spacedMark "," spelling).Has Inner := inner_comma

@[simp]
theorem inner_equals (spelling : String) : (spacedMark "=" spelling).Has Inner :=
  ⟨by simp [spacedMark], enclosed_equals⟩

@[simp]
theorem whole_arrow (spelling : String) : (spacedMark "->" spelling).Has Whole :=
  ⟨by simp [spacedMark], closed_arrow⟩

theorem whole_angled (before inside behind : List Phrase) {closing : Phrase}
    (closes : closing.tokens = Tree.ofOperator ">") (beforeWhole : AllHave Whole before)
    (inner : AllHave Inner inside) (behindWhole : AllHave Whole behind) :
    (concat (before ++ mark "<" :: (inside ++ closing :: behind))).Has Whole := by
  have between : Whole (Tree.ofOperator "<" ++ (concat inside).tokens ++ Tree.ofOperator ">") := by
    have insideInner : (concat inside).Has Inner := has_concat inner
    exact ⟨by simpa using insideInner.legible, insideInner.enclosed.closed⟩
  have tokens : (concat (before ++ mark "<" :: (inside ++ closing :: behind))).tokens =
      (concat before).tokens ++ ((Tree.ofOperator "<" ++ (concat inside).tokens ++
        Tree.ofOperator ">") ++ (concat behind).tokens) := by
    simp [concat, closes, mark]
  have whole := TokenProperty.append (has_concat beforeWhole)
    (TokenProperty.append between (has_concat behindWhole))
  rw [Has, tokens]
  exact whole

/-! ## Paths -/

theorem whole_segmentsPhrase {segments : List Segment} (all : legible segments)
    (inExpression continued : Bool) :
    (segmentsPhrase inExpression continued segments).Has Whole := by
  induction segments generalizing continued with
  | nil => exact has_empty
  | cons head tail ih =>
    obtain ⟨name, arguments⟩ := head
    obtain ⟨first, rest⟩ := legible_cons.mp all
    obtain ⟨identifier, whole⟩ := legible_segment.mp first
    exact has_concat (by simp [identifier, whole inExpression, ih rest])

theorem whole_path {path : Path} (all : legible path) (inExpression : Bool) :
    (path.phrase inExpression).Has Whole := by
  obtain ⟨global, segments⟩ := path
  exact whole_segmentsPhrase all inExpression global

theorem whole_argumentSeparator (marked inExpression : Bool) :
    (argumentSeparator marked inExpression).Has Whole := by
  cases marked with
  | true => exact has_mark (by simp)
  | false => exact has_shown _

@[simp]
theorem argumentPhrases_eq_map (arguments : List Argument) :
    argumentPhrases arguments = arguments.map Argument.phrase := by
  induction arguments with
  | nil => rfl
  | cons head tail ih => exact congrArg (head.phrase :: ·) ih

@[simp]
theorem typePhrases_eq_map (types : List Ty) : typePhrases types = types.map Ty.phrase := by
  induction types with
  | nil => rfl
  | cons head tail ih => exact congrArg (head.phrase :: ·) ih

@[simp]
theorem boundPhrases_eq_map (bounds : List Bound) :
    boundPhrases bounds = bounds.map Bound.phrase := by
  induction bounds with
  | nil => rfl
  | cons head tail ih => exact congrArg (head.phrase :: ·) ih

@[simp]
theorem parameterPhrases_eq_map (parameters : List Parameter) :
    parameterPhrases parameters = parameters.map Parameter.phrase := by
  induction parameters with
  | nil => rfl
  | cons head tail ih => exact congrArg (head.phrase :: ·) ih

theorem allHave_map {α : Type} {holds : List Tree → Prop} {change : α → Phrase} {list : List α} :
    AllHave holds (list.map change) ↔ ∀ value ∈ list, (change value).Has holds :=
  List.forall_mem_map

/-! ## Bounds and types in phrases -/

theorem whole_optionalBinder {binder : Option Binder} (all : legible binder) :
    (optionalBinderPhrase binder).Has Whole := by
  cases binder with
  | none => exact has_empty
  | some binder => exact legible_some.mp all

theorem whole_bound {bound : Bound} (all : legible bound) : bound.phrase.Has Whole := by
  cases bound with
  | trait grouped binder relaxed path =>
    have whole : (concat [optionalBinderPhrase binder, if relaxed then mark "?" else empty,
        path.phrase false]).Has Whole :=
      has_concat (by simp [whole_optionalBinder all.1, whole_path all.2])
    exact has_ite (has_inParentheses (legible_of_whole whole)) whole
  | _ => exact all

@[simp]
theorem whole_boundPhrases {bounds : List Bound} (all : legible bounds) :
    AllHave Whole (bounds.map Bound.phrase) :=
  allHave_map.mpr fun bound among => whole_bound (all bound among)

@[simp]
theorem legible_boundPhrases {bounds : List Bound} (all : legible bounds) :
    legible (bounds.map Bound.phrase) :=
  legible_map (fun _ boundAll => legible_of_whole (whole_bound boundAll)) all

theorem whole_ty {ty : Ty} (all : legible ty) : ty.phrase.Has Whole := by
  cases ty with
  | path path => exact whole_path all false
  | object marked bounds trailing =>
    refine has_append (has_ite (has_spacedWord (by simp)) (has_shown _)) (has_plusSeparated ?_)
    rw [boundPhrases_eq_map]
    exact whole_boundPhrases all
  | _ => exact all

@[simp]
theorem legible_tyPhrase {ty : Ty} (all : legible ty) : legible ty.phrase :=
  legible_of_whole (whole_ty all)

@[simp]
theorem legible_typePhrases {types : List Ty} (all : legible types) :
    legible (types.map Ty.phrase) := legible_map (fun _ => legible_tyPhrase) all

theorem outputPhrase_whole {output : Option Ty} (all : legible output) :
    (outputPhrase output).Has Whole := by
  cases output with
  | none => exact has_empty
  | some ty =>
    exact has_append (whole_arrow _) (whole_ty (legible_some.mp all))

/-! ## Arguments -/

@[simp]
theorem legible_argumentsPhrase {arguments : Arguments} (all : legible arguments)
    (inExpression : Bool) : legible (arguments.phrase inExpression) :=
  legible_of_whole (all inExpression)

@[simp]
theorem legible_noArguments : legible Arguments.none := by
  intro inExpression
  exact has_empty

@[simp]
theorem legible_angled {marked trailing : Bool} {arguments : List Argument}
    (all : legible arguments) : legible (Arguments.angled marked arguments trailing) := by
  intro inExpression
  cases arguments with
  | nil =>
    have whole := whole_angled [argumentSeparator marked false] [] []
      (show (mark ">").tokens = _ from rfl) (by simp [whole_argumentSeparator]) allHave_nil
      allHave_nil
    show Whole ((argumentSeparator marked false).tokens ++ Tree.ofOperator "<" ++
      Tree.ofOperator ">")
    simpa [Has, concat, mark] using whole
  | cons head tail =>
    have inner : AllHave Inner (argumentPhrases (head :: tail)) := by
      rw [argumentPhrases_eq_map]
      exact allHave_map.mpr all
    exact whole_angled [argumentSeparator marked inExpression]
      [items Layout.indent (argumentPhrases (head :: tail)) trailing] [] rfl
      (by simp [whole_argumentSeparator])
      (allHave_cons.mpr ⟨has_items inner_comma inner, allHave_nil⟩) allHave_nil

@[simp]
theorem legible_called {inputs : List Ty} {trailing : Bool} {output : Option Ty}
    (all : legible inputs) (outputAll : legible output) :
    legible (Arguments.called inputs trailing output) := by
  intro inExpression
  refine has_append (has_inParentheses ?_) (outputPhrase_whole outputAll)
  simp [all]

@[simp]
theorem legible_lifetimeArgument {name : Name} (identifier : legible name) :
    legible (Argument.lifetime name) := by
  exact has_ofLifetime identifier

@[simp]
theorem legible_typeArgument {ty : Ty} (all : legible ty) : legible (Argument.type ty) :=
  inner_of_whole (whole_ty all)

@[simp]
theorem legible_constantArgument {value : Phrase} (whole : value.Has Whole) :
    legible (Argument.constant value) := by
  exact inner_of_whole whole

section Named

variable {name : Name} {arguments : Arguments} (identifier : legible name)
  (all : legible arguments)

include identifier all

@[simp]
theorem legible_equalType {ty : Ty} (tyAll : legible ty) :
    legible (Argument.equalType name arguments ty) :=
  has_concat (by
    simp [identifier, inner_of_whole (all false), inner_of_whole (whole_ty tyAll)])

@[simp]
theorem legible_equalConstant {value : Phrase} (whole : value.Has Whole) :
    legible (Argument.equalConstant name arguments value) := by
  exact has_concat (by simp [identifier, inner_of_whole (all false), inner_of_whole whole])

@[simp]
theorem legible_boundedArgument {bounds : List Bound} {trailing : Bool}
    (boundsAll : legible bounds) :
    legible (Argument.bounded name arguments bounds trailing) := by
  refine inner_of_whole (has_concat ?_)
  simp only [allHave_cons, allHave_nil, has_fill]
  refine ⟨has_ofName identifier, all false, ?_, trivial⟩
  cases bounds with
  | nil => exact has_mark (by simp)
  | cons head tail =>
    refine has_append (has_spacedMark (by simp)) (has_brokenPlusSeparated ?_)
    rw [boundPhrases_eq_map]
    exact whole_boundPhrases boundsAll

end Named

/-! ## Types -/

@[simp]
theorem legible_pathType {path : Path} : legible (Ty.path path) ↔ legible path := Iff.rfl

@[simp]
theorem legible_projectionType {projection : Projection} (all : legible projection) :
    legible (Ty.projection projection) := all false

@[simp]
theorem legible_grouped {inner : Ty} (all : legible inner) : legible (Ty.grouped inner) :=
  has_inParentheses (legible_tyPhrase all)

@[simp]
theorem legible_array {item : Ty} {length : Phrase} (all : legible item)
    (lengthAll : legible length) : legible (Ty.array item length) :=
  has_inBrackets (by simp [all, lengthAll])

@[simp]
theorem legible_slice {item : Ty} (all : legible item) : legible (Ty.slice item) :=
  has_inBrackets (legible_tyPhrase all)

@[simp]
theorem legible_tuple {items : List Ty} {trailing : Bool} (all : legible items) :
    legible (Ty.tuple items trailing) := by
  have phrases := legible_typePhrases all
  match items with
  | [] => exact has_inParentheses (legible_items phrases)
  | [only] => exact has_inParentheses (legible_single.mpr (legible_cons.mp phrases).1)
  | first :: second :: rest =>
    rw [← typePhrases_eq_map] at phrases
    exact has_inParentheses (legible_items phrases)

@[simp]
theorem legible_reference {lifetime : Option Name} {mutable : Bool} {target : Ty}
    (identifier : legible lifetime) (all : legible target) :
    legible (Ty.reference lifetime mutable target) := by
  cases lifetime with
  | none => exact has_concat (by simp [whole_ty all])
  | some name => exact has_concat (by simp [legible_some.mp identifier, whole_ty all])

@[simp]
theorem legible_pointer {mutable : Bool} {target : Ty} (all : legible target) :
    legible (Ty.pointer mutable target) := by
  have word : legible (if mutable then "mut" else "const") := by cases mutable <;> simp
  exact has_concat (by simp [word, whole_ty all])

@[simp]
theorem legible_never : legible Ty.never := has_mark (by simp)

@[simp]
theorem legible_inferred : legible Ty.inferred := has_word (by simp)

theorem legible_inputPhrases {inputs : List Input} (all : legible inputs) :
    legible (inputPhrases inputs) := by
  induction inputs with
  | nil => exact legible_nil
  | cons head tail ih =>
    obtain ⟨attributes, name, ty⟩ := head
    obtain ⟨first, rest⟩ := legible_cons.mp all
    obtain ⟨attributesAll, identifier, tyAll⟩ := legible_input.mp first
    cases name with
    | none => exact legible_cons.mpr ⟨by simp [attributesAll, tyAll], ih rest⟩
    | some name =>
      refine legible_cons.mpr ⟨?_, ih rest⟩
      simp [attributesAll, legible_some.mp identifier, tyAll]

@[simp]
theorem legible_functionInputs {shift : Int} {inputs : List Phrase} {trailing : Bool}
    {variadic : Option Phrase} (all : legible inputs) (dots : legible variadic) :
    legible (functionInputs shift inputs trailing variadic) := by
  cases variadic with
  | none => exact legible_items all
  | some variadic =>
    have separate : legible (inputs.map fun input => concat [input, mark ",", gap .blank]) :=
      legible_map (fun input inputAll => by simp [inputAll]) all
    simp [functionInputs, separate, legible_some.mp dots]

@[simp]
theorem legible_function {binder : Option Binder} {header : Phrase} {inputs : List Input}
    {trailing : Bool} {variadic : Option Phrase} {output : Option Ty} (binderAll : legible binder)
    (headerWhole : header.Has Whole) (all : legible inputs) (dots : legible variadic)
    (outputAll : legible output) :
    legible (Ty.function binder header inputs trailing variadic output) :=
  has_concat (by
    simp [whole_optionalBinder binderAll, headerWhole, legible_inputPhrases all, dots,
      outputPhrase_whole outputAll])

@[simp]
theorem legible_object {marked : Bool} {bounds : List Bound} {trailing : Bool} :
    legible (Ty.object marked bounds trailing) ↔ legible bounds := Iff.rfl

@[simp]
theorem legible_existential {bounds : List Bound} {trailing : Bool} (all : legible bounds) :
    legible (Ty.existential bounds trailing) := by
  refine has_append (has_spacedWord (by simp)) (has_plusSeparated ?_)
  rw [boundPhrases_eq_map]
  exact whole_boundPhrases all

@[simp]
theorem legible_invocationType {written : Phrase} (whole : written.Has Whole) :
    legible (Ty.invocation written) := whole

@[simp]
theorem legible_verbatimType {tokens : List Tree} (whole : Whole tokens) :
    legible (Ty.verbatim tokens) := whole

@[simp]
theorem legible_projection {self : Ty} {anchor : Option Path} {rest : List Segment}
    (selfAll : legible self) (anchorAll : legible anchor) (restAll : legible rest) :
    legible (Projection.mk self anchor rest) := by
  intro inExpression
  have behind := whole_segmentsPhrase restAll inExpression true
  have inside := inner_of_whole (whole_ty selfAll)
  have closes : (mark ">").tokens = Tree.ofOperator ">" := rfl
  cases anchor with
  | none =>
    exact whole_angled [] [self.phrase, empty] [_] closes allHave_nil (by simp [inside])
      (by simp [behind])
  | some path =>
    have anchored := inner_of_whole (whole_path (legible_some.mp anchorAll) false)
    exact whole_angled [] [self.phrase, concat [blank, spacedWord "as", path.phrase false]] [_]
      closes allHave_nil (by simp [inside, anchored]) (by simp [behind])

/-! ## Bounds -/

@[simp]
theorem legible_lifetimeBound {name : Name} (identifier : legible name) :
    legible (Bound.lifetime name) := has_ofLifetime identifier

@[simp]
theorem legible_traitBound {grouped relaxed : Bool} {binder : Option Binder} {path : Path} :
    legible (Bound.trait grouped binder relaxed path) ↔ legible binder ∧ legible path := Iff.rfl

@[simp]
theorem legible_captured {written : Phrase} (whole : written.Has Whole) :
    legible (Bound.captured written) := whole

@[simp]
theorem legible_verbatimBound {tokens : List Tree} (whole : Whole tokens) :
    legible (Bound.verbatim tokens) := whole

/-! ## Parameters -/

/-- The tokens of attributes: a sign and a group for each, with one more mark between them for
those that belong to what surrounds them. -/
inductive AttributeTokens : List Tree → Prop where
  | nil : AttributeTokens []
  | cons (inner : Bool) {content : List Tree} (all : legible content) {rest : List Tree}
      (restAll : AttributeTokens rest) :
      AttributeTokens (Tree.ofOperator "#" ++ ((if inner then Tree.ofOperator "!" else []) ++
        .group .bracket content .start :: rest))

theorem AttributeTokens.append {trees others : List Tree} (first : AttributeTokens trees)
    (second : AttributeTokens others) : AttributeTokens (trees ++ others) := by
  induction first with
  | nil => exact second
  | cons inner all _ ih =>
    simp only [List.append_assoc, List.cons_append]
    exact .cons inner all ih

theorem AttributeTokens.whole {trees : List Tree} (attributes : AttributeTokens trees) :
    Whole trees := by
  induction attributes with
  | nil => exact has_empty
  | cons inner all _ ih =>
    have sign : (mark "#").Has Whole := has_mark (by simp)
    have exclamation : (if inner then mark "!" else empty).Has Whole := by simp
    have group : (inBrackets (unseen _)).Has Whole := has_inBrackets (legible_unseen.mpr all)
    have tokens : Whole (if inner then Tree.ofOperator "!" else []) := by
      cases inner <;> exact exclamation
    exact TokenProperty.append sign (TokenProperty.append tokens (TokenProperty.append group ih))

instance : Legible Parameter where
  legible
    | .lifetime attributes name bounds _ =>
      AttributeTokens attributes.tokens ∧ legible name ∧ legible bounds
    | .type attributes name bounds _ default =>
      AttributeTokens attributes.tokens ∧ legible name ∧ name.isWord "const" = false ∧
        legible bounds ∧ legible default
    | .constant attributes name ty default =>
      AttributeTokens attributes.tokens ∧ legible name ∧ legible ty ∧
        ∀ value ∈ default, value.Has Whole

section Parameters

variable {attributes : Phrase} {name : Name} {trailing : Bool}

@[simp]
theorem legible_lifetimeParameter {bounds : List Name} :
    legible (Parameter.lifetime attributes name bounds trailing) ↔
      AttributeTokens attributes.tokens ∧ legible name ∧ legible bounds := Iff.rfl

@[simp]
theorem legible_typeParameter {bounds : List Bound} {default : Option Ty} :
    legible (Parameter.type attributes name bounds trailing default) ↔
      AttributeTokens attributes.tokens ∧ legible name ∧ name.isWord "const" = false ∧
        legible bounds ∧ legible default := Iff.rfl

@[simp]
theorem legible_constantParameter {ty : Ty} {default : Option Phrase} :
    legible (Parameter.constant attributes name ty default) ↔
      AttributeTokens attributes.tokens ∧ legible name ∧ legible ty ∧
        ∀ value ∈ default, value.Has Whole := Iff.rfl

end Parameters

def lifetimesBehindColon (bounds : List Name) (trailing : Bool) : Phrase :=
  match bounds with
  | [] => empty
  | bounds => spacedMark ":" ": " ++ plusSeparated (bounds.map ofLifetime) trailing

theorem phrase_lifetimeParameter (attributes : Phrase) (name : Name) (bounds : List Name)
    (trailing : Bool) :
    (Parameter.lifetime attributes name bounds trailing).phrase =
      concat [attributes, ofLifetime name, lifetimesBehindColon bounds trailing] := by
  cases bounds <;> rfl

theorem whole_lifetimesBehindColon {bounds : List Name} (all : legible bounds) (trailing : Bool) :
    (lifetimesBehindColon bounds trailing).Has Whole := by
  cases bounds with
  | nil => exact has_empty
  | cons head tail =>
    refine has_append (has_spacedMark (by simp)) (has_plusSeparated ?_)
    exact allHave_map.mpr fun bound among => has_ofLifetime (all bound among)

def boundsBehindColon (bounds : List Bound) (trailing : Bool) : Phrase :=
  match boundPhrases bounds with
  | [] => empty
  | phrases => spacedMark ":" ": " ++ brokenPlusSeparated phrases trailing

def typeDefault (ty : Ty) : Phrase := concat [gap .blank, spacedMark "=" "= ", ty.phrase]

def constantDefault (value : Phrase) : Phrase := spacedMark "=" " = " ++ value

theorem phrase_typeParameter (attributes : Phrase) (name : Name) (bounds : List Bound)
    (trailing : Bool) (default : Option Ty) :
    (Parameter.type attributes name bounds trailing default).phrase =
      concat [attributes, ofName name, fill Layout.indent
        (boundsBehindColon bounds trailing ++ ofOption (default.map typeDefault))] := by
  cases default <;> rfl

theorem phrase_constantParameter (attributes : Phrase) (name : Name) (ty : Ty)
    (default : Option Phrase) :
    (Parameter.constant attributes name ty default).phrase =
      concat [attributes, spacedWord "const", ofName name, spacedMark ":" ": ", ty.phrase,
        ofOption (default.map constantDefault)] := by
  cases default <;> rfl

theorem whole_boundsBehindColon {bounds : List Bound} (all : legible bounds) (trailing : Bool) :
    (boundsBehindColon bounds trailing).Has Whole := by
  cases bounds with
  | nil => exact has_empty
  | cons head tail =>
    refine has_append (has_spacedMark (by simp)) (has_brokenPlusSeparated ?_)
    rw [boundPhrases_eq_map]
    exact whole_boundPhrases all

theorem inner_parameter {parameter : Parameter} (all : legible parameter) :
    parameter.phrase.Has Inner := by
  cases parameter with
  | lifetime attributes name bounds trailing =>
    obtain ⟨attributesTokens, identifier, boundsAll⟩ := all
    have attributesWhole : attributes.Has Whole := attributesTokens.whole
    have colon := whole_lifetimesBehindColon boundsAll trailing
    rw [phrase_lifetimeParameter]
    exact inner_of_whole (has_concat (by simp [attributesWhole, identifier, colon]))
  | type attributes name bounds trailing default =>
    obtain ⟨attributesTokens, identifier, -, boundsAll, defaultAll⟩ := all
    have attributesInner : attributes.Has Inner := attributesTokens.whole.inner
    have colon := inner_of_whole (whole_boundsBehindColon boundsAll trailing)
    rw [phrase_typeParameter]
    cases default with
    | none => exact has_concat (by simp [attributesInner, identifier, colon, ofOption])
    | some ty =>
      have tyInner := inner_of_whole (whole_ty (legible_some.mp defaultAll))
      exact has_concat (by
        simp [attributesInner, identifier, colon, tyInner, ofOption, typeDefault])
  | constant attributes name ty default =>
    obtain ⟨attributesTokens, identifier, tyAll, defaultWhole⟩ := all
    have attributesInner : attributes.Has Inner := attributesTokens.whole.inner
    have tyInner := inner_of_whole (whole_ty tyAll)
    rw [phrase_constantParameter]
    cases default with
    | none => exact has_concat (by simp [attributesInner, identifier, tyInner, ofOption])
    | some value =>
      have valueInner := inner_of_whole (defaultWhole value rfl)
      exact has_concat (by
        simp [attributesInner, identifier, tyInner, valueInner, ofOption, constantDefault])

@[simp]
theorem legible_binderOf {parameters : List Parameter} {trailing : Bool}
    (all : legible parameters) : legible (Binder.mk parameters trailing) := by
  have inner : AllHave Inner (parameterPhrases parameters) := by
    rw [parameterPhrases_eq_map]
    exact allHave_map.mpr fun parameter among => inner_parameter (all parameter among)
  exact whole_angled [word "for"]
    [joined (spacedMark "," ", ") (parameterPhrases parameters),
      trailingMark "," (trailing && !parameters.isEmpty)] [] rfl
    (by simp) (allHave_cons.mpr ⟨has_joined (by simp) inner, by simp⟩) allHave_nil

end Wireform.Syntax
