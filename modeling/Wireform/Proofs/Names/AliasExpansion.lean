import Wireform.Names.Kind
import Wireform.Proofs.Names.AliasSource

/-! # Expansion of type aliases

The kind of a type is found without putting anything in the place of anything. Here the aliases of a
type are expanded as the language has it, with the arguments of a use in the place of the parameters
of its alias, and with defaults in the place of those that the use leaves out. A type that owns its
value has an expansion that owns it too, as long as the defaults do that the expansion relies on. -/

namespace Wireform.Names

open Wireform.Syntax

/-! ## Expanded types -/

/-- A type without aliases. -/
inductive Expanded where
  /-- `Self` or a type parameter: one of the place where the type stands, or one of an alias that
  nothing takes the place of. -/
  | parameter (name : String)
  /-- A reference or a raw pointer. -/
  | borrowed
  /-- An array, a slice or a tuple. -/
  | composite (parts : List Expanded)
  | named (head : Resolved) (arguments : List Expanded)
  /-- The default of a parameter that a use of its alias leaves out, with the module that it stands
  in and with what stands for the parameters in front of it. -/
  | default (module : ModulePath) (bindings : List (String × Expanded)) (ty : Ty)
  /-- A path that leads nowhere. -/
  | unresolved
  /-- A type of another form, such as a function pointer or a trait object. -/
  | other

/-- What stands for type parameters. -/
abbrev Bindings := List (String × Expanded)

namespace Bindings

/-- Type parameters that stand for themselves. -/
def ofParameters (parameters : List Name) : Bindings :=
  parameters.map fun name => (name.text, .parameter name.text)

/-- What a path stands for that is `Self` or a type parameter. -/
def bound? (bindings : Bindings) (path : Path) : Option Expanded :=
  match path.name? with
  | some name =>
    if name.isWord "Self" then some (.parameter "Self") else List.lookup name.text bindings
  | none => none

/-- What stands for a type parameter, given the arguments from its position on. An argument that is
a constant stands for none. -/
def standing (module : ModulePath) (bindings : Bindings) (name : Name) (default : Option Ty) :
    List (Option Expanded) → Expanded
  | some argument :: _ => argument
  | none :: _ => .parameter name.text
  | [] =>
    match default with
    | some ty => .default module bindings ty
    | none => .parameter name.text

/-- Gives the arguments of a use to the parameters of its alias, in order. -/
def add (module : ModulePath) :
    Bindings → List Parameter → List (Option Expanded) → Bindings
  | bindings, [], _ => bindings
  | bindings, .lifetime _ _ _ _ :: rest, arguments => add module bindings rest arguments
  | bindings, .constant _ _ _ _ :: rest, arguments => add module bindings rest arguments.tail
  | bindings, .type _ name _ _ default :: rest, arguments =>
    add module (bindings ++ [(name.text, standing module bindings name default arguments)]) rest
      arguments.tail

end Bindings

abbrev ExpandFunction := ModulePath → Bindings → Ty → Option Expanded

namespace Compilation

variable (compilation : Compilation)

def expandPath? (expandAlias : ExpandFunction) (module : ModulePath) (bindings : Bindings)
    (path : Path) (arguments : List (Option Expanded)) : Option Expanded :=
  match bindings.bound? path with
  | some bound => some bound
  | none =>
    match compilation.resolvePath? module path .type with
    | none => some .unresolved
    | some (.item owner name (.typeAlias _ _)) =>
      match compilation.alias? owner name with
      | some synonym =>
        expandAlias owner (Bindings.add owner [] synonym.parameters.list arguments) synonym.body
      | none => some .unresolved
    | some head => some (.named head (arguments.filterMap id))

mutual
def expandWith? (expandAlias : ExpandFunction) (module : ModulePath) (bindings : Bindings) :
    Ty → Option Expanded
  | .reference _ _ _ => some .borrowed
  | .pointer _ _ => some .borrowed
  | .grouped inner => expandWith? expandAlias module bindings inner
  | .array item _ => do return .composite [← expandWith? expandAlias module bindings item]
  | .slice item => do return .composite [← expandWith? expandAlias module bindings item]
  | .tuple items _ => do return .composite (← expandAll? expandAlias module bindings items)
  | .path (.mk global segments) => do
    let arguments ← expandLast? expandAlias module bindings segments
    compilation.expandPath? expandAlias module bindings (.mk global segments) arguments
  | _ => some .other

def expandAll? (expandAlias : ExpandFunction) (module : ModulePath) (bindings : Bindings) :
    List Ty → Option (List Expanded)
  | [] => some []
  | head :: tail => do
    let first ← expandWith? expandAlias module bindings head
    let others ← expandAll? expandAlias module bindings tail
    return first :: others

def expandLast? (expandAlias : ExpandFunction) (module : ModulePath) (bindings : Bindings) :
    List Segment → Option (List (Option Expanded))
  | [] => some []
  | [.mk _ (.angled _ arguments _)] => expandArguments? expandAlias module bindings arguments
  | [.mk _ _] => some []
  | _ :: tail => expandLast? expandAlias module bindings tail

/-- Expands the arguments that are types, and keeps the places of constants. -/
def expandArguments? (expandAlias : ExpandFunction) (module : ModulePath) (bindings : Bindings) :
    List Argument → Option (List (Option Expanded))
  | [] => some []
  | .type ty :: tail => do
    let first ← expandWith? expandAlias module bindings ty
    let others ← expandArguments? expandAlias module bindings tail
    return some first :: others
  | .constant _ :: tail => do
    let others ← expandArguments? expandAlias module bindings tail
    return none :: others
  | _ :: tail => expandArguments? expandAlias module bindings tail
end

/-- Expands a type where this many aliases can be expanded inside one another. -/
def expandAtDepth? : (depth : Nat) → ExpandFunction
  | 0 => compilation.expandWith? fun _ _ _ => none
  | depth + 1 => compilation.expandWith? (expandAtDepth? depth)

/-- The type is expanded after finitely many steps. -/
def Expands (module : ModulePath) (bindings : Bindings) (ty : Ty) (expanded : Expanded) : Prop :=
  ∃ bound, ∀ depth, bound ≤ depth →
    compilation.expandAtDepth? depth module bindings ty = some expanded

theorem Expands.unique {compilation : Compilation} {module : ModulePath} {bindings : Bindings}
    {ty : Ty} {first second : Expanded} (one : compilation.Expands module bindings ty first)
    (other : compilation.Expands module bindings ty second) : first = second := by
  rcases one with ⟨bound, expands⟩
  rcases other with ⟨otherBound, otherExpands⟩
  have same := expands (max bound otherBound) (Nat.le_max_left _ _)
  rw [otherExpands (max bound otherBound) (Nat.le_max_right _ _)] at same
  exact (Option.some.inj same).symm

end Compilation

/-! ## Owned values -/

/-- A type of this crate, or one of another crate that does not share or borrow its value. -/
def Resolved.ownsValue : Resolved → Bool
  | .item _ _ (.item .struct) => true
  | .item _ _ (.item .enumeration) => true
  | .item _ _ (.item .union) => true
  | .external crate path => !isSharedPointer crate path
  | .builtin _ => true
  | _ => false

/-- Nothing in the type is borrowed, shared or unknown, and the defaults in it can be expanded and
are like that as well. -/
inductive Compilation.Owned (compilation : Compilation) : Expanded → Prop where
  | parameter (name : String) : Owned compilation (.parameter name)
  | composite {parts : List Expanded} (owned : ∀ part ∈ parts, Owned compilation part) :
      Owned compilation (.composite parts)
  | named {head : Resolved} {arguments : List Expanded} (owns : head.ownsValue = true)
      (owned : ∀ argument ∈ arguments, Owned compilation argument) :
      Owned compilation (.named head arguments)
  | default {module : ModulePath} {bindings : Bindings} {ty : Ty} {expanded : Expanded}
      (expands : compilation.Expands module bindings ty expanded)
      (owned : Owned compilation expanded) : Owned compilation (.default module bindings ty)

namespace Expanded

mutual
/-- The defaults that an expansion relies on. -/
def defaults : Expanded → List Expanded
  | .composite parts => defaultsOf parts
  | .named _ arguments => defaultsOf arguments
  | .default module bindings ty => [.default module bindings ty]
  | _ => []

def defaultsOf : List Expanded → List Expanded
  | [] => []
  | head :: tail => head.defaults ++ defaultsOf tail
end

theorem mem_defaultsOf {parts : List Expanded} {default : Expanded} :
    default ∈ defaultsOf parts ↔ ∃ part ∈ parts, default ∈ part.defaults := by
  induction parts with
  | nil => simp [defaultsOf]
  | cons head tail induction => simp [defaultsOf, induction]

end Expanded

namespace Compilation

variable {compilation : Compilation}

theorem Owned.defaults {expanded : Expanded} (owned : compilation.Owned expanded) :
    ∀ default ∈ expanded.defaults, compilation.Owned default := by
  induction owned with
  | parameter name => exact fun _ among => nomatch among
  | composite owned induction =>
    intro default among
    rcases Expanded.mem_defaultsOf.mp among with ⟨part, inParts, inPart⟩
    exact induction part inParts default inPart
  | named owns owned induction =>
    intro default among
    rcases Expanded.mem_defaultsOf.mp among with ⟨part, inParts, inPart⟩
    exact induction part inParts default inPart
  | default expands owned =>
    intro default among
    cases List.mem_singleton.mp among
    exact .default expands owned

variable (compilation)

/-- The type is owned as long as the defaults are that it relies on. -/
def OwnedByDefaults (expanded : Expanded) : Prop :=
  (∀ default ∈ expanded.defaults, compilation.Owned default) → compilation.Owned expanded

variable {compilation}

namespace OwnedByDefaults

theorem parameter (name : String) : compilation.OwnedByDefaults (.parameter name) :=
  fun _ => .parameter name

theorem default (module : ModulePath) (bindings : Bindings) (ty : Ty) :
    compilation.OwnedByDefaults (.default module bindings ty) :=
  fun owned => owned _ List.mem_cons_self

theorem composite {parts : List Expanded}
    (owned : ∀ part ∈ parts, compilation.OwnedByDefaults part) :
    compilation.OwnedByDefaults (.composite parts) := by
  intro defaults
  refine .composite fun part among => owned part among fun default inPart => ?_
  exact defaults default (Expanded.mem_defaultsOf.mpr ⟨part, among, inPart⟩)

theorem named {head : Resolved} {arguments : List Expanded} (owns : head.ownsValue = true)
    (owned : ∀ argument ∈ arguments, compilation.OwnedByDefaults argument) :
    compilation.OwnedByDefaults (.named head arguments) := by
  intro defaults
  refine .named owns fun argument among => owned argument among fun default inArgument => ?_
  exact defaults default (Expanded.mem_defaultsOf.mpr ⟨argument, among, inArgument⟩)

end OwnedByDefaults

end Compilation

/-! ## Bindings -/

namespace Bindings

theorem exists_lookup_of_mem {name : String} {bindings : Bindings}
    (among : name ∈ bindings.map Prod.fst) : ∃ bound, List.lookup name bindings = some bound := by
  cases found : List.lookup name bindings with
  | some bound => exact ⟨bound, rfl⟩
  | none =>
    rcases List.mem_map.mp among with ⟨entry, inBindings, rfl⟩
    have absent := List.lookup_eq_none_iff.mp found entry inBindings
    simp at absent

theorem mem_of_lookup {name : String} {bindings : Bindings} {bound : Expanded}
    (found : List.lookup name bindings = some bound) : (name, bound) ∈ bindings := by
  rcases List.lookup_eq_some_iff.mp found with ⟨before, after, rfl, _⟩
  exact List.mem_append_right before List.mem_cons_self

theorem bound?_eq_some {bindings : Bindings} {path : Path} {bound : Expanded}
    (found : bindings.bound? path = some bound) :
    bound = .parameter "Self" ∨ ∃ name, (name, bound) ∈ bindings := by
  unfold bound? at found
  cases written : path.name? with
  | none =>
    rw [written] at found
    cases found
  | some name =>
    rw [written] at found
    dsimp only at found
    by_cases isSelf : name.isWord "Self" = true
    · rw [if_pos isSelf] at found
      exact .inl (Option.some.inj found).symm
    · rw [if_neg isSelf] at found
      exact .inr ⟨_, mem_of_lookup found⟩

/-- A path that counts as a type parameter stands for something if all the parameters do. -/
theorem exists_bound?_of_isParameter {bindings : Bindings} {parameters : List Name} {path : Path}
    (covered : ∀ name ∈ parameters, name.text ∈ bindings.map Prod.fst)
    (isParameter : Compilation.isParameter parameters path = true) :
    ∃ bound, bindings.bound? path = some bound := by
  unfold Compilation.isParameter at isParameter
  unfold bound?
  cases written : path.name? with
  | none =>
    rw [written] at isParameter
    cases isParameter
  | some name =>
    rw [written] at isParameter
    dsimp only at isParameter ⊢
    by_cases isSelf : name.isWord "Self" = true
    · rw [if_pos isSelf]
      exact ⟨_, rfl⟩
    · rw [if_neg isSelf]
      have among := (Bool.or_eq_true_iff.mp isParameter).resolve_left isSelf
      exact exists_lookup_of_mem (covered name (List.contains_iff_mem.mp among))

theorem names_add (module : ModulePath) (parameters : List Parameter) : ∀ bindings arguments,
    (add module bindings parameters arguments).map Prod.fst =
      bindings.map Prod.fst ++
        (Parameters.typeNames ⟨parameters, false⟩).map Name.text := by
  induction parameters with
  | nil =>
    intro bindings arguments
    simp [add, Parameters.typeNames]
  | cons parameter rest induction =>
    intro bindings arguments
    cases parameter with
    | lifetime attributes name bounds trailing =>
      rw [add, induction]
      rfl
    | constant attributes name ty default =>
      rw [add, induction]
      rfl
    | type attributes name bounds trailing default =>
      rw [add, induction, List.map_append, List.append_assoc]
      rfl

section Add
variable {good : Expanded → Prop} (parameter : ∀ name, good (.parameter name))
  (default : ∀ module bindings ty, good (.default module bindings ty))
include parameter default

theorem standing_of_forall {module : ModulePath} {bindings : Bindings} {name : Name}
    {written : Option Ty} {arguments : List (Option Expanded)}
    (goodArguments : ∀ argument, some argument ∈ arguments → good argument) :
    good (standing module bindings name written arguments) := by
  cases arguments with
  | nil =>
    cases written with
    | none => exact parameter _
    | some ty => exact default _ _ _
  | cons head tail =>
    cases head with
    | none => exact parameter _
    | some argument => exact goodArguments argument List.mem_cons_self

theorem add_of_forall {module : ModulePath} (parameters : List Parameter) :
    ∀ bindings arguments, (∀ entry ∈ bindings, good entry.2) →
      (∀ argument, some argument ∈ arguments → good argument) →
        ∀ entry ∈ add module bindings parameters arguments, good entry.2 := by
  induction parameters with
  | nil => exact fun bindings arguments goodBindings _ => goodBindings
  | cons head rest induction =>
    intro bindings arguments goodBindings goodArguments
    have goodTail : ∀ argument, some argument ∈ arguments.tail → good argument :=
      fun argument among => goodArguments argument (List.mem_of_mem_tail among)
    cases head with
    | lifetime attributes name bounds trailing =>
      exact induction bindings arguments goodBindings goodArguments
    | constant attributes name ty written =>
      exact induction bindings arguments.tail goodBindings goodTail
    | type attributes name bounds trailing written =>
      refine induction _ arguments.tail ?_ goodTail
      intro entry among
      rcases List.mem_append.mp among with before | added
      · exact goodBindings entry before
      · rw [List.mem_singleton.mp added]
        exact standing_of_forall parameter default goodArguments

end Add

end Bindings

/-! ## Kinds -/

namespace Compilation

variable {compilation : Compilation} {ofAlias : KindFunction} {module : ModulePath}
  {parameters : List Name} {path : Path}

theorem headKind?_eq_value (owns : compilation.headKind? ofAlias module path = some .value) :
    ∃ found, compilation.resolvePath? module path .type = some found ∧
      (found.ownsValue = true ∨ ∃ owner name ty parameters,
        found = .item owner name (.typeAlias ty parameters) ∧
          ofAlias owner parameters ty = some .value) := by
  rcases Option.bind_eq_some_iff.mp owns with ⟨found, resolved, kind⟩
  refine ⟨found, resolved, ?_⟩
  cases found with
  | module path => cases kind
  | builtin id => exact .inl rfl
  | external crate path =>
    dsimp only at kind
    by_cases shared : isSharedPointer crate path = true
    · rw [if_pos shared] at kind
      cases kind
    · exact .inl (by simp [Resolved.ownsValue, shared])
  | item owner name definition =>
    cases definition with
    | module => cases kind
    | constant ty value => cases kind
    | typeAlias ty parameters => exact .inr ⟨owner, name, ty, parameters, rfl, kind⟩
    | item symbol =>
      cases symbol <;> first | exact .inl rfl | cases kind

theorem pathKind?_eq_value {arguments : List (Option TypeKind)}
    (owns : compilation.pathKind? ofAlias module parameters path arguments = some .value) :
    (∀ argument ∈ arguments, argument = some .value) ∧ (isParameter parameters path = true ∨
      compilation.headKind? ofAlias module path = some .value) := by
  unfold pathKind? at owns
  by_cases bound : isParameter parameters path = true
  · rw [if_pos bound, TypeKind.join_eq_value_iff] at owns
    exact ⟨owns, .inl bound⟩
  · rw [if_neg bound] at owns
    cases head : compilation.headKind? ofAlias module path with
    | none =>
      rw [head] at owns
      cases owns
    | some own =>
      rw [head] at owns
      have values := TypeKind.join_eq_value_iff.mp owns
      exact ⟨fun argument among => values argument (List.mem_cons_of_mem _ among),
        .inr (values (some own) List.mem_cons_self)⟩

end Compilation

/-! ## What owns its value expands to what does -/

namespace Compilation

/-- Where the kind is that of a value, all the ways to expand lead to one expansion, which is owned
as long as the defaults are that it relies on. -/
def ExpandsOwned (compilation : Compilation) (kind : KindFunction) (ways : ExpandFunction → Prop) :
    Prop :=
  ∀ module parameters ty bindings, kind module parameters ty = some .value →
    (∀ name ∈ parameters, name.text ∈ bindings.map Prod.fst) →
    (∀ entry ∈ bindings, compilation.OwnedByDefaults entry.2) →
      ∃ expanded, (∀ expand, ways expand → expand module bindings ty = some expanded) ∧
        compilation.OwnedByDefaults expanded

theorem lastKindsWith_cons_cons {compilation : Compilation} {ofAlias : KindFunction}
    {module : ModulePath} {parameters : List Name} (first second : Segment) (tail : List Segment) :
    compilation.lastKindsWith ofAlias module parameters (first :: second :: tail) =
      compilation.lastKindsWith ofAlias module parameters (second :: tail) := by
  rcases first with ⟨name, arguments⟩
  cases arguments <;> rfl

theorem expandLast?_cons_cons {compilation : Compilation} {expandAlias : ExpandFunction}
    {module : ModulePath} {bindings : Bindings} (first second : Segment) (tail : List Segment) :
    compilation.expandLast? expandAlias module bindings (first :: second :: tail) =
      compilation.expandLast? expandAlias module bindings (second :: tail) := by
  rcases first with ⟨name, arguments⟩
  cases arguments <;> rfl

section Step
variable {compilation : Compilation}
  (sourced : ∀ owner name ty names,
    compilation.declarations.definition? owner .type name = some (.typeAlias ty names) →
      ∃ synonym, compilation.alias? owner name = some synonym ∧ synonym.body = ty ∧
        synonym.parameters.typeNames = names)
  {ofAlias : KindFunction} {ways : ExpandFunction → Prop}
  (aliases : compilation.ExpandsOwned ofAlias ways)
  {module : ModulePath} {parameters : List Name} {bindings : Bindings}
  (covered : ∀ name ∈ parameters, name.text ∈ bindings.map Prod.fst)
  (bound : ∀ entry ∈ bindings, compilation.OwnedByDefaults entry.2)
include sourced aliases covered bound

theorem exists_expandPath? {path : Path} {kinds : List (Option TypeKind)}
    {arguments : List (Option Expanded)}
    (owns : compilation.pathKind? ofAlias module parameters path kinds =
      some .value)
    (owned : ∀ argument, some argument ∈ arguments →
      compilation.OwnedByDefaults argument) :
    ∃ expanded, (∀ expand, ways expand → compilation.expandPath? expand module
        bindings path arguments = some expanded) ∧
      compilation.OwnedByDefaults expanded := by
  cases stands : bindings.bound? path with
  | some expanded =>
    refine ⟨expanded, fun expand _ => by rw [expandPath?, stands], ?_⟩
    rcases Bindings.bound?_eq_some stands with rfl | ⟨name, among⟩
    · exact .parameter _
    · exact bound _ among
  | none =>
    have head : compilation.headKind? ofAlias module path = some .value := by
      rcases (pathKind?_eq_value owns).2 with isParameter | head
      · rcases Bindings.exists_bound?_of_isParameter covered isParameter with ⟨expanded, found⟩
        rw [stands] at found
        cases found
      · exact head
    rcases headKind?_eq_value head with
      ⟨found, resolved, ownsValue | ⟨owner, name, ty, names, rfl, kind⟩⟩
    · refine ⟨.named found (arguments.filterMap id), ?_, .named ownsValue ?_⟩
      · intro expand _
        rw [expandPath?, stands]
        dsimp only
        rw [resolved]
        cases found with
        | item owner name definition =>
          cases definition with
          | typeAlias ty names => cases ownsValue
          | _ => rfl
        | _ => rfl
      · intro argument among
        rcases List.mem_filterMap.mp among with ⟨written, inArguments, same⟩
        exact owned argument (same ▸ inArguments)
    · rcases sourced _ _ _ _ (definition?_of_leads (leads_of_resolve? resolved)) with
        ⟨synonym, declared, rfl, rfl⟩
      let given := Bindings.add owner [] synonym.parameters.list arguments
      have given_covered : ∀ name ∈ synonym.parameters.typeNames,
          name.text ∈ given.map Prod.fst := by
        intro written among
        rw [Bindings.names_add]
        exact List.mem_map_of_mem among
      have given_owned : ∀ entry ∈ given,
          compilation.OwnedByDefaults entry.2 :=
        Bindings.add_of_forall OwnedByDefaults.parameter OwnedByDefaults.default
          synonym.parameters.list [] arguments (fun _ among => nomatch among) owned
      rcases aliases owner _ synonym.body given kind given_covered given_owned with
        ⟨expanded, expands, safe⟩
      refine ⟨expanded, ?_, safe⟩
      intro expand way
      rw [expandPath?, stands]
      dsimp only
      rw [resolved]
      dsimp only
      rw [declared]
      exact expands expand way

set_option linter.unusedSectionVars false in
mutual
theorem exists_expandWith? : ∀ ty,
    compilation.kindWith? ofAlias module parameters ty = some .value →
      ∃ expanded, (∀ expand, ways expand →
          compilation.expandWith? expand module bindings ty = some expanded) ∧
        compilation.OwnedByDefaults expanded
  | .grouped inner, owns => by
    rw [kindWith?] at owns
    rcases exists_expandWith? inner owns with ⟨expanded, expands, owned⟩
    exact ⟨expanded, fun expand way => by rw [expandWith?, expands expand way], owned⟩
  | .array item length, owns => by
    rw [kindWith?] at owns
    rcases exists_expandWith? item owns with ⟨expanded, expands, owned⟩
    exact ⟨.composite [expanded], fun expand way => by rw [expandWith?, expands expand way]; rfl,
      .composite (List.forall_mem_singleton.mpr owned)⟩
  | .slice item, owns => by
    rw [kindWith?] at owns
    rcases exists_expandWith? item owns with ⟨expanded, expands, owned⟩
    exact ⟨.composite [expanded], fun expand way => by rw [expandWith?, expands expand way]; rfl,
      .composite (List.forall_mem_singleton.mpr owned)⟩
  | .tuple items trailing, owns => by
    rw [kindWith?] at owns
    rcases exists_expandAll? items (TypeKind.join_eq_value_iff.mp owns) with
      ⟨parts, expands, owned⟩
    exact ⟨.composite parts, fun expand way => by rw [expandWith?, expands expand way]; rfl,
      .composite owned⟩
  | .path (.mk global segments), owns => by
    rw [kindWith?] at owns
    rcases exists_expandLast? segments (pathKind?_eq_value owns).1 with
      ⟨arguments, expands, owned⟩
    rcases exists_expandPath? sourced aliases covered bound owns owned with
      ⟨expanded, path, ownedPath⟩
    refine ⟨expanded, fun expand way => ?_, ownedPath⟩
    rw [expandWith?, expands expand way]
    exact path expand way
  | .reference _ _ _, owns => nomatch owns
  | .pointer _ _, owns => nomatch owns
  | .projection _, owns => nomatch owns
  | .never, owns => nomatch owns
  | .inferred, owns => nomatch owns
  | .function _ _ _ _ _ _, owns => nomatch owns
  | .object _ _ _, owns => nomatch owns
  | .existential _ _, owns => nomatch owns
  | .invocation _, owns => nomatch owns
  | .verbatim _, owns => nomatch owns

theorem exists_expandAll? : ∀ types,
    (∀ kind ∈ compilation.kindsWith ofAlias module parameters types,
      kind = some .value) →
      ∃ parts, (∀ expand, ways expand →
          compilation.expandAll? expand module bindings types = some parts) ∧
        ∀ part ∈ parts, compilation.OwnedByDefaults part
  | [], _ => ⟨[], fun _ _ => rfl, fun _ among => nomatch among⟩
  | head :: tail, owns => by
    rw [kindsWith, List.forall_mem_cons] at owns
    rcases exists_expandWith? head owns.1 with ⟨first, expandsHead, ownedHead⟩
    rcases exists_expandAll? tail owns.2 with ⟨others, expandsTail, ownedTail⟩
    refine ⟨first :: others, fun expand way => ?_, List.forall_mem_cons.mpr ⟨ownedHead, ownedTail⟩⟩
    rw [expandAll?, expandsHead expand way, expandsTail expand way]
    rfl

theorem exists_expandLast? : ∀ segments,
    (∀ kind ∈ compilation.lastKindsWith ofAlias module parameters segments,
      kind = some .value) →
      ∃ arguments, (∀ expand, ways expand →
          compilation.expandLast? expand module bindings segments =
            some arguments) ∧
        ∀ argument, some argument ∈ arguments →
          compilation.OwnedByDefaults argument
  | [], _ => ⟨[], fun _ _ => rfl, fun _ among => nomatch among⟩
  | [.mk _ (.angled _ arguments _)], owns => by
    rw [lastKindsWith] at owns
    rcases exists_expandArguments? arguments owns with ⟨expanded, expands, owned⟩
    exact ⟨expanded, fun expand way => by rw [expandLast?, expands expand way], owned⟩
  | [.mk _ .none], _ => ⟨[], fun _ _ => rfl, fun _ among => nomatch among⟩
  | [.mk _ (.called _ _ _)], _ => ⟨[], fun _ _ => rfl, fun _ among => nomatch among⟩
  | first :: second :: tail, owns => by
    rw [lastKindsWith_cons_cons] at owns
    rcases exists_expandLast? (second :: tail) owns with ⟨arguments, expands, owned⟩
    exact ⟨arguments, fun expand way => by rw [expandLast?_cons_cons, expands expand way], owned⟩

theorem exists_expandArguments? : ∀ written,
    (∀ kind ∈ compilation.argumentKindsWith ofAlias module parameters written,
      kind = some .value) →
      ∃ arguments, (∀ expand, ways expand →
          compilation.expandArguments? expand module bindings written =
            some arguments) ∧
        ∀ argument, some argument ∈ arguments →
          compilation.OwnedByDefaults argument
  | [], _ => ⟨[], fun _ _ => rfl, fun _ among => nomatch among⟩
  | .type ty :: tail, owns => by
    rw [argumentKindsWith, List.forall_mem_cons] at owns
    rcases exists_expandWith? ty owns.1 with ⟨first, expandsHead, ownedHead⟩
    rcases exists_expandArguments? tail owns.2 with ⟨others, expandsTail, ownedTail⟩
    refine ⟨some first :: others, fun expand way => ?_, ?_⟩
    · rw [expandArguments?, expandsHead expand way, expandsTail expand way]
      rfl
    · intro argument among
      rcases List.mem_cons.mp among with same | inTail
      · exact Option.some.inj same ▸ ownedHead
      · exact ownedTail argument inTail
  | .constant value :: tail, owns => by
    rcases exists_expandArguments? tail owns with ⟨others, expands, owned⟩
    refine ⟨none :: others, fun expand way => ?_, ?_⟩
    · rw [expandArguments?, expands expand way]
      rfl
    · intro argument among
      exact owned argument ((List.mem_cons.mp among).resolve_left nofun)
  | .lifetime _ :: tail, owns => exists_expandArguments? tail owns
  | .equalType _ _ _ :: tail, owns => exists_expandArguments? tail owns
  | .equalConstant _ _ _ :: tail, owns => exists_expandArguments? tail owns
  | .bounded _ _ _ _ :: tail, owns => exists_expandArguments? tail owns
end

end Step

theorem expandsOwned_kindAtDepth? {units : List SourceUnit} {externalCrates : List ExternalCrate}
    (depth : Nat) :
    (ofUnits units externalCrates).ExpandsOwned
      ((ofUnits units externalCrates).kindAtDepth? depth) fun expand =>
        ∃ deeper, depth ≤ deeper ∧
          expand = (ofUnits units externalCrates).expandAtDepth? deeper := by
  have sourced := @alias?_of_definition? units externalCrates
  induction depth with
  | zero =>
    intro module parameters ty bindings owns covered bound
    have aliases : (ofUnits units externalCrates).ExpandsOwned (fun _ _ _ => none) fun _ => True :=
      fun _ _ _ _ owns => nomatch owns
    rcases exists_expandWith? (fun _ _ _ _ => sourced) aliases covered bound ty owns with
      ⟨expanded, expands, owned⟩
    refine ⟨expanded, ?_, owned⟩
    rintro expand ⟨deeper, _, rfl⟩
    cases deeper with
    | zero => exact expands _ trivial
    | succ deeper => exact expands _ trivial
  | succ depth induction =>
    intro module parameters ty bindings owns covered bound
    rcases exists_expandWith? (fun _ _ _ _ => sourced) induction covered bound ty owns with
      ⟨expanded, expands, owned⟩
    refine ⟨expanded, ?_, owned⟩
    rintro expand ⟨deeper, enough, rfl⟩
    cases deeper with
    | zero => exact absurd enough (Nat.not_succ_le_zero depth)
    | succ deeper => exact expands _ ⟨deeper, Nat.le_of_succ_le_succ enough, rfl⟩

/-- A type of the kind of values has an expansion, and that owns its value as long as the defaults
do that it relies on, those of parameters which the use of an alias leaves out: exactly if each of
them can be expanded to what owns its value. So it does if no default is needed. -/
theorem typeKind?_expands (units : List SourceUnit) (externalCrates : List ExternalCrate)
    {module : ModulePath} {ty : Ty} {parameters : List Name}
    (owns : (ofUnits units externalCrates).typeKind? module ty parameters = some .value) :
    let compilation := ofUnits units externalCrates
    let bindings := Bindings.ofParameters parameters
    ∃ expanded, compilation.expandAtDepth? maxDepth module bindings ty = some expanded ∧
      compilation.Expands module bindings ty expanded ∧
      (expanded.defaults = [] → compilation.Owned expanded) ∧
      ((∃ whole, compilation.Expands module bindings ty whole ∧ compilation.Owned whole) ↔
        ∀ default ∈ expanded.defaults, compilation.Owned default) := by
  intro compilation bindings
  have covered : ∀ name ∈ parameters, name.text ∈ bindings.map Prod.fst := by
    intro name among
    exact List.mem_map.mpr ⟨(name.text, .parameter name.text), List.mem_map_of_mem among, rfl⟩
  have bound : ∀ entry ∈ bindings, compilation.OwnedByDefaults entry.2 := by
    intro entry among
    rcases List.mem_map.mp among with ⟨name, _, rfl⟩
    exact .parameter _
  rcases expandsOwned_kindAtDepth? maxDepth module parameters ty bindings owns covered bound with
    ⟨expanded, expands, owned⟩
  have stable : compilation.Expands module bindings ty expanded :=
    ⟨maxDepth, fun depth enough => expands _ ⟨depth, enough, rfl⟩⟩
  refine ⟨expanded, expands _ ⟨maxDepth, Nat.le_refl _, rfl⟩, stable, ?_, ?_⟩
  · intro none
    exact owned fun default among => by rw [none] at among; cases among
  · constructor
    · rintro ⟨whole, wholeExpands, wholeOwned⟩
      rw [stable.unique wholeExpands]
      exact wholeOwned.defaults
    · intro defaults
      exact ⟨expanded, stable, owned defaults⟩

/-- An alias may borrow by default, which is only seen where its argument is written. -/
theorem typeKind?_expands_text :
    let units := (SourceUnit.parse? "src/lib.rs" ""
      "type Text<T = &'static str> = Option<T>;").toList
    let compilation := ofUnits units []
    let text : Ty := .path (.ofName (.plain "Text"))
    let byte : Ty := .path (.ofName (.plain "u8"))
    let textOfByte : Ty :=
      .path (.mk false [.mk (.plain "Text") (.angled false [.type byte] false)])
    (∀ ty ∈ [text, textOfByte], compilation.typeKind? [] ty [] = some .value) ∧
      (¬∃ expanded, compilation.Expands [] [] text expanded ∧ compilation.Owned expanded) ∧
      ∃ expanded, compilation.Expands [] [] textOfByte expanded ∧ compilation.Owned expanded := by
  intro units compilation text byte textOfByte
  have facts : compilation.typeKind? [] text [] = some .value ∧
      compilation.typeKind? [] textOfByte [] = some .value ∧
      ((compilation.expandAtDepth? maxDepth [] [] text).any fun expanded =>
        expanded.defaults.any (· matches .default _ _ (.reference _ _ _))) = true ∧
      ((compilation.expandAtDepth? maxDepth [] [] textOfByte).any fun expanded =>
        expanded.defaults.isEmpty) = true := by
    have read : _ = units := congrArg Option.toList SourceUnit.parse?_ofList.symm
    clear_value units
    subst read
    decide +kernel
  rcases facts with ⟨textOwns, textOfByteOwns, borrows, independent⟩
  refine ⟨List.forall_mem_cons.mpr ⟨textOwns, List.forall_mem_singleton.mpr textOfByteOwns⟩, ?_, ?_⟩
  · intro owned
    rcases typeKind?_expands units [] textOwns with ⟨expanded, expands, _, _, owned_iff⟩
    have defaults := owned_iff.mp owned
    rw [show Bindings.ofParameters [] = [] from rfl] at expands
    rw [expands] at borrows
    rcases List.any_eq_true.mp borrows with ⟨default, among, isReference⟩
    have ownedDefault := defaults default among
    cases ownedDefault with
    | @default module bindings ty expanded expands owned =>
      rcases expands with ⟨bound, expands⟩
      have last := expands (bound + 1) (Nat.le_succ bound)
      cases ty with
      | reference lifetime mutable target =>
        cases last
        cases owned
      | _ => cases isReference
    | _ => cases isReference
  · rcases typeKind?_expands units [] textOfByteOwns with ⟨expanded, expands, stable, owned, _⟩
    rw [show Bindings.ofParameters [] = [] from rfl] at expands
    rw [expands] at independent
    exact ⟨expanded, stable, owned (List.isEmpty_iff.mp independent)⟩

end Compilation

end Wireform.Names
