import Wireform.Generation.Validation
import Wireform.Proofs.Names.Origin
import Wireform.Proofs.Syntax.Identifiers

/-! # What the root can name

The generated code stands at the root of the crate. A struct can be named there if the root sees it
and every module around it, each of which some item declares. What an item's visibility opens it to
is a module on the way from the root to the item, and the root is inside that module only if it is
the root itself. -/

namespace Wireform.Names

open Wireform.Syntax

/-! ## Visibility -/

/-- Names lead from a module to a module: `super` to the one around it, others to one inside it. -/
inductive GoesTo : ModulePath → List Name → ModulePath → Prop where
  | here (module : ModulePath) : GoesTo module [] module
  | outwards {outer reached : ModulePath} (last : String) {name : Name} {names : List Name}
      (up : name.isWord "super" = true) (rest : GoesTo outer names reached) :
      GoesTo (outer ++ [last]) (name :: names) reached
  | inwards {module reached : ModulePath} {name : Name} {names : List Name}
      (down : name.isWord "super" = false) (rest : GoesTo (module ++ [name.text]) names reached) :
      GoesTo module (name :: names) reached

/-- The module that the path of a visibility denotes, which starts at the root or at the module of
the item. Only the first name of a path can be `crate` or `self`. -/
inductive Denotes (declaredIn : ModulePath) : List Name → ModulePath → Prop where
  | crate {reached : ModulePath} {name : Name} {names : List Name}
      (first : name.isWord "crate" = true) (rest : GoesTo [] names reached) :
      Denotes declaredIn (name :: names) reached
  | self {reached : ModulePath} {name : Name} {names : List Name}
      (first : name.isWord "self" = true) (rest : GoesTo declaredIn names reached) :
      Denotes declaredIn (name :: names) reached
  | relative {reached : ModulePath} {names : List Name}
      (first : ∀ name ∈ names.head?, name.isWord "crate" = false ∧ name.isWord "self" = false)
      (rest : GoesTo declaredIn names reached) : Denotes declaredIn names reached

/-- Whether code in the module `user` can name what stands in the module `declaredIn` with this
visibility: it is open to everyone, or to a module that `user` is in. -/
def CanName (user declaredIn : ModulePath) : Visibility → Prop
  | .everywhere => True
  | .inherited => declaredIn <+: user
  | .restricted _ path => ∃ scope, Denotes declaredIn path.names scope ∧ scope <+: user

section Steps
variable {module reached : ModulePath} {name : Name} {names : List Name}

theorem not_goesTo_root (up : name.isWord "super" = true) : ¬GoesTo [] (name :: names) reached := by
  intro goes
  generalize root : ([] : ModulePath) = module at goes
  cases goes with
  | outwards => simp at root
  | inwards down rest => simp [up] at down

theorem goesTo_outwards_iff {outer : ModulePath} {last : String}
    (up : name.isWord "super" = true) :
    GoesTo (outer ++ [last]) (name :: names) reached ↔ GoesTo outer names reached := by
  constructor
  · intro goes
    generalize inner : outer ++ [last] = module at goes
    cases goes with
    | outwards other _ rest =>
      rw [(List.append_inj' inner rfl).1]
      exact rest
    | inwards down rest => simp [up] at down
  · exact .outwards last up

theorem goesTo_inwards_iff (down : name.isWord "super" = false) :
    GoesTo module (name :: names) reached ↔ GoesTo (module ++ [name.text]) names reached := by
  constructor
  · intro goes
    cases goes with
    | outwards last up rest => simp [down] at up
    | inwards _ rest => exact rest
  · exact .inwards down

end Steps

/-! ## Declared modules -/

/-- The modules that items declare, as often as they do. -/
def Declarations.declaredModules (declarations : Declarations) : List ModulePath :=
  declarations.filterMap fun
    | .visibility module _ => some module
    | _ => none

theorem Declarations.visibility?_eq_some_iff {declarations : Declarations} {module : ModulePath}
    {visible : Visibility} (once : declarations.declaredModules.Nodup) :
    declarations.visibility? module = some visible ↔ .visibility module visible ∈ declarations := by
  induction declarations with
  | nil => simp [visibility?]
  | cons head tail induction =>
    cases head with
    | visibility other written =>
      have apart : other ∉ declaredModules tail ∧ (declaredModules tail).Nodup :=
        List.nodup_cons.mp once
      by_cases same : other = module
      · subst same
        have unrepeated : .visibility other visible ∉ tail := by
          intro among
          exact apart.1 (List.mem_filterMap.mpr ⟨_, among, rfl⟩)
        simp [visibility?, unrepeated, eq_comm]
      · rw [List.mem_cons, ← induction apart.2]
        simp [visibility?, same, Ne.symm same]
    | _ =>
      rw [List.mem_cons, ← induction once]
      simp [visibility?]

namespace Compilation

variable {units : List SourceUnit} {externalCrates : List ExternalCrate} {module : ModulePath}
  {visible : Visibility}

theorem mem_visibility_iff :
    .visibility module visible ∈ (ofUnits units externalCrates).declarations ↔
      ∃ outer attributes name content, module = outer ++ [name.text] ∧
        (ofUnits units externalCrates).Contains outer
          (.module attributes visible name content) := by
  constructor
  · intro among
    rcases mem_declarations_ofUnits among with
      ⟨_, _, same, _⟩ | ⟨unit, unitAmong, outer, item, contains, states⟩
    · cases same
    · cases states with
      | visibility attributes visible name content =>
        exact ⟨outer, attributes, name, content, rfl, unit, unitAmong, contains⟩
      | binding binding => cases binding
  · rintro ⟨outer, attributes, name, content, rfl, unit, unitAmong, contains⟩
    refine List.mem_flatMap.mpr ⟨unit, unitAmong, List.mem_append_right _ ?_⟩
    exact Declaration.mem_ofItems_of_contains contains (List.mem_cons_of_mem _ List.mem_cons_self)

/-- A module that is declared at most once has the visibility of the item that declares it. -/
theorem moduleVisibility?_eq_some_iff
    (once : (ofUnits units externalCrates).declarations.declaredModules.Nodup) :
    (ofUnits units externalCrates).moduleVisibility? module = some visible ↔
      ∃ outer attributes name content, module = outer ++ [name.text] ∧
        (ofUnits units externalCrates).Contains outer
          (.module attributes visible name content) := by
  rw [← mem_visibility_iff, ← Declarations.visibility?_eq_some_iff once, moduleVisibility?]
  constructor
  · intro found
    exact (Option.ite_none_right_eq_some.mp found).2
  · intro found
    rcases mem_visibility_iff.mp ((Declarations.visibility?_eq_some_iff once).mp found) with
      ⟨outer, attributes, name, content, rfl, contains⟩
    rw [if_pos (hasModule_of_introduces (.item contains)), found]

/-- An item declares the module, and `user` can name that item. -/
def ShowsModule (compilation : Compilation) (user module : ModulePath) : Prop :=
  ∃ outer attributes visible name content, module = outer ++ [name.text] ∧
    compilation.Contains outer (.module attributes visible name content) ∧
    CanName user outer visible

end Compilation

end Wireform.Names

namespace Wireform.Generation

open Wireform.Names Wireform.Syntax

/-! ## The path of a visibility -/

theorem go_outwards {scope : ModulePath} {last : String} {name : Name} (rest : List String)
    (up : name.isWord "super" = true) :
    restrictedTo.go (scope ++ [last]) false (name.spelling :: rest) =
      restrictedTo.go scope false rest := by
  rw [Name.isWord_iff.mp up]
  simp [restrictedTo.go, Name.spelling, Name.plain]

theorem go_root {name : Name} (rest : List String) (up : name.isWord "super" = true) :
    restrictedTo.go [] false (name.spelling :: rest) = none := by
  rw [Name.isWord_iff.mp up]
  rfl

theorem go_inwards {scope : ModulePath} {name : Name} (rest : List String)
    (down : name.isWord "super" = false) :
    restrictedTo.go scope false (name.spelling :: rest) =
      restrictedTo.go (scope ++ [name.spelling]) false rest := by
  have other : name.spelling ≠ "super" := by
    intro spelled
    rw [Name.isWord_iff.mpr ((Name.spelling_eq_iff (by decide)).mp spelled)] at down
    cases down
  simp [restrictedTo.go, other]

/-- What is read off the spellings of a path's names is as far from the root as what the names lead
to. -/
theorem exists_go_iff {names : List Name} {length : Nat} :
    ∀ {scope module : ModulePath}, scope.length = module.length →
      ((∃ found, restrictedTo.go scope false (names.map Name.spelling) = some found ∧
          found.length = length) ↔
        ∃ reached, GoesTo module names reached ∧ reached.length = length) := by
  induction names with
  | nil =>
    intro scope module same
    constructor
    · rintro ⟨found, reads, known⟩
      cases reads
      exact ⟨module, .here module, same.symm.trans known⟩
    · rintro ⟨reached, goes, known⟩
      cases goes
      exact ⟨scope, rfl, same.trans known⟩
  | cons name names induction =>
    intro scope module same
    cases up : name.isWord "super" with
    | true =>
      rcases List.eq_nil_or_concat module with rfl | ⟨outer, last, rfl⟩
      · rw [List.length_eq_zero_iff.mp same, List.map_cons, go_root _ up]
        simp [not_goesTo_root up]
      · rcases List.eq_nil_or_concat scope with rfl | ⟨outerScope, lastScope, rfl⟩
        · simp at same
        · simp only [List.concat_eq_append, List.length_append, List.length_singleton,
            Nat.add_right_cancel_iff] at same ⊢
          rw [List.map_cons, go_outwards _ up, induction same]
          simp only [goesTo_outwards_iff up]
    | false =>
      have deeper : (scope ++ [name.spelling]).length = (module ++ [name.text]).length := by
        simp [same]
      rw [List.map_cons, go_inwards _ up, induction deeper]
      simp only [goesTo_inwards_iff up]

theorem go_root_iff {names : List Name} {module : ModulePath} :
    restrictedTo.go module false (names.map Name.spelling) = some [] ↔ GoesTo module names [] := by
  have far : (∃ found, restrictedTo.go module false (names.map Name.spelling) = some found ∧
      found.length = 0) ↔ ∃ reached, GoesTo module names reached ∧ reached.length = 0 :=
    exists_go_iff rfl
  simpa [List.length_eq_zero_iff] using far

theorem go_first (scope : ModulePath) (name : Name) (rest : List String) :
    restrictedTo.go scope true (name.spelling :: rest) =
      if name.isWord "crate" then restrictedTo.go [] false rest
      else if name.isWord "self" then restrictedTo.go scope false rest
      else restrictedTo.go scope false (name.spelling :: rest) := by
  have spelled (word : String) (unmarked : word.toList.take 2 ≠ ['r', '#']) :
      (name.spelling = word) = (name.isWord word = true) := by
    rw [Name.isWord_iff, Name.spelling_eq_iff unmarked]
  simp only [restrictedTo.go, spelled "crate" (by decide), spelled "self" (by decide), and_true,
    and_false, Bool.false_eq_true, if_false]

/-- A visibility opens an item to the root exactly if its path denotes the root. -/
theorem restrictedTo_eq_root_iff {declaredIn : ModulePath} {path : Path} :
    restrictedTo declaredIn path = some [] ↔ Denotes declaredIn path.names [] := by
  unfold restrictedTo
  generalize path.names = names
  cases names with
  | nil =>
    change restrictedTo.go declaredIn false (([] : List Name).map Name.spelling) = some [] ↔ _
    rw [go_root_iff]
    constructor
    · exact .relative nofun
    · rintro (_ | _ | ⟨_, goes⟩)
      exact goes
  | cons name names =>
    rw [List.map_cons, go_first]
    by_cases crate : name.isWord "crate" = true
    · rw [if_pos crate, go_root_iff]
      constructor
      · exact .crate crate
      · intro denotes
        cases denotes with
        | crate first goes => exact goes
        | self first goes =>
          rw [Name.isWord_iff.mp crate] at first
          cases first
        | relative first goes => simp [crate] at first
    · rw [if_neg crate]
      by_cases own : name.isWord "self" = true
      · rw [if_pos own, go_root_iff]
        constructor
        · exact .self own
        · intro denotes
          cases denotes with
          | crate first goes => exact absurd first crate
          | self first goes => exact goes
          | relative first goes => simp [own] at first
      · rw [if_neg own, ← List.map_cons, go_root_iff]
        constructor
        · exact .relative (by simp [crate, own])
        · intro denotes
          cases denotes with
          | crate first goes => exact absurd first crate
          | self first goes => exact absurd first own
          | relative first goes => exact goes

theorem reachesRoot_iff {declaredIn : ModulePath} {visible : Visibility} :
    reachesRoot declaredIn visible = true ↔ CanName [] declaredIn visible := by
  cases visible with
  | everywhere => exact iff_of_true rfl trivial
  | inherited => simp [reachesRoot, CanName]
  | restricted spelledOut path => simp [reachesRoot, CanName, restrictedTo_eq_root_iff]

/-! ## Structs -/

variable {units : List SourceUnit} {externalCrates : List ExternalCrate} {module : ModulePath}

/-- The root can name the struct: it is declared there, or the root can name it and every module
around it. -/
def Candidate.IsNameable (candidate : Candidate) (compilation : Compilation) : Prop :=
  candidate.module = [] ∨
    (∀ around, around ≠ [] → around <+: candidate.module → compilation.ShowsModule [] around) ∧
      CanName [] candidate.module candidate.declaration.visibility

/-- The root cannot name the module, but it can name all modules around it. -/
structure IsOutermostHidden (compilation : Compilation) (module hidden : ModulePath) : Prop where
  inner : hidden ≠ []
  around : hidden <+: module
  unseen : ¬compilation.ShowsModule [] hidden
  outermost : ∀ outer, outer ≠ [] → outer <+: hidden → outer ≠ hidden →
    compilation.ShowsModule [] outer

theorem any_reachesRoot_iff
    (once : (Compilation.ofUnits units externalCrates).declarations.declaredModules.Nodup) :
    ((Compilation.ofUnits units externalCrates).moduleVisibility? module).any
        (reachesRoot module.dropLast) = true ↔
      (Compilation.ofUnits units externalCrates).ShowsModule [] module := by
  simp only [Option.any_eq_true]
  constructor
  · rintro ⟨visible, declared, reaches⟩
    rcases (Compilation.moduleVisibility?_eq_some_iff once).mp declared with
      ⟨outer, attributes, name, content, rfl, contains⟩
    rw [List.dropLast_concat, reachesRoot_iff] at reaches
    exact ⟨outer, attributes, visible, name, content, rfl, contains, reaches⟩
  · rintro ⟨outer, attributes, visible, name, content, rfl, contains, canName⟩
    refine ⟨visible, (Compilation.moduleVisibility?_eq_some_iff once).mpr
      ⟨outer, attributes, name, content, rfl, contains⟩, ?_⟩
    rw [List.dropLast_concat, reachesRoot_iff]
    exact canName

/-- The modules around an item, from the outside in. -/
theorem exists_take_iff {path : ModulePath} :
    (path ≠ [] ∧ path <+: module) ↔ ∃ depth < module.length, path = module.take (depth + 1) := by
  constructor
  · rintro ⟨inner, around⟩
    have positive := List.length_pos_iff.mpr inner
    have length := around.length_le
    refine ⟨path.length - 1, by omega, ?_⟩
    rw [Nat.sub_add_cancel positive]
    exact List.prefix_iff_eq_take.mp around
  · rintro ⟨depth, within, rfl⟩
    refine ⟨?_, List.take_prefix _ _⟩
    intro empty
    have length := congrArg List.length empty
    rw [List.length_take, List.length_nil] at length
    omega

theorem hiddenModule?_eq_none_iff
    (once : (Compilation.ofUnits units externalCrates).declarations.declaredModules.Nodup) :
    hiddenModule? (.ofUnits units externalCrates) module = none ↔
      ∀ around, around ≠ [] → around <+: module →
        (Compilation.ofUnits units externalCrates).ShowsModule [] around := by
  rw [hiddenModule?, List.find?_eq_none]
  constructor
  · intro seen around inner outside
    rcases exists_take_iff.mp ⟨inner, outside⟩ with ⟨depth, within, rfl⟩
    have shown := seen _ (List.mem_map_of_mem (List.mem_range.mpr within))
    rw [Bool.not_eq_true', Bool.not_eq_false] at shown
    exact (any_reachesRoot_iff once).mp shown
  · intro seen around among
    rcases List.mem_map.mp among with ⟨depth, within, rfl⟩
    rcases exists_take_iff.mpr ⟨depth, List.mem_range.mp within, rfl⟩ with ⟨inner, outside⟩
    rw [Bool.not_eq_true', Bool.not_eq_false]
    exact (any_reachesRoot_iff once).mpr (seen _ inner outside)

theorem hiddenModule?_eq_some_iff
    (once : (Compilation.ofUnits units externalCrates).declarations.declaredModules.Nodup)
    {hidden : ModulePath} :
    hiddenModule? (.ofUnits units externalCrates) module = some hidden ↔
      IsOutermostHidden (.ofUnits units externalCrates) module hidden := by
  simp only [hiddenModule?, List.find?_map, Option.map_eq_some_iff, List.find?_range_eq_some,
    Function.comp_apply, List.mem_range, Bool.not_not, Bool.not_eq_true', ← Bool.not_eq_true,
    any_reachesRoot_iff once]
  constructor
  · rintro ⟨depth, ⟨unseen, within, outermost⟩, rfl⟩
    rcases exists_take_iff.mpr ⟨depth, within, rfl⟩ with ⟨inner, outside⟩
    refine ⟨inner, outside, unseen, ?_⟩
    intro outer outerInner around different
    rcases exists_take_iff.mp ⟨outerInner, around.trans outside⟩ with ⟨other, otherWithin, rfl⟩
    apply outermost
    have shorter := around.length_le
    have longer : (module.take (other + 1)).length ≠ (module.take (depth + 1)).length :=
      fun same => different (around.eq_of_length same)
    simp only [List.length_take] at shorter longer
    omega
  · rintro ⟨inner, around, unseen, outermost⟩
    rcases exists_take_iff.mp ⟨inner, around⟩ with ⟨depth, within, rfl⟩
    refine ⟨depth, ⟨unseen, within, ?_⟩, rfl⟩
    intro other less
    have otherWithin := Nat.lt_trans less within
    apply outermost _ (exists_take_iff.mpr ⟨other, otherWithin, rfl⟩).1
    · exact List.take_prefix_take_left (by omega)
    · intro same
      have lengths := congrArg List.length same
      simp only [List.length_take] at lengths
      omega

/-! ## Validation -/

/-- The struct is rejected for this problem. -/
def Validation.IsRejectedFor (validation : Validation) (problem : Problem) : Prop :=
  ∃ diagnostic, validation = .rejected diagnostic ∧ diagnostic.problem = problem

variable {compilation : Compilation} {markers : Markers} {candidate : Candidate}

/-- A marked struct is rejected for its visibility before anything else is looked at. -/
theorem rejected_iff_visibilityProblem?
    (marked : (marker? compilation markers candidate).isSome = true) {problem : Problem}
    (hidden : problem.code = .notExtensible) :
    (validate compilation markers candidate).IsRejectedFor problem ↔
      visibilityProblem? compilation candidate = some problem := by
  rcases Option.isSome_iff_exists.mp marked with ⟨marker, first⟩
  rw [validate, first]
  cases visibilityProblem? compilation candidate with
  | some found => simp [Validation.IsRejectedFor]
  | none =>
    apply iff_of_false _ nofun
    rintro ⟨diagnostic, rejected, rfl⟩
    cases existing : existingMethod? compilation candidate with
    | some found =>
      simp only [existing] at rejected
      cases rejected
      cases hidden
    | none =>
      simp only [existing] at rejected
      split at rejected <;> cases rejected

theorem visibilityProblem?_eq_hiddenModule_iff {text : String} :
    visibilityProblem? compilation candidate = some (.hiddenModule text) ↔
      ∃ hidden, hiddenModule? compilation candidate.module = some hidden ∧ text = hidden.text := by
  unfold visibilityProblem?
  cases module : candidate.module with
  | nil => simp [hiddenModule?]
  | cons name rest =>
    cases hiddenModule? compilation (name :: rest) with
    | some hidden => simp [eq_comm]
    | none =>
      simp

theorem visibilityProblem?_eq_hiddenStruct_iff :
    visibilityProblem? compilation candidate = some .hiddenStruct ↔
      candidate.module ≠ [] ∧ hiddenModule? compilation candidate.module = none ∧
        ¬reachesRoot candidate.module candidate.declaration.visibility = true := by
  unfold visibilityProblem?
  cases module : candidate.module with
  | nil => simp
  | cons name rest =>
    cases hiddenModule? compilation (name :: rest) with
    | some hidden => simp
    | none => simp

theorem visibilityProblem?_eq_none_iff :
    visibilityProblem? compilation candidate = none ↔
      candidate.module = [] ∨ hiddenModule? compilation candidate.module = none ∧
        reachesRoot candidate.module candidate.declaration.visibility = true := by
  unfold visibilityProblem?
  cases module : candidate.module with
  | nil => simp
  | cons name rest =>
    cases hiddenModule? compilation (name :: rest) with
    | some hidden => simp
    | none => simp

theorem code_of_visibilityProblem? {problem : Problem}
    (found : visibilityProblem? compilation candidate = some problem) :
    problem.code = .notExtensible := by
  unfold visibilityProblem? at found
  by_cases atRoot : candidate.module.isEmpty = true
  · rw [if_pos atRoot] at found
    cases found
  · rw [if_neg atRoot] at found
    cases hidden : hiddenModule? compilation candidate.module with
    | some path =>
      simp only [hidden] at found
      cases found
      rfl
    | none =>
      simp only [hidden] at found
      cases (Option.ite_none_left_eq_some.mp found).2
      rfl

theorem exists_rejected_iff
    (marked : (marker? compilation markers candidate).isSome = true) :
    (∃ problem, problem.code = .notExtensible ∧
        (validate compilation markers candidate).IsRejectedFor problem) ↔
      visibilityProblem? compilation candidate ≠ none := by
  rw [Option.ne_none_iff_exists']
  constructor
  · rintro ⟨problem, code, rejected⟩
    exact ⟨problem, (rejected_iff_visibilityProblem? marked code).mp rejected⟩
  · rintro ⟨problem, found⟩
    have code := code_of_visibilityProblem? found
    exact ⟨problem, code, (rejected_iff_visibilityProblem? marked code).mpr found⟩

theorem isNameable_iff_visibilityProblem?
    (once : (Compilation.ofUnits units externalCrates).declarations.declaredModules.Nodup) :
    candidate.IsNameable (.ofUnits units externalCrates) ↔
      visibilityProblem? (.ofUnits units externalCrates) candidate = none := by
  rw [visibilityProblem?_eq_none_iff, hiddenModule?_eq_none_iff once, reachesRoot_iff]
  rfl

/-- Where each module is declared at most once, a marked struct is rejected as not extensible exactly
if the root cannot name it. The outermost module that the root cannot name is reported, and the
struct itself only if the root can name all modules around it. -/
theorem rejected_notExtensible_iff
    (once : (Compilation.ofUnits units externalCrates).declarations.declaredModules.Nodup)
    (marked : (marker? (.ofUnits units externalCrates) markers candidate).isSome = true) :
    let compilation := Compilation.ofUnits units externalCrates
    let validation := validate compilation markers candidate
    ((∃ problem, problem.code = .notExtensible ∧ validation.IsRejectedFor problem) ↔
        ¬candidate.IsNameable compilation) ∧
      (∀ text, validation.IsRejectedFor (.hiddenModule text) ↔
        ∃ hidden, IsOutermostHidden compilation candidate.module hidden ∧ text = hidden.text) ∧
      (validation.IsRejectedFor .hiddenStruct ↔
        candidate.module ≠ [] ∧
          (∀ around, around ≠ [] → around <+: candidate.module →
            compilation.ShowsModule [] around) ∧
          ¬CanName [] candidate.module candidate.declaration.visibility) := by
  intro compilation validation
  refine ⟨?_, ?_, ?_⟩
  · rw [isNameable_iff_visibilityProblem? once]
    exact exists_rejected_iff marked
  · intro text
    have hidden : (Problem.hiddenModule text).code = .notExtensible := rfl
    rw [rejected_iff_visibilityProblem? marked hidden, visibilityProblem?_eq_hiddenModule_iff]
    simp only [hiddenModule?_eq_some_iff once, compilation]
  · have hidden : Problem.hiddenStruct.code = .notExtensible := rfl
    rw [rejected_iff_visibilityProblem? marked hidden, visibilityProblem?_eq_hiddenStruct_iff,
      hiddenModule?_eq_none_iff once, reachesRoot_iff]

/-- Three structs two modules deep: one that is open to the root, one that is open to the module
around its own, and one in a module that the root cannot name. -/
theorem rejected_notExtensible_iff_nested :
    let root := (SourceUnit.parse? "src/lib.rs" "" "mod a \x7b pub(super) mod b; mod c; \x7d").toList
    let seen := (SourceUnit.parse? "src/a/b.rs" "a::b"
      "#[autoser::auto_serialize] pub(in super::super) struct Near;
       #[autoser::auto_serialize] pub(super) struct Far;").toList
    let unseen := (SourceUnit.parse? "src/a/c.rs" "a::c"
      "#[autoser::auto_serialize] pub struct Lost;").toList
    let compilation := Compilation.ofUnits (root ++ seen ++ unseen) [.runtime "autoser"]
    let markers : Markers := ⟨"::autoser::auto_serialize", "::autoser::non_serialized"⟩
    (Candidate.select compilation).map Candidate.typeName = ["Near", "Far", "Lost"] ∧
      (Candidate.select compilation).map (visibilityProblem? compilation) =
        [none, some .hiddenStruct, some (.hiddenModule "a::c")] ∧
      ∀ candidate ∈ Candidate.select compilation,
        (candidate.IsNameable compilation ↔ candidate.typeName = "Near") ∧
        ((validate compilation markers candidate).IsRejectedFor .hiddenStruct →
          ¬CanName [] candidate.module candidate.declaration.visibility) := by
  intro root seen unseen compilation markers
  have facts : (Candidate.select compilation).map Candidate.typeName = ["Near", "Far", "Lost"] ∧
      (Candidate.select compilation).map (visibilityProblem? compilation) =
        [none, some .hiddenStruct, some (.hiddenModule "a::c")] ∧
      compilation.declarations.declaredModules.Nodup ∧
      ∀ candidate ∈ Candidate.select compilation,
        (marker? compilation markers candidate).isSome = true ∧
          (visibilityProblem? compilation candidate = none ↔ candidate.typeName = "Near") := by
    have read : _ = root := congrArg Option.toList SourceUnit.parse?_ofList.symm
    clear_value root
    subst read
    have read : _ = seen := congrArg Option.toList SourceUnit.parse?_ofList.symm
    clear_value seen
    subst read
    have read : _ = unseen := congrArg Option.toList SourceUnit.parse?_ofList.symm
    clear_value unseen
    subst read
    decide +kernel
  rcases facts with ⟨names, problems, once, each⟩
  refine ⟨names, problems, ?_⟩
  intro candidate selected
  rcases each candidate selected with ⟨marked, visible⟩
  rcases rejected_notExtensible_iff once marked with ⟨exactly, -, struct⟩
  refine ⟨?_, fun rejected => (struct.mp rejected).2.2⟩
  rw [exists_rejected_iff marked] at exactly
  rw [← visible]
  constructor
  · exact fun nameable => Classical.not_not.mp fun found => exactly.mp found nameable
  · exact fun none => Classical.not_not.mp fun hidden => exactly.mpr hidden none

end Wireform.Generation
