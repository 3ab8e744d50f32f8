import Wireform.Proofs.Syntax.LegibleItems
import Wireform.Proofs.Syntax.TokenText

/-! # Parameters by their tokens

The tokens of parameters tell where each of them ends and where its default begins, at whatever
places they stand: a comma or an equals sign that is not in angle brackets belongs to no part. -/

namespace Wireform.Syntax

open Phrase

/-! ## Settled tokens -/

namespace Tree

variable {trees others : List Tree}

theorem alone_congr {tree other : Tree} (same : tree.settled = other.settled) :
    tree.alone = other.alone := by
  cases tree <;> cases other <;> simp_all [alone, settled]

theorem settledAll_append (trees : List Tree) (notEmpty : others ≠ []) :
    settledAll (trees ++ others) = trees.map settled ++ settledAll others := by
  induction trees with
  | nil => rfl
  | cons head tail ih =>
    have behind : tail ++ others ≠ [] := List.append_ne_nil_of_right_ne_nil tail notEmpty
    rw [List.cons_append, settledAll_cons head behind, ih]
    rfl

theorem settledAll_congr (same : trees.map settled = others.map settled) :
    settledAll trees = settledAll others := by
  rcases List.eq_nil_or_concat trees with rfl | ⟨first, last, rfl⟩
  · rw [List.map_eq_nil_iff.mp same.symm]
  rcases List.eq_nil_or_concat others with rfl | ⟨otherFirst, otherLast, rfl⟩
  · simp at same
  simp only [List.concat_eq_append, List.map_append] at same ⊢
  obtain ⟨sameFirst, sameLast⟩ := List.append_inj' same rfl
  rw [settledAll_append _ (List.cons_ne_nil _ _), settledAll_append _ (List.cons_ne_nil _ _),
    settledAll_singleton, settledAll_singleton, sameFirst,
    alone_congr (List.head_eq_of_cons_eq sameLast)]

theorem settledAll_eq_nil : settledAll trees = [] ↔ trees = [] := by
  rcases List.eq_nil_or_concat trees with rfl | ⟨first, last, rfl⟩
  · simp [settledAll]
  · rw [List.concat_eq_append, settledAll_append _ (List.cons_ne_nil _ _), settledAll_singleton]
    simp

end Tree

theorem Nesting.step_settled (nesting : Nesting) (tree : Tree) :
    nesting.step tree.settled = nesting.step tree := by
  cases tree <;> rfl

theorem Closed.map_settled {trees : List Tree} (closed : Closed trees) :
    Closed (trees.map Tree.settled) := by
  intro depth
  rw [← closed depth, List.foldlM_map]
  exact congrArg (fun step => trees.foldlM step _)
    (funext fun nesting => funext fun tree => nesting.step_settled tree)

/-! ## Tokens with a default -/

/-- Tokens, and the default behind them. -/
structure Defaulted where
  head : List Tree
  default : Option (List Tree)

namespace Defaulted

/-- The default behind its equals sign. -/
def behind (defaulted : Defaulted) : List Tree :=
  match defaulted.default with
  | none => []
  | some value => Tree.ofOperator "=" ++ value

def tokens (defaulted : Defaulted) : List Tree := defaulted.head ++ defaulted.behind

def settled (defaulted : Defaulted) : Defaulted :=
  ⟨defaulted.head.map Tree.settled, defaulted.default.map (List.map Tree.settled)⟩

/-- Nothing ends the tokens before the default, or the default itself. -/
structure IsClosed (defaulted : Defaulted) : Prop where
  inhabited : defaulted.head ≠ []
  head : Closed defaulted.head
  default : ∀ value ∈ defaulted.default, Closed value

variable {defaulted other : Defaulted}

theorem IsClosed.settled (closed : defaulted.IsClosed) : defaulted.settled.IsClosed where
  inhabited := fun empty => closed.inhabited (List.map_eq_nil_iff.mp empty)
  head := closed.head.map_settled
  default := by
    intro value among
    obtain ⟨written, isDefault, rfl⟩ := Option.map_eq_some_iff.mp among
    exact (closed.default written isDefault).map_settled

theorem tokens_settled (defaulted : Defaulted) :
    defaulted.settled.tokens = defaulted.tokens.map Tree.settled := by
  rcases defaulted with ⟨head, _ | value⟩
  · simp [tokens, behind, settled]
  · simp only [tokens, behind, settled, Option.map_some, List.map_append]
    rfl

/-- Whether the first token stands behind a parameter, and not in front of a default. -/
def Ends : List Tree → Prop
  | .mark symbol _ _ :: _ => symbol = ',' ∨ symbol = '>'
  | _ => False

theorem Ends.stops {trees : List Tree} (ends : Ends trees) : Stops trees := by
  unfold Ends at ends
  split at ends
  · rcases ends with rfl | rfl
    · exact (by decide : ',' ∈ Nesting.stops)
    · exact (by decide : '>' ∈ Nesting.stops)
  · exact ends.elim

/-- The first token of what is closed ends nothing. -/
theorem IsClosed.not_stops (closed : defaulted.IsClosed) (rest : List Tree) :
    ¬ Stops (defaulted.tokens ++ rest) := by
  intro stops
  rw [tokens, List.append_assoc] at stops
  exact closed.inhabited (Closed.nil.eq_nil_of_stops closed.head stops)

/-- Where tokens with a default end is told by what ends them. -/
theorem tokens_append_inj (closed : defaulted.IsClosed) (otherClosed : other.IsClosed)
    {rest otherRest : List Tree} (ends : Ends rest) (otherEnds : Ends otherRest)
    (same : defaulted.tokens ++ rest = other.tokens ++ otherRest) :
    defaulted = other ∧ rest = otherRest := by
  have stops {defaulted : Defaulted} {rest : List Tree} (ends : Ends rest) :
      Stops (defaulted.behind ++ rest) := by
    rcases defaulted with ⟨head, _ | value⟩
    · exact ends.stops
    · exact (by decide : '=' ∈ Nesting.stops)
  have noEquals {value rest : List Tree} (ends : Ends rest) :
      rest ≠ Tree.ofOperator "=" ++ value := by
    rintro rfl
    rcases (ends : '=' = ',' ∨ '=' = '>') with same | same <;> exact absurd same (by decide)
  rw [tokens, tokens, List.append_assoc, List.append_assoc] at same
  obtain ⟨sameHead, sameBehind⟩ :=
    closed.head.append_inj otherClosed.head (stops ends) (stops otherEnds) same
  rcases defaulted with ⟨head, _ | value⟩ <;> rcases other with ⟨otherHead, _ | otherValue⟩ <;>
    simp only [behind, List.nil_append, List.append_assoc] at sameHead sameBehind
  · exact ⟨by rw [sameHead], sameBehind⟩
  · exact absurd sameBehind (noEquals ends)
  · exact absurd sameBehind.symm (noEquals otherEnds)
  · obtain ⟨sameValue, sameRest⟩ := (closed.default value rfl).append_inj
      (otherClosed.default otherValue rfl) ends.stops otherEnds.stops
      (List.append_cancel_left sameBehind)
    exact ⟨by rw [sameHead, sameValue], sameRest⟩

end Defaulted

/-! ## Lists -/

/-- What stands behind the first item of a list. -/
def separatedTail (mark : List Tree) (trailing : Bool) : List (List Tree) → List Tree
  | [] => if trailing then mark else []
  | tail => mark ++ separated mark trailing tail

theorem separated_cons (mark : List Tree) (trailing : Bool) (head : List Tree)
    (tail : List (List Tree)) :
    separated mark trailing (head :: tail) = head ++ separatedTail mark trailing tail := by
  cases tail with
  | nil => cases trailing <;> simp [separated, separatedTail]
  | cons next tail => simp [separated, separatedTail]

theorem map_separated (change : Tree → Tree) (mark : List Tree) (trailing : Bool)
    (list : List (List Tree)) :
    (separated mark trailing list).map change =
      separated (mark.map change) trailing (list.map (List.map change)) := by
  induction list with
  | nil => rfl
  | cons head tail ih =>
    rw [List.map_cons, separated_cons, separated_cons, List.map_append]
    cases tail with
    | nil => cases trailing <;> rfl
    | cons next tail =>
      simp only [separatedTail, List.map_append, List.map_cons] at ih ⊢
      rw [ih]

@[simp]
theorem tokens_append (phrase other : Phrase) :
    (phrase ++ other).tokens = phrase.tokens ++ other.tokens := rfl

theorem tokens_commaSeparated (last : Text.Gap) (trailing : Bool) (list : List Phrase) :
    (commaSeparated last trailing list).tokens = separated comma trailing (list.map tokens) := by
  induction list with
  | nil => rfl
  | cons head tail ih =>
    cases tail with
    | nil => cases trailing <;> simp [commaSeparated, separated, concat, trailingMark, unseen,
        empty, gap, shown, comma]
    | cons next tail =>
      simp only [List.map_cons, separated] at ih ⊢
      rw [← ih]
      simp [commaSeparated, concat, mark, comma, gap, shown]

namespace Defaulted

theorem ends_separatedTail (trailing : Bool) (tail : List (List Tree)) :
    Ends (separatedTail comma trailing tail ++ Tree.ofOperator ">") := by
  have isComma : Ends (comma ++ []) := .inl rfl
  have isClosing : Ends (Tree.ofOperator ">") := .inr rfl
  cases tail with
  | nil =>
    cases trailing with
    | false => exact isClosing
    | true => exact .inl rfl
  | cons head tail => exact .inl rfl

variable {list others : List Defaulted} {trailing otherTrailing : Bool}

theorem separated_ne (closed : ∀ defaulted ∈ list, IsClosed defaulted) (notEmpty : list ≠ [])
    (trailing : Bool) :
    separated comma trailing (list.map tokens) ++ Tree.ofOperator ">" ≠ Tree.ofOperator ">" := by
  obtain ⟨head, tail, rfl⟩ := List.exists_cons_of_ne_nil notEmpty
  intro same
  rw [List.map_cons, separated_cons, List.append_assoc] at same
  have stops : Stops (Tree.ofOperator ">") := (by decide : '>' ∈ Nesting.stops)
  rw [← same] at stops
  exact (closed head List.mem_cons_self).not_stops _ stops

theorem separatedTail_ne (closed : ∀ defaulted ∈ list, IsClosed defaulted) (notEmpty : list ≠ [])
    (trailing otherTrailing : Bool) :
    separatedTail comma otherTrailing (list.map tokens) ++ Tree.ofOperator ">" ≠
      separatedTail comma trailing [] ++ Tree.ofOperator ">" := by
  obtain ⟨head, tail, rfl⟩ := List.exists_cons_of_ne_nil notEmpty
  intro same
  cases trailing with
  | false => cases same
  | true =>
    simp only [separatedTail, List.map_cons, List.append_assoc] at same
    exact separated_ne closed notEmpty otherTrailing (List.append_cancel_left same)

/-- A list that is closed by an angle bracket is told by its tokens. -/
theorem separated_inj (closed : ∀ defaulted ∈ list, IsClosed defaulted)
    (otherClosed : ∀ other ∈ others, IsClosed other)
    (same : separated comma trailing (list.map tokens) ++ Tree.ofOperator ">" =
      separated comma otherTrailing (others.map tokens) ++ Tree.ofOperator ">") :
    list = others ∧ (list ≠ [] → trailing = otherTrailing) := by
  induction list generalizing others with
  | nil =>
    cases others with
    | nil => exact ⟨rfl, fun notEmpty => absurd rfl notEmpty⟩
    | cons other others =>
      exact absurd same.symm (separated_ne otherClosed (List.cons_ne_nil _ _) otherTrailing)
  | cons head tail induction =>
    cases others with
    | nil => exact absurd same (separated_ne closed (List.cons_ne_nil _ _) trailing)
    | cons other others =>
      obtain ⟨headClosed, tailClosed⟩ := List.forall_mem_cons.mp closed
      obtain ⟨otherHeadClosed, othersClosed⟩ := List.forall_mem_cons.mp otherClosed
      rw [List.map_cons, List.map_cons, separated_cons, separated_cons, List.append_assoc,
        List.append_assoc] at same
      obtain ⟨rfl, sameTail⟩ := tokens_append_inj headClosed otherHeadClosed
        (ends_separatedTail _ _) (ends_separatedTail _ _) same
      cases tail with
      | nil =>
        cases others with
        | nil =>
          refine ⟨rfl, fun _ => ?_⟩
          cases trailing <;> cases otherTrailing <;> first | rfl | cases sameTail
        | cons next rest =>
          exact absurd sameTail.symm (separatedTail_ne othersClosed (List.cons_ne_nil _ _) _ _)
      | cons next rest =>
        cases others with
        | nil => exact absurd sameTail (separatedTail_ne tailClosed (List.cons_ne_nil _ _) _ _)
        | cons =>
          simp only [separatedTail, List.map_cons, List.append_assoc] at sameTail
          obtain ⟨sameRest, sameTrailing⟩ :=
            induction tailClosed othersClosed (List.append_cancel_left sameTail)
          exact ⟨congrArg (head :: ·) sameRest, fun _ => sameTrailing (List.cons_ne_nil _ _)⟩

end Defaulted

/-! ## Attributes -/

/-- Whether the first token is a word or stands behind a quote. -/
def BeginsNamed : List Tree → Prop
  | .word _ _ :: _ => True
  | .quoted _ _ :: _ => True
  | _ => False

theorem BeginsNamed.map_settled_ne {trees rest : List Tree} (named : BeginsNamed trees) :
    trees.map Tree.settled ≠ Tree.ofOperator "#" ++ rest := by
  intro same
  unfold BeginsNamed at named
  split at named
  · cases same
  · cases same
  · exact named

/-- Where attributes end is told by the name behind them. -/
theorem AttributeTokens.append_inj {trees others rest otherRest : List Tree}
    (attributes : AttributeTokens trees) (otherAttributes : AttributeTokens others)
    (named : BeginsNamed rest) (otherNamed : BeginsNamed otherRest)
    (same : trees.map Tree.settled ++ rest.map Tree.settled =
      others.map Tree.settled ++ otherRest.map Tree.settled) :
    trees.map Tree.settled = others.map Tree.settled ∧
      rest.map Tree.settled = otherRest.map Tree.settled := by
  induction attributes generalizing others with
  | nil =>
    cases otherAttributes with
    | nil => exact ⟨rfl, same⟩
    | cons inner all behind => exact absurd same named.map_settled_ne
  | cons inner all behind induction =>
    cases otherAttributes with
    | nil => exact absurd same.symm otherNamed.map_settled_ne
    | cons otherInner otherAll otherBehind =>
      cases inner <;> cases otherInner <;> try cases same
      all_goals
        simp only [Tree.ofOperator, String.reduceToList, Tree.ofOperator.go, Bool.false_eq_true,
          ↓reduceIte, List.nil_append, List.cons_append, List.map_cons, List.cons.injEq,
          true_and] at same ⊢
        obtain ⟨sameGroup, sameBehind⟩ := same
        obtain ⟨sameAttributes, sameRest⟩ := induction otherBehind sameBehind
        exact ⟨⟨sameGroup, sameAttributes⟩, sameRest⟩

/-! ## Parameters -/

namespace Parameter

def attributes : Parameter → Phrase
  | .lifetime attributes _ _ _ => attributes
  | .type attributes _ _ _ _ => attributes
  | .constant attributes _ _ _ => attributes

/-- What stands between the attributes of a parameter and its default. -/
def own : Parameter → Phrase
  | .lifetime _ name bounds trailing => ofLifetime name ++ lifetimesBehindColon bounds trailing
  | .type _ name bounds trailing _ => ofName name ++ boundsBehindColon bounds trailing
  | .constant _ name ty _ => concat [spacedWord "const", ofName name, spacedMark ":" ": ", ty.phrase]

def default : Parameter → Option Phrase
  | .lifetime _ _ _ _ => none
  | .type _ _ _ _ default => default.map Ty.phrase
  | .constant _ _ _ default => default

def defaulted (parameter : Parameter) : Defaulted where
  head := parameter.attributes.tokens ++ parameter.own.tokens
  default := parameter.default.map tokens

theorem tokens_defaulted (parameter : Parameter) :
    parameter.defaulted.tokens = parameter.phrase.tokens := by
  cases parameter with
  | lifetime attributes name bounds trailing =>
    rw [phrase_lifetimeParameter]
    simp [defaulted, Defaulted.tokens, Defaulted.behind, Parameter.attributes, own, default, concat,
      tokens_append]
  | type attributes name bounds trailing default =>
    rw [phrase_typeParameter]
    cases default <;> simp [defaulted, Defaulted.tokens, Defaulted.behind, Parameter.attributes,
      own, Parameter.default, concat, tokens_append, fill, ofOption, typeDefault, gap, shown,
      spacedMark, empty]
  | constant attributes name ty default =>
    rw [phrase_constantParameter]
    cases default <;> simp [defaulted, Defaulted.tokens, Defaulted.behind, Parameter.attributes,
      own, Parameter.default, concat, tokens_append, ofOption, constantDefault, spacedMark, empty]

variable {parameter : Parameter} (all : legible parameter)

include all

theorem beginsNamed_own : BeginsNamed parameter.own.tokens := by
  cases parameter <;> trivial

theorem attributeTokens : AttributeTokens parameter.attributes.tokens := by
  cases parameter <;> exact all.1

theorem whole_own : parameter.own.Has Whole := by
  cases parameter with
  | lifetime attributes name bounds trailing =>
    exact has_append (has_ofLifetime all.2.1) (whole_lifetimesBehindColon all.2.2 _)
  | type attributes name bounds trailing default =>
    exact has_append (has_ofName all.2.1) (whole_boundsBehindColon all.2.2.2.1 _)
  | constant attributes name ty default =>
    exact has_concat (by simp [all.2.1, whole_ty all.2.2.1])

theorem isClosed_defaulted : parameter.defaulted.IsClosed where
  inhabited := by
    have named := beginsNamed_own all
    intro empty
    rw [(List.append_eq_nil_iff.mp empty).2] at named
    exact named
  head := (attributeTokens all).whole.closed.append (whole_own all).closed
  default := by
    intro value among
    obtain ⟨written, isDefault, rfl⟩ := Option.map_eq_some_iff.mp among
    cases parameter with
    | lifetime => cases isDefault
    | type attributes name bounds trailing default =>
      obtain ⟨ty, isType, rfl⟩ := Option.map_eq_some_iff.mp isDefault
      exact (whole_ty (all.2.2.2.2 ty isType)).closed
    | constant attributes name ty default => exact (all.2.2.2 written isDefault).closed

end Parameter

namespace Parameters

theorem tokens_phrase (parameters : Parameters) :
    parameters.phrase.tokens =
      if parameters.list.isEmpty then []
      else
        Tree.ofOperator "<" ++
            separated comma parameters.trailing (parameters.list.map fun parameter =>
              parameter.phrase.tokens) ++
          Tree.ofOperator ">" := by
  unfold phrase
  split
  · rfl
  · simp [concat, items, mark, stack, closing, gap, shown, tokens_commaSeparated, Function.comp_def]

theorem settledAll_phrase {parameters : Parameters} (notEmpty : parameters.list ≠ []) :
    Tree.settledAll parameters.phrase.tokens =
      Tree.ofOperator "<" ++
        (separated comma parameters.trailing
            ((parameters.list.map fun parameter => parameter.defaulted.settled).map
              Defaulted.tokens) ++
          Tree.ofOperator ">") := by
  have closing : Tree.settledAll (Tree.ofOperator ">") = Tree.ofOperator ">" := rfl
  have opening : (Tree.ofOperator "<").map Tree.settled = Tree.ofOperator "<" := rfl
  have between : comma.map Tree.settled = comma := rfl
  have settled : (parameters.list.map fun parameter => parameter.phrase.tokens).map
      (List.map Tree.settled) = (parameters.list.map fun parameter =>
        parameter.defaulted.settled).map Defaulted.tokens := by
    simp only [List.map_map, Function.comp_def, Defaulted.tokens_settled,
      Parameter.tokens_defaulted]
  rw [tokens_phrase, if_neg (by simpa using notEmpty), Tree.settledAll_append _ (by exact nofun),
    List.map_append, map_separated, closing, opening, between, settled, List.append_assoc]

/-- Parameters with the same tokens, at whatever places, agree one by one. -/
theorem defaulted_inj {parameters others : Parameters} (all : legible parameters)
    (othersAll : legible others)
    (same : Tree.settledAll parameters.phrase.tokens = Tree.settledAll others.phrase.tokens) :
    (parameters.list.map fun parameter => parameter.defaulted.settled) =
        others.list.map (fun parameter => parameter.defaulted.settled) ∧
      (parameters.list ≠ [] → parameters.trailing = others.trailing) := by
  have empty_iff (parameters : Parameters) :
      Tree.settledAll parameters.phrase.tokens = [] ↔ parameters.list = [] := by
    rw [Tree.settledAll_eq_nil, tokens_phrase]
    cases parameters.list <;> simp [Tree.ofOperator, Tree.ofOperator.go]
  by_cases empty : parameters.list = []
  · have otherEmpty := (empty_iff others).mp (by rw [← same, (empty_iff parameters).mpr empty])
    simp [empty, otherEmpty]
  · have otherNotEmpty : others.list ≠ [] := fun otherEmpty =>
      empty ((empty_iff parameters).mp (by rw [same, (empty_iff others).mpr otherEmpty]))
    rw [settledAll_phrase empty, settledAll_phrase otherNotEmpty] at same
    have closed {parameters : Parameters} (all : legible parameters) :
        ∀ defaulted ∈ parameters.list.map fun parameter => parameter.defaulted.settled,
          Defaulted.IsClosed defaulted :=
      List.forall_mem_map.mpr fun parameter among =>
        (Parameter.isClosed_defaulted (all parameter among)).settled
    obtain ⟨sameList, sameTrailing⟩ := Defaulted.separated_inj (closed all) (closed othersAll)
      (List.append_cancel_left same)
    exact ⟨sameList, fun notEmpty => sameTrailing (by simpa using notEmpty)⟩

end Parameters

end Wireform.Syntax
