import Mathlib.Data.List.Forall2
import Wireform.Proofs.Wire.Sequencing

/-! # Overwriting

Reading into a target forgets what the target held. Every part of a shape looks at the target's old
content first, its length, its presence flag or its bits, but only for how many bytes to ask for. -/

namespace Wireform.Wire

/-! ## What is forgotten and what is kept -/

mutual
/-- The two values agree wherever they are serialized. -/
def AgreeOnWire : (shape : Shape) → (left right : shape.Value) → Prop
  | .unsigned _, left, right => left = right
  | .signed _, left, right => left = right
  | .float _, left, right => left = right
  | .bool, left, right => left = right
  | .char, left, right => left = right
  | .text, left, right => left = right
  | .unit, left, right => left = right
  | .sequence item, left, right => List.Forall₂ (AgreeOnWire item) left right
  | .optional content, left, right =>
    List.Forall₂ (AgreeOnWire content) (Option.toList left) (Option.toList right)
  | .boxed content, left, right => AgreeOnWire content left right
  | .array _ item, left, right =>
    List.Forall₂ (AgreeOnWire item) (Row.toList left) (Row.toList right)
  | .tuple items, left, right => AgreeOnWireTuple items left right
  | .record _ _ fields, left, right => AgreeOnWireFields fields left right

def AgreeOnWireTuple : (shapes : Shapes) → (left right : shapes.Values) → Prop
  | .nil, _, _ => True
  | .cons head tail, (left, lefts), (right, rights) =>
    AgreeOnWire head left right ∧ AgreeOnWireTuple tail lefts rights

/-- Nothing is asked of a field that is left out. -/
def AgreeOnWireFields : (fields : Fields) → (left right : fields.Values) → Prop
  | .nil, _, _ => True
  | .cons _ true shape tail, (left, lefts), (right, rights) =>
    AgreeOnWire shape left right ∧ AgreeOnWireFields tail lefts rights
  | .cons _ false _ tail, (_, lefts), (_, rights) => AgreeOnWireFields tail lefts rights
end

mutual
/-- Every field that is left out holds in `result` what it held in `target`, as far as records,
tuples, arrays and boxes lead to it. Inside an item of a sequence and inside the content of an
optional value it holds its default. -/
def Retains : (shape : Shape) → (target result : shape.Value) → Prop
  | .sequence item, _, result =>
    ∀ element ∈ (show List item.Value from result), Retains item item.default element
  | .optional content, _, result =>
    ∀ inner ∈ Option.toList result, Retains content content.default inner
  | .boxed content, target, result => Retains content target result
  | .array _ item, target, result =>
    List.Forall₂ (Retains item) (Row.toList target) (Row.toList result)
  | .tuple items, target, result => RetainsTuple items target result
  | .record _ _ fields, target, result => RetainsFields fields target result
  | _, _, _ => True

def RetainsTuple : (shapes : Shapes) → (target result : shapes.Values) → Prop
  | .nil, _, _ => True
  | .cons head tail, (target, targets), (result, results) =>
    Retains head target result ∧ RetainsTuple tail targets results

def RetainsFields : (fields : Fields) → (target result : fields.Values) → Prop
  | .nil, _, _ => True
  | .cons _ true shape tail, (target, targets), (result, results) =>
    Retains shape target result ∧ RetainsFields tail targets results
  | .cons _ false _ tail, (target, targets), (result, results) =>
    result = target ∧ RetainsFields tail targets results
end

/-! ## Targets after the encoding of a value was read -/

section Rows
variable {α β γ : Type}

theorem forall₂_zipWith_zipWith {related : β → β → Prop} {combine : α → γ → β}
    (relates : ∀ first second value, related (combine first value) (combine second value)) :
    ∀ {length : Nat} (firsts seconds : Row α length) (values : Row γ length),
      List.Forall₂ related (Row.toList (Row.zipWith combine firsts values))
        (Row.toList (Row.zipWith combine seconds values))
  | 0, _, _, _ => .nil
  | _ + 1, (first, firsts), (second, seconds), (value, values) =>
    .cons (relates first second value) (forall₂_zipWith_zipWith relates firsts seconds values)

theorem forall₂_zipWith {related : α → β → Prop} {combine : α → γ → β}
    (relates : ∀ target value, related target (combine target value)) :
    ∀ {length : Nat} (targets : Row α length) (values : Row γ length),
      List.Forall₂ related (Row.toList targets) (Row.toList (Row.zipWith combine targets values))
  | 0, _, _ => .nil
  | _ + 1, (target, targets), (value, values) =>
    .cons (relates target value) (forall₂_zipWith relates targets values)

end Rows

mutual
theorem agreeOnWire_overlaid : (shape : Shape) → (first second value : shape.Value) →
    AgreeOnWire shape (overlaid shape first value) (overlaid shape second value)
  | .unsigned _, _, _, _ => rfl
  | .signed _, _, _, _ => rfl
  | .float _, _, _, _ => rfl
  | .bool, _, _, _ => rfl
  | .char, _, _, _ => rfl
  | .text, _, _, _ => rfl
  | .unit, _, _, _ => rfl
  | .sequence item, _, _, value => by
      apply List.forall₂_map_left_iff.mpr
      apply List.forall₂_map_right_iff.mpr
      exact List.forall₂_same.mpr fun inner _ =>
        agreeOnWire_overlaid item item.default item.default inner
  | .optional _, _, _, none => .nil
  | .optional content, _, _, some inner =>
    .cons (agreeOnWire_overlaid content content.default content.default inner) .nil
  | .boxed content, first, second, value => agreeOnWire_overlaid content first second value
  | .array _ item, first, second, value =>
    forall₂_zipWith_zipWith (agreeOnWire_overlaid item) first second value
  | .tuple items, first, second, value => agreeOnWireTuple_overlaid items first second value
  | .record _ _ fields, first, second, value =>
    agreeOnWireFields_overlaid fields first second value

theorem agreeOnWireTuple_overlaid : (shapes : Shapes) → (first second values : shapes.Values) →
    AgreeOnWireTuple shapes (overlaidTuple shapes first values) (overlaidTuple shapes second values)
  | .nil, _, _, _ => trivial
  | .cons head tail, (first, firsts), (second, seconds), (value, values) =>
    ⟨agreeOnWire_overlaid head first second value,
      agreeOnWireTuple_overlaid tail firsts seconds values⟩

theorem agreeOnWireFields_overlaid : (fields : Fields) → (first second values : fields.Values) →
    AgreeOnWireFields fields (overlaidFields fields first values)
      (overlaidFields fields second values)
  | .nil, _, _, _ => trivial
  | .cons _ true shape tail, (first, firsts), (second, seconds), (value, values) =>
    ⟨agreeOnWire_overlaid shape first second value,
      agreeOnWireFields_overlaid tail firsts seconds values⟩
  | .cons _ false _ tail, (_, firsts), (_, seconds), (_, values) =>
    agreeOnWireFields_overlaid tail firsts seconds values
end

mutual
theorem retains_overlaid : (shape : Shape) → (target value : shape.Value) →
    Retains shape target (overlaid shape target value)
  | .unsigned _, _, _ => trivial
  | .signed _, _, _ => trivial
  | .float _, _, _ => trivial
  | .bool, _, _ => trivial
  | .char, _, _ => trivial
  | .text, _, _ => trivial
  | .unit, _, _ => trivial
  | .sequence item, _, value => by
      intro element among
      rcases List.mem_map.mp among with ⟨inner, -, rfl⟩
      exact retains_overlaid item item.default inner
  | .optional _, _, none => List.forall_mem_nil _
  | .optional content, _, some inner =>
    List.forall_mem_singleton.mpr (retains_overlaid content content.default inner)
  | .boxed content, target, value => retains_overlaid content target value
  | .array _ item, target, value => forall₂_zipWith (retains_overlaid item) target value
  | .tuple items, target, value => retainsTuple_overlaid items target value
  | .record _ _ fields, target, value => retainsFields_overlaid fields target value

theorem retainsTuple_overlaid : (shapes : Shapes) → (targets values : shapes.Values) →
    RetainsTuple shapes targets (overlaidTuple shapes targets values)
  | .nil, _, _ => trivial
  | .cons head tail, (target, targets), (value, values) =>
    ⟨retains_overlaid head target value, retainsTuple_overlaid tail targets values⟩

theorem retainsFields_overlaid : (fields : Fields) → (targets values : fields.Values) →
    RetainsFields fields targets (overlaidFields fields targets values)
  | .nil, _, _ => trivial
  | .cons _ true shape tail, (target, targets), (value, values) =>
    ⟨retains_overlaid shape target value, retainsFields_overlaid tail targets values⟩
  | .cons _ false _ tail, (_, targets), (_, values) =>
    ⟨rfl, retainsFields_overlaid tail targets values⟩
end

/-! ## Two reads of one input -/

/-- From every reader the two moves end alike: with one error or both with none, at one place. -/
def EndAlike {α : Type} (first second : Reader → Outcome Reader α) : Prop :=
  ∀ reader, (first reader).ending = (second reader).ending

/-- They end alike, and where they succeed, they read the same. -/
structure ReadAlike {α : Type} (first second : Reader → Outcome Reader α) : Prop where
  ending : EndAlike first second
  value : ∀ reader, (first reader).error = none → (first reader).value = (second reader).value

section Parts
variable {α β γ : Type}

theorem EndAlike.map {first second : Reader → Outcome Reader α} (alike : EndAlike first second)
    (whole other : α → β) : EndAlike (fun reader => (first reader).map whole)
      fun reader => (second reader).map other :=
  alike

theorem EndAlike.andThen {first second : Reader → Outcome Reader α}
    {move other : Reader → Outcome Reader β} {next otherNext : α → Reader → Outcome Reader γ}
    (alike : EndAlike first second) (begins : Begins first move next)
    (otherBegins : Begins second other otherNext)
    (goesOn : ∀ reader, (first reader).error = none →
      EndAlike (next (first reader).value) (otherNext (second reader).value)) :
    EndAlike move other := by
  intro reader
  have ending := alike reader
  have behind := goesOn reader
  cases moved : first reader with
  | mk value after error =>
    cases otherMoved : second reader with
    | mk otherValue otherAfter otherError =>
      rw [moved, otherMoved] at ending behind
      cases ending
      cases error with
      | some error => rw [begins.stops moved, otherBegins.stops otherMoved]
      | none =>
        rw [begins.goesOn moved, otherBegins.goesOn otherMoved]
        exact behind rfl after

theorem EndAlike.begins {first second : Reader → Outcome Reader α}
    {move other : Reader → Outcome Reader β} {next : α → Reader → Outcome Reader γ}
    (alike : ReadAlike first second) (begins : Begins first move next)
    (otherBegins : Begins second other next) : EndAlike move other := by
  apply alike.ending.andThen begins otherBegins
  intro reader done after
  rw [alike.value reader done]

/-- The first halves need not read the same: fields that are left out may differ. -/
theorem EndAlike.pair {first second : Reader → Outcome Reader α}
    {rest otherRest : Reader → Outcome Reader β} (alike : EndAlike first second)
    (others otherOthers : β) (restAlike : EndAlike rest otherRest) :
    EndAlike (fun reader => (first reader).pair others rest)
      fun reader => (second reader).pair otherOthers otherRest :=
  alike.andThen (begins_pair first others rest) (begins_pair second otherOthers otherRest)
    fun _ _ => restAlike

theorem readAlike_word (count : Nat) (first second : BitVec (8 * count)) :
    ReadAlike (serializeWord Reader.channel count first)
      (serializeWord Reader.channel count second) := by
  constructor
  · intro reader
    simp only [serializeWord, Reader.move_channel, length_littleEndian]
    cases reader.take count <;> rfl
  · intro reader done
    simp only [serializeWord, Reader.move_channel, length_littleEndian] at done ⊢
    cases takes : reader.take count with
    | error error =>
      rw [takes] at done
      cases done
    | ok taken => rfl

theorem readAlike_via {count : Nat} {flaw : Flaw} {toWord : α → Nat} {accept : Nat → Option α}
    (first second : α) :
    ReadAlike (serializeVia Reader.channel count flaw toWord accept first)
      (serializeVia Reader.channel count flaw toWord accept second) := by
  have word := readAlike_word count (BitVec.ofNat _ (toWord first)) (BitVec.ofNat _ (toWord second))
  constructor
  · exact .begins word (begins_via count flaw toWord accept first)
      (begins_via count flaw toWord accept second)
  · intro reader done
    have ending := word.ending reader
    have value := word.value reader
    cases moved : serializeWord Reader.channel count (BitVec.ofNat _ (toWord first)) reader with
    | mk raw after error =>
      cases otherMoved : serializeWord Reader.channel count (BitVec.ofNat _ (toWord second))
          reader with
      | mk otherRaw otherAfter otherError =>
        rw [moved, otherMoved] at ending value
        cases ending
        simp only [serializeVia, moved, otherMoved] at done value ⊢
        cases error with
        | some error => cases done
        | none =>
          dsimp only at done ⊢
          rw [← value rfl]
          cases accepted : accept raw.toNat with
          | none =>
            rw [accepted] at done
            cases done
          | some found => rfl

theorem readAlike_length {first second : Nat} (firstFits : first ≤ maxLength)
    (secondFits : second ≤ maxLength) :
    ReadAlike (serializeLength Reader.channel first) (serializeLength Reader.channel second) := by
  have word := readAlike_word 4 (BitVec.ofNat _ first) (BitVec.ofNat _ second)
  constructor
  · intro reader
    rw [serializeLength, serializeLength, if_neg (by omega), if_neg (by omega)]
    exact word.ending reader
  · intro reader done
    rw [serializeLength, if_neg (by omega)] at done ⊢
    rw [serializeLength, if_neg (by omega)]
    exact congrArg BitVec.toNat (word.value reader done)

theorem endAlike_row {item : α → Reader → Outcome Reader α} :
    ∀ {length : Nat} {firsts seconds : Row α length},
      (∀ first ∈ firsts.toList, ∀ second ∈ seconds.toList, EndAlike (item first) (item second)) →
      EndAlike (serializeRow item length firsts) (serializeRow item length seconds)
  | 0, _, _, _ => fun _ => rfl
  | _ + 1, (first, firsts), (second, seconds), alike =>
    .pair (alike first List.mem_cons_self second List.mem_cons_self) firsts seconds
      (endAlike_row fun other otherMember next nextMember =>
        alike other (List.mem_cons_of_mem _ otherMember) next (List.mem_cons_of_mem _ nextMember))

end Parts

mutual
theorem serialize_endAlike : (shape : Shape) → (first second : shape.Value) →
    fits shape first = true → fits shape second = true →
      EndAlike (serialize Reader.channel shape first) (serialize Reader.channel shape second)
  | .unsigned width, first, second, _, _ => (readAlike_word width.bytes first second).ending
  | .signed width, first, second, _, _ => (readAlike_word width.bytes first second).ending
  | .float precision, first, second, _, _ => (readAlike_word precision.bytes first second).ending
  | .bool, first, second, _, _ => (readAlike_via first second).ending
  | .char, first, second, _, _ => (readAlike_via first second).ending
  | .text, first, second, firstFits, secondFits =>
    .begins (readAlike_length (of_decide_eq_true firstFits) (of_decide_eq_true secondFits))
      (begins_text first) (begins_text second)
  | .unit, _, _, _, _ => fun _ => rfl
  | .sequence item, first, second, firstFits, secondFits => by
      simp only [fits, Bool.and_eq_true, decide_eq_true_eq] at firstFits secondFits
      exact .begins (readAlike_length firstFits.1 secondFits.1)
        (begins_sequence item.default (serialize Reader.channel item) first)
        (begins_sequence item.default (serialize Reader.channel item) second)
  | .optional content, first, second, _, _ =>
    .begins (readAlike_via first.isSome second.isSome)
      (begins_optional content.default (serialize Reader.channel content) first)
      (begins_optional content.default (serialize Reader.channel content) second)
  | .boxed content, first, second, firstFits, secondFits =>
    serialize_endAlike content first second firstFits secondFits
  | .array length item, first, second, firstFits, secondFits => by
      simp only [fits, List.all_eq_true] at firstFits secondFits
      exact endAlike_row fun one oneMember other otherMember =>
        serialize_endAlike item one other (firstFits one oneMember) (secondFits other otherMember)
  | .tuple items, first, second, firstFits, secondFits =>
    serializeTuple_endAlike items first second firstFits secondFits
  | .record _ _ fields, first, second, firstFits, secondFits =>
    serializeFields_endAlike fields first second firstFits secondFits

theorem serializeTuple_endAlike : (shapes : Shapes) → (firsts seconds : shapes.Values) →
    fitsTuple shapes firsts = true → fitsTuple shapes seconds = true →
      EndAlike (serializeTuple Reader.channel shapes firsts)
        (serializeTuple Reader.channel shapes seconds)
  | .nil, _, _, _, _ => fun _ => rfl
  | .cons head tail, (first, firsts), (second, seconds), firstFits, secondFits => by
      simp only [fitsTuple, Bool.and_eq_true] at firstFits secondFits
      exact .pair (serialize_endAlike head first second firstFits.1 secondFits.1) firsts seconds
        (serializeTuple_endAlike tail firsts seconds firstFits.2 secondFits.2)

theorem serializeFields_endAlike : (fields : Fields) → (firsts seconds : fields.Values) →
    fitsFields fields firsts = true → fitsFields fields seconds = true →
      EndAlike (serializeFields Reader.channel fields firsts)
        (serializeFields Reader.channel fields seconds)
  | .nil, _, _, _, _ => fun _ => rfl
  | .cons _ true shape tail, (first, firsts), (second, seconds), firstFits, secondFits => by
      simp only [fitsFields, Bool.and_eq_true] at firstFits secondFits
      exact .pair (serialize_endAlike shape first second firstFits.1 secondFits.1) firsts seconds
        (serializeFields_endAlike tail firsts seconds firstFits.2 secondFits.2)
  | .cons _ false _ tail, (first, firsts), (second, seconds), firstFits, secondFits =>
    .map (serializeFields_endAlike tail firsts seconds firstFits secondFits)
      (fun rest => (first, rest)) fun rest => (second, rest)
end

/-- What one read succeeds with, every other one does, but for the fields that are left out. -/
theorem serialize_eq_overlaid {shape : Shape} {first second : shape.Value}
    (firstFits : fits shape first = true) (secondFits : fits shape second = true)
    {reader after : Reader} {value : shape.Value}
    (moved : serialize Reader.channel shape first reader = ⟨value, after, none⟩) :
    value = overlaid shape first value ∧
      (serialize Reader.channel shape second reader).value = overlaid shape second value := by
  rcases serialize_accepts shape first moved with ⟨valueFits, spelled⟩
  have reads := serialize_reads shape first value firstFits valueFits reader.position after.rest
  have otherReads := serialize_reads shape second value secondFits valueFits reader.position
    after.rest
  rw [← spelled] at reads otherReads
  have same := congrArg Outcome.value (moved.symm.trans reads)
  exact ⟨same, congrArg Outcome.value otherReads⟩

/-- Reading into two targets whose lengths fit ends with one error, or succeeds in both, and leaves
the reader in one state. The values read agree wherever they are serialized, and each keeps of its
own target only the fields that are left out. -/
theorem overwriting (shape : Shape) (first second : shape.Value) (reader : Reader)
    (firstFits : fits shape first = true) (secondFits : fits shape second = true) :
    let one := serialize Reader.channel shape first reader
    let other := serialize Reader.channel shape second reader
    one.error = other.error ∧ one.state = other.state ∧
      (one.error = none → AgreeOnWire shape one.value other.value ∧
        Retains shape first one.value ∧ Retains shape second other.value) := by
  intro one other
  rcases Prod.mk.inj (serialize_endAlike shape first second firstFits secondFits reader) with
    ⟨state, error⟩
  refine ⟨error, state, ?_⟩
  intro succeeds
  have moved : serialize Reader.channel shape first reader = ⟨one.value, one.state, none⟩ := by
    rw [← succeeds]
  rcases serialize_eq_overlaid firstFits secondFits moved with ⟨same, otherSame⟩
  have otherValue : other.value = overlaid shape second one.value := otherSame
  rw [otherValue]
  refine ⟨?_, ?_, retains_overlaid shape second one.value⟩
  · have agree := agreeOnWire_overlaid shape first second one.value
    rw [← same] at agree
    exact agree
  · have retains := retains_overlaid shape first one.value
    rw [← same] at retains
    exact retains

/-- A point and a list of points, read over two targets with other norms and other lengths. -/
theorem overwriting_points :
    let shape : Shape := .tuple (.cons point (.cons (.sequence point) .nil))
    let first : shape.Value := (((7 : BitVec 32), (7 : BitVec 32), (1 : BitVec 64), ()), [], ())
    let second : shape.Value := (((0 : BitVec 32), (0 : BitVec 32), (2 : BitVec 64), ()),
      [((4 : BitVec 32), (4 : BitVec 32), (3 : BitVec 64), ())], ())
    let reader := Reader.ofBytes [5, 0, 0, 0, 6, 0, 0, 0, 1, 0, 0, 0, 8, 0, 0, 0, 9, 0, 0, 0]
    let one := serialize Reader.channel shape first reader
    let other := serialize Reader.channel shape second reader
    fits shape first = true ∧ fits shape second = true ∧ one.error = none ∧
      one.value = (((5 : BitVec 32), (6 : BitVec 32), (1 : BitVec 64), ()),
        [((8 : BitVec 32), (9 : BitVec 32), (0 : BitVec 64), ())], ()) ∧
      one.state = other.state ∧ AgreeOnWire shape one.value other.value ∧
      Retains shape first one.value ∧ Retains shape second other.value := by
  intro shape first second reader one other
  have firstFits : fits shape first = true := rfl
  have secondFits : fits shape second = true := rfl
  have succeeds : one.error = none := by rfl
  have read : one.value = (((5 : BitVec 32), (6 : BitVec 32), (1 : BitVec 64), ()),
      [((8 : BitVec 32), (9 : BitVec 32), (0 : BitVec 64), ())], ()) := by
    rfl
  rcases overwriting shape first second reader firstFits secondFits with ⟨-, state, values⟩
  exact ⟨firstFits, secondFits, succeeds, read, state, values succeeds⟩

end Wireform.Wire
