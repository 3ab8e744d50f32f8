import Wireform.Proofs.Wire.RoundTrip
import Wireform.Proofs.Wire.Sequencing

/-! # Truncation

An input that ends inside an encoding is reported as ended before any byte in front of the cut is
refused, and an input that goes on behind an encoding is reported as going on. Whatever the input
holds, a reader stays inside it. -/

namespace Wireform.Wire

/-! ## Inside the input -/

/-- The reader is somewhere in these bytes, at their end at most, and has those behind it left. -/
structure Reader.Views (reader : Reader) (bytes : List UInt8) : Prop where
  inside : reader.position ≤ bytes.length
  rest_eq : reader.rest = bytes.drop reader.position

/-- A reader in these bytes is still in them after the move, even if the move fails. -/
def StaysIn {α : Type} (bytes : List UInt8) (move : Reader → Outcome Reader α) : Prop :=
  ∀ reader, reader.Views bytes → (move reader).state.Views bytes

namespace Reader

variable {bytes : List UInt8} {reader : Reader}

theorem views_ofBytes (bytes : List UInt8) : (ofBytes bytes).Views bytes :=
  ⟨Nat.zero_le _, rfl⟩

theorem Views.remaining_eq (views : reader.Views bytes) :
    reader.remaining = bytes.length - reader.position := by
  rw [remaining, views.rest_eq, List.length_drop]

theorem Views.take (views : reader.Views bytes) {count : Nat} {taken : List UInt8} {after : Reader}
    (takes : reader.take count = .ok (taken, after)) : after.Views bytes := by
  rcases take_eq_ok_iff.mp takes with ⟨enough, -, rfl⟩
  have inside := views.inside
  rw [views.remaining_eq] at enough
  constructor
  · show reader.position + count ≤ bytes.length
    omega
  · show reader.rest.drop count = bytes.drop (reader.position + count)
    rw [views.rest_eq, List.drop_drop]

end Reader

section StaysIn
variable {α β γ : Type} {bytes : List UInt8}

theorem StaysIn.begins {first : Reader → Outcome Reader α} {move : Reader → Outcome Reader β}
    {next : α → Reader → Outcome Reader γ} (begins : Begins first move next)
    (stays : StaysIn bytes first) (goesOn : ∀ value, StaysIn bytes (next value)) :
    StaysIn bytes move := by
  intro reader views
  have middle := stays reader views
  cases moved : first reader with
  | mk value after error =>
    rw [moved] at middle
    cases error with
    | some error =>
      have same := congrArg Prod.fst (begins.stops moved)
      dsimp only [Outcome.ending] at same
      rw [same]
      exact middle
    | none =>
      have same := congrArg Prod.fst (begins.goesOn moved)
      dsimp only [Outcome.ending] at same
      rw [same]
      exact goesOn value after middle

theorem staysIn_nothing (value : α) : StaysIn bytes fun reader => ⟨value, reader, none⟩ :=
  fun _ views => views

theorem staysIn_word (count : Nat) (target : BitVec (8 * count)) :
    StaysIn bytes (serializeWord Reader.channel count target) := by
  intro reader views
  rw [serializeWord, Reader.move_channel]
  cases takes : reader.take (littleEndian count target.toNat).length with
  | error error => exact views
  | ok taken => exact views.take takes

theorem staysIn_via (count : Nat) (flaw : Flaw) (toWord : α → Nat) (accept : Nat → Option α)
    (target : α) : StaysIn bytes (serializeVia Reader.channel count flaw toWord accept target) :=
  .begins (begins_via count flaw toWord accept target) (staysIn_word count _) fun _ _ views => views

theorem staysIn_length (target : Nat) : StaysIn bytes (serializeLength Reader.channel target) := by
  intro reader views
  rw [serializeLength]
  by_cases refused : maxLength < target
  · rw [if_pos refused]
    exact views
  · rw [if_neg refused]
    exact staysIn_word 4 _ reader views

theorem views_readChunks (length : Nat) {reader : Reader} (views : reader.Views bytes) :
    (readChunks Reader.channel length reader).2.Views bytes := by
  induction length using Nat.strongRecOn generalizing reader with
  | ind length induction =>
    rw [readChunks]
    by_cases done : length = 0
    · rw [if_pos done]
      exact views
    · rw [if_neg done]
      simp only [Reader.move_channel, List.length_replicate]
      cases takes : reader.take (min length chunkSize) with
      | error error => exact views
      | ok taken =>
        have later := induction (length - min length chunkSize)
          (by simp only [chunkSize]; omega) (views.take takes)
        revert later
        dsimp only
        cases readChunks Reader.channel (length - min length chunkSize) taken.2 with
        | mk result after => cases result <;> exact id

theorem staysIn_readText (length : Nat) : StaysIn bytes (readText length) := by
  intro reader views
  have after := views_readChunks length views
  rw [readText]
  revert after
  cases readChunks Reader.channel length reader with
  | mk result after => cases result <;> exact id

section Containers
variable {item : α → Reader → Outcome Reader α} (stays : ∀ target, StaysIn bytes (item target))
include stays

theorem staysIn_newItems (fresh : α) : ∀ count, StaysIn bytes (readItems (item fresh) count)
  | 0 => staysIn_nothing []
  | count + 1 =>
    .begins (begins_newItems fresh item count) (stays fresh) fun _ => staysIn_newItems fresh count

theorem staysIn_row : ∀ (length : Nat) (targets : Row α length),
    StaysIn bytes (serializeRow item length targets)
  | 0, _ => staysIn_nothing ()
  | length + 1, (target, targets) =>
    .begins (begins_pair _ _ _) (stays target) fun _ => staysIn_row length targets

theorem staysIn_readContent (fresh : α) (present : Bool) :
    StaysIn bytes (readContent fresh item present) := by
  cases present with
  | false => exact staysIn_nothing none
  | true => exact stays fresh

end Containers
end StaysIn

mutual
theorem serialize_staysIn (bytes : List UInt8) : (shape : Shape) → (target : shape.Value) →
    StaysIn bytes (serialize Reader.channel shape target)
  | .unsigned width, target => staysIn_word width.bytes target
  | .signed width, target => staysIn_word width.bytes target
  | .float precision, target => staysIn_word precision.bytes target
  | .bool, target => staysIn_via 1 .notABool Bool.toNat boolOfWord target
  | .char, target => staysIn_via 4 .notAScalar Char.toNat charOfWord target
  | .text, target => .begins (begins_text target) (staysIn_length _) staysIn_readText
  | .unit, target => staysIn_nothing target
  | .sequence item, target =>
    .begins (begins_sequence item.default (serialize Reader.channel item) target)
      (staysIn_length _) (staysIn_newItems (serialize_staysIn bytes item) item.default)
  | .optional content, target =>
    .begins (begins_optional content.default (serialize Reader.channel content) target)
      (staysIn_via 1 .notABool Bool.toNat boolOfWord _)
      (staysIn_readContent (serialize_staysIn bytes content) content.default)
  | .boxed content, target => serialize_staysIn bytes content target
  | .array length item, target => staysIn_row (serialize_staysIn bytes item) length target
  | .tuple items, target => serializeTuple_staysIn bytes items target
  | .record _ _ fields, target => serializeFields_staysIn bytes fields target

theorem serializeTuple_staysIn (bytes : List UInt8) : (shapes : Shapes) →
    (targets : shapes.Values) → StaysIn bytes (serializeTuple Reader.channel shapes targets)
  | .nil, targets => staysIn_nothing targets
  | .cons head tail, (target, targets) =>
    .begins (begins_pair _ _ _) (serialize_staysIn bytes head target) fun _ =>
      serializeTuple_staysIn bytes tail targets

theorem serializeFields_staysIn (bytes : List UInt8) : (fields : Fields) →
    (targets : fields.Values) → StaysIn bytes (serializeFields Reader.channel fields targets)
  | .nil, targets => staysIn_nothing targets
  | .cons _ true shape tail, (target, targets) =>
    .begins (begins_pair _ _ _) (serialize_staysIn bytes shape target) fun _ =>
      serializeFields_staysIn bytes tail targets
  | .cons _ false _ tail, (_, targets) => serializeFields_staysIn bytes tail targets
end

/-! ## Inputs that end early -/

/-- The input has ended: fewer bytes were left than were needed. -/
def Outcome.EndsEarly {σ α : Type} (outcome : Outcome σ α) : Prop :=
  ∃ needed remaining, outcome.error = some (.endOfInput needed remaining) ∧ remaining < needed

/-- An input that ends inside these bytes ends too early for the move. -/
def Starves {α : Type} (move : Reader → Outcome Reader α) (bytes : List UInt8) : Prop :=
  ∀ position front missing, missing ≠ [] → front ++ missing = bytes →
    (move ⟨position, front⟩).EndsEarly

/-- A cut is in the first of two blocks, or in the second one behind the whole first. -/
theorem append_eq_append_of_ne_nil {front missing first second : List UInt8}
    (cut : front ++ missing = first ++ second) :
    (∃ left, left ≠ [] ∧ front ++ left = first) ∨
      ∃ front', front = first ++ front' ∧ front' ++ missing = second := by
  rcases List.append_eq_append_iff.mp cut with ⟨left, whole, rest⟩ | ⟨front', whole, rest⟩
  · by_cases atEnd : left = []
    · subst atEnd
      rw [List.append_nil] at whole
      exact .inr ⟨[], by rw [whole, List.append_nil], rest⟩
    · exact .inl ⟨left, atEnd, whole.symm⟩
  · exact .inr ⟨front', whole, rest.symm⟩

section Starves
variable {α β γ : Type}

theorem starves_nil (move : Reader → Outcome Reader α) : Starves move [] := by
  intro position front missing more cut
  exact absurd (List.append_eq_nil_iff.mp cut).2 more

theorem Starves.begins {first : Reader → Outcome Reader α} {move : Reader → Outcome Reader β}
    {next : α → Reader → Outcome Reader γ} {bytes others : List UInt8} {value : α}
    (begins : Begins first move next) (reads : Reads first bytes value)
    (starves : Starves first bytes) (starvesNext : Starves (next value) others) :
    Starves move (bytes ++ others) := by
  intro position front missing more cut
  rcases append_eq_append_of_ne_nil cut with ⟨left, missed, whole⟩ | ⟨front', rfl, behind⟩
  · rcases starves position front left missed whole with ⟨needed, remaining, failed, short⟩
    cases moved : first ⟨position, front⟩ with
    | mk value after error =>
      rw [moved] at failed
      dsimp only at failed
      subst failed
      exact ⟨needed, remaining, congrArg Prod.snd (begins.stops moved), short⟩
  · rcases starvesNext (position + bytes.length) front' missing more behind with
      ⟨needed, remaining, failed, short⟩
    have same := congrArg Prod.snd (begins.goesOn (reads position front'))
    exact ⟨needed, remaining, same.trans failed, short⟩

theorem take_of_short {count : Nat} {reader : Reader} (short : reader.remaining < count) :
    reader.take count = .error (.endOfInput count reader.remaining) := by
  rw [Reader.take, if_pos]
  simp only [Reader.remaining, List.length_take] at short ⊢
  omega

theorem length_lt_of_cut {front missing bytes : List UInt8} (more : missing ≠ [])
    (cut : front ++ missing = bytes) : front.length < bytes.length := by
  rw [← cut, List.length_append]
  exact Nat.lt_add_of_pos_right (List.length_pos_iff.mpr more)

theorem starves_word (count : Nat) (target value : BitVec (8 * count)) :
    Starves (serializeWord Reader.channel count target) (littleEndian count value.toNat) := by
  intro position front missing more cut
  have short : Reader.remaining ⟨position, front⟩ < count := by
    have shorter := length_lt_of_cut more cut
    rw [length_littleEndian] at shorter
    exact shorter
  refine ⟨count, front.length, ?_, short⟩
  simp only [serializeWord, Reader.move_channel, length_littleEndian, take_of_short short]
  rfl

theorem starves_via {count : Nat} {flaw : Flaw} {toWord : α → Nat} {accept : Nat → Option α}
    (target value : α) (bound : toWord value < Nat.pow 2 (8 * count)) :
    Starves (serializeVia Reader.channel count flaw toWord accept target)
      (littleEndian count (toWord value)) := by
  have word : (BitVec.ofNat (8 * count) (toWord value)).toNat = toWord value :=
    toNat_ofNat_of_lt bound
  have starves := Starves.begins (begins_via count flaw toWord accept target)
    (reads_word count _ (BitVec.ofNat _ (toWord value))) (starves_word count _ _) (starves_nil _)
  rwa [word, List.append_nil] at starves

theorem starves_length {target length : Nat} (targetFits : target ≤ maxLength)
    (fits : length ≤ maxLength) :
    Starves (serializeLength Reader.channel target) (littleEndian 4 length) := by
  have word : (BitVec.ofNat (8 * 4) length).toNat = length :=
    toNat_ofNat_of_lt (lt_of_le_maxLength fits)
  have starves := starves_word 4 (BitVec.ofNat _ target) (BitVec.ofNat _ length)
  rw [word] at starves
  intro position front missing more cut
  rw [serializeLength, if_neg (by omega)]
  exact starves position front missing more cut

/-- Where fewer bytes are left than were asked for, the whole chunks among them are taken, and the
chunk behind these is what the input ends in. -/
theorem readChunks_of_short {length : Nat} {reader : Reader} (short : reader.remaining < length) :
    readChunks Reader.channel length reader =
      (.error (.endOfInput
          (min (length - chunkSize * (reader.remaining / chunkSize)) chunkSize)
          (reader.remaining % chunkSize)),
        ⟨reader.position + chunkSize * (reader.remaining / chunkSize),
          reader.rest.drop (chunkSize * (reader.remaining / chunkSize))⟩) := by
  induction length using Nat.strongRecOn generalizing reader with
  | ind length induction =>
    rw [readChunks, if_neg (by omega)]
    simp only [Reader.move_channel, List.length_replicate]
    by_cases last : reader.remaining < min length chunkSize
    · have whole : reader.remaining / chunkSize = 0 := Nat.div_eq_of_lt (by omega)
      have part : reader.remaining % chunkSize = reader.remaining := Nat.mod_eq_of_lt (by omega)
      simp only [take_of_short last, whole, part, Nat.mul_zero, Nat.sub_zero, Nat.add_zero,
        List.drop_zero]
    · -- A whole chunk is left, and there is more to come behind it.
      have full : min length chunkSize = chunkSize := by omega
      rw [full] at last ⊢
      have takes : reader.take chunkSize = .ok (reader.rest.take chunkSize,
          ⟨reader.position + chunkSize, reader.rest.drop chunkSize⟩) :=
        Reader.take_eq_ok_iff.mpr ⟨by omega, rfl, rfl⟩
      have left : Reader.remaining ⟨reader.position + chunkSize, reader.rest.drop chunkSize⟩ =
          reader.remaining - chunkSize := List.length_drop
      have shorter : Reader.remaining ⟨reader.position + chunkSize, reader.rest.drop chunkSize⟩ <
          length - chunkSize := by omega
      have later := induction (length - chunkSize) (by simp only [chunkSize] at *; omega) shorter
      have chunks : reader.remaining / chunkSize = (reader.remaining - chunkSize) / chunkSize + 1 :=
        Nat.div_eq_sub_div (by decide) (by omega)
      have part : reader.remaining % chunkSize = (reader.remaining - chunkSize) % chunkSize :=
        Nat.mod_eq_sub_mod (by omega)
      rw [chunks, part, Nat.mul_succ, Nat.add_comm _ chunkSize, ← Nat.sub_sub, ← Nat.add_assoc,
        ← List.drop_drop]
      simp only [takes, later, left]

theorem starves_readText {length : Nat} {bytes : List UInt8} (size : bytes.length = length) :
    Starves (readText length) bytes := by
  intro position front missing more cut
  have short : Reader.remaining ⟨position, front⟩ < length := by
    rw [← size]
    exact length_lt_of_cut more cut
  have whole := Nat.div_add_mod (Reader.remaining ⟨position, front⟩) chunkSize
  have part : Reader.remaining ⟨position, front⟩ % chunkSize < chunkSize :=
    Nat.mod_lt _ (by decide)
  rw [readText, readChunks_of_short short]
  exact ⟨_, _, rfl, by omega⟩

theorem starves_text {target value : String} (targetFits : target.utf8ByteSize ≤ maxLength)
    (fits : value.utf8ByteSize ≤ maxLength) :
    Starves (serializeText Reader.channel target)
      (littleEndian 4 value.utf8ByteSize ++ value.toUTF8.data.toList) :=
  .begins (begins_text target) (reads_length targetFits fits) (starves_length targetFits fits)
    (starves_readText rfl)

/-- A move reads these bytes as that value, and an input that ends inside them is too short. -/
structure Needs (move : Reader → Outcome Reader α) (bytes : List UInt8) (value : α) : Prop where
  reads : Reads move bytes value
  starves : Starves move bytes

section Containers
variable {item : α → Reader → Outcome Reader α} {bytes : α → List UInt8}

theorem starves_newItems {fresh : α} {result : α → α} : ∀ values : List α,
    (∀ value ∈ values, Needs (item fresh) (bytes value) (result value)) →
      Starves (readItems (item fresh) values.length) (values.flatMap bytes)
  | [], _ => starves_nil _
  | head :: tail, needs => by
      rcases List.forall_mem_cons.mp needs with ⟨first, others⟩
      rw [List.flatMap_cons]
      exact .begins (begins_newItems fresh item tail.length) first.reads first.starves
        (starves_newItems tail others)

theorem starves_row {result : α → α → α} : ∀ {length : Nat} {targets values : Row α length},
    (∀ target ∈ targets.toList, ∀ value ∈ values.toList,
      Needs (item target) (bytes value) (result target value)) →
      Starves (serializeRow item length targets) (values.toList.flatMap bytes)
  | 0, _, _, _ => starves_nil _
  | length + 1, (target, targets), (value, values), needs => by
      have first := needs target List.mem_cons_self value List.mem_cons_self
      rw [Row.toList, List.flatMap_cons]
      exact .begins (begins_pair _ _ _) first.reads first.starves
        (starves_row fun target targetMember value member =>
          needs target (List.mem_cons_of_mem _ targetMember) value (List.mem_cons_of_mem _ member))

theorem starves_sequence {fresh : α} {result : α → α} {targets values : List α}
    (targetFits : targets.length ≤ maxLength) (fits : values.length ≤ maxLength)
    (needs : ∀ value ∈ values, Needs (item fresh) (bytes value) (result value)) :
    Starves (serializeSequence Reader.channel fresh item targets)
      (littleEndian 4 values.length ++ values.flatMap bytes) :=
  .begins (begins_sequence fresh item targets) (reads_length targetFits fits)
    (starves_length targetFits fits) (starves_newItems values needs)

theorem starves_optional {fresh : α} {result : α → α} (target : Option α) {value : Option α}
    (needs : ∀ content ∈ value.toList, Needs (item fresh) (bytes content) (result content)) :
    Starves (serializeOptional Reader.channel fresh item target)
      (littleEndian 1 value.isSome.toNat ++ value.toList.flatMap bytes) := by
  have bound : value.isSome.toNat < Nat.pow 2 (8 * 1) := by cases value.isSome <;> decide
  refine .begins (begins_optional fresh item target)
    (reads_via target.isSome bound (boolOfWord_toNat value.isSome))
    (starves_via target.isSome value.isSome bound) ?_
  cases value with
  | none => exact starves_nil _
  | some content =>
    have inner := (needs content (by simp)).starves
    rw [Option.toList, List.flatMap_singleton]
    exact inner

end Containers
end Starves

mutual
theorem serialize_starves : (shape : Shape) → (target value : shape.Value) →
    fits shape target = true → fits shape value = true →
      Starves (serialize Reader.channel shape target) (encoding shape value)
  | .unsigned width, target, value, _, _ => starves_word width.bytes target value
  | .signed width, target, value, _, _ => starves_word width.bytes target value
  | .float precision, target, value, _, _ => starves_word precision.bytes target value
  | .bool, target, value, _, _ => starves_via target value (by cases value <;> decide)
  | .char, target, value, _, _ => starves_via target value value.val.toNat_lt
  | .text, _, _, targetFits, valueFits =>
    starves_text (of_decide_eq_true targetFits) (of_decide_eq_true valueFits)
  | .unit, _, _, _, _ => starves_nil _
  | .sequence item, target, value, targetFits, valueFits => by
      simp only [fits, Bool.and_eq_true, decide_eq_true_eq] at targetFits valueFits
      have itemFits := List.all_eq_true.mp valueFits.2
      exact starves_sequence targetFits.1 valueFits.1 fun inner member =>
        ⟨serialize_reads item item.default inner (fits_default item) (itemFits inner member),
          serialize_starves item item.default inner (fits_default item) (itemFits inner member)⟩
  | .optional content, target, value, _, valueFits => by
      simp only [fits, List.all_eq_true] at valueFits
      exact starves_optional target fun inner member =>
        ⟨serialize_reads content content.default inner (fits_default content)
            (valueFits inner member),
          serialize_starves content content.default inner (fits_default content)
            (valueFits inner member)⟩
  | .boxed content, target, value, targetFits, valueFits =>
    serialize_starves content target value targetFits valueFits
  | .array length item, target, value, targetFits, valueFits => by
      simp only [fits, List.all_eq_true] at targetFits valueFits
      exact starves_row fun old oldMember inner member =>
        ⟨serialize_reads item old inner (targetFits old oldMember) (valueFits inner member),
          serialize_starves item old inner (targetFits old oldMember) (valueFits inner member)⟩
  | .tuple items, target, value, targetFits, valueFits =>
    serializeTuple_starves items target value targetFits valueFits
  | .record _ _ fields, target, value, targetFits, valueFits =>
    serializeFields_starves fields target value targetFits valueFits

theorem serializeTuple_starves : (shapes : Shapes) → (targets values : shapes.Values) →
    fitsTuple shapes targets = true → fitsTuple shapes values = true →
      Starves (serializeTuple Reader.channel shapes targets) (encodingTuple shapes values)
  | .nil, _, _, _, _ => starves_nil _
  | .cons head tail, (target, targets), (value, values), targetsFit, valuesFit => by
      simp only [fitsTuple, Bool.and_eq_true] at targetsFit valuesFit
      exact .begins (begins_pair _ _ _)
        (serialize_reads head target value targetsFit.1 valuesFit.1)
        (serialize_starves head target value targetsFit.1 valuesFit.1)
        (serializeTuple_starves tail targets values targetsFit.2 valuesFit.2)

theorem serializeFields_starves : (fields : Fields) → (targets values : fields.Values) →
    fitsFields fields targets = true → fitsFields fields values = true →
      Starves (serializeFields Reader.channel fields targets) (encodingFields fields values)
  | .nil, _, _, _, _ => starves_nil _
  | .cons _ true shape tail, (target, targets), (value, values), targetsFit, valuesFit => by
      simp only [fitsFields, Bool.and_eq_true] at targetsFit valuesFit
      exact .begins (begins_pair _ _ _)
        (serialize_reads shape target value targetsFit.1 valuesFit.1)
        (serialize_starves shape target value targetsFit.1 valuesFit.1)
        (serializeFields_starves tail targets values targetsFit.2 valuesFit.2)
  | .cons _ false _ tail, (_, targets), (_, values), targetsFit, valuesFit =>
    serializeFields_starves tail targets values targetsFit valuesFit
end

/-! ## Whole inputs -/

/-- Cutting the bytes of a value anywhere is reported as an input that ends too early, and bytes
behind them are reported as trailing. A reader starts inside its input and stays inside, whatever is
read into whatever target, so that what remains of the input is what lies behind its position. -/
theorem truncation (shape : Shape) :
    (∀ value bytes, toBytes shape value = .ok bytes →
      (∀ front, front <+: bytes → front ≠ bytes →
        ∃ needed remaining, fromBytes shape front = .error (.endOfInput needed remaining) ∧
          remaining < needed) ∧
      ∀ rest, rest ≠ [] → fromBytes shape (bytes ++ rest) = .error (.trailing rest.length)) ∧
    ∀ bytes, (Reader.ofBytes bytes).Views bytes ∧
      ∀ reader (target : shape.Value), reader.Views bytes →
        (serialize Reader.channel shape target reader).state.Views bytes := by
  refine ⟨?_, fun bytes => ⟨Reader.views_ofBytes bytes, fun reader target =>
    serialize_staysIn bytes shape target reader⟩⟩
  intro value bytes written
  rcases toBytes_eq_ok_iff.mp written with ⟨valueFits, rfl⟩
  constructor
  · rintro front ⟨missing, cut⟩ proper
    have more : missing ≠ [] := by
      rintro rfl
      exact proper (by rw [← cut, List.append_nil])
    rcases serialize_starves shape shape.default value (fits_default shape) valueFits 0 front
      missing more cut with ⟨needed, remaining, failed, short⟩
    refine ⟨needed, remaining, ?_, short⟩
    rw [fromBytes, Reader.ofBytes, Outcome.toExcept, failed]
    rfl
  · intro rest more
    rw [fromBytes, serialize_encoding_append valueFits]
    have left : Reader.remaining ⟨(encoding shape value).length, rest⟩ ≠ 0 :=
      fun none => more (List.length_eq_zero_iff.mp none)
    simp only [Outcome.toExcept, bind, Except.bind]
    rw [if_neg left]
    rfl

/-- A number that is present, without its last byte and with another byte behind it. -/
theorem truncation_optional :
    (∃ needed remaining,
      fromBytes (.optional (.unsigned .two)) [1, 7] = .error (.endOfInput needed remaining) ∧
        remaining < needed) ∧
      fromBytes (.optional (.unsigned .two)) [1, 7, 0, 9] = .error (.trailing 1) := by
  have written : toBytes (.optional (.unsigned .two)) (some (7 : BitVec 16)) = .ok [1, 7, 0] := rfl
  have whole := (truncation (.optional (.unsigned .two))).1 _ _ written
  exact ⟨whole.1 [1, 7] ⟨[0], rfl⟩ (by decide), whole.2 [9] (by decide)⟩

end Wireform.Wire
