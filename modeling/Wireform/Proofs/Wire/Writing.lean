import Wireform.Proofs.Wire.Encoding

/-! # Writing

A writer leaves every value alone and appends a block that does not depend on what it held before:
the value's encoding if the value fits, and otherwise what comes before the length that is refused. -/

namespace Wireform.Wire

namespace Writer

theorem append_nil (writer : Writer) : writer.append [] = writer := by
  cases writer
  simp [append]

theorem append_append (writer : Writer) (first second : List UInt8) :
    (writer.append first).append second = writer.append (first ++ second) := by
  have buffers : ((writer.append first).append second).buffer =
      (writer.append (first ++ second)).buffer := by
    apply Array.toList_inj.mp
    rw [buffer_append, buffer_append, buffer_append, List.append_assoc]
  exact congrArg Writer.mk buffers

@[simp] theorem reading_channel : Writer.channel.reading = false := rfl

@[simp] theorem move_channel (block : List UInt8) (writer : Writer) :
    Writer.channel.move block writer = .ok (block, writer.append block) := rfl

end Writer

def writingError (fit : Bool) : Option Error := if fit then none else some (.invalid .tooLong)

/-- The move leaves `value` alone. It appends `bytes` if the value fits; else it is refused. -/
def Writes {α : Type} (move : Writer → Outcome Writer α) (value : α) (bytes : List UInt8)
    (fit : Bool) : Prop :=
  ∃ block, (fit = true → block = bytes) ∧
    ∀ writer, move writer = ⟨value, writer.append block, writingError fit⟩

namespace Writes

variable {α β : Type}

theorem of_append {move : Writer → Outcome Writer α} {value : α} {bytes : List UInt8}
    (moves : ∀ writer, move writer = ⟨value, writer.append bytes, none⟩) :
    Writes move value bytes true :=
  ⟨bytes, fun _ => rfl, moves⟩

theorem nothing {move : Writer → Outcome Writer α} {value : α}
    (moves : ∀ writer, move writer = ⟨value, writer, none⟩) : Writes move value [] true :=
  of_append fun writer => by rw [moves, writer.append_nil]

theorem map {move : Writer → Outcome Writer α} {value : α} {bytes : List UInt8} {fit : Bool}
    (writes : Writes move value bytes fit) (whole : α → β) :
    Writes (fun writer => (move writer).map whole) (whole value) bytes fit := by
  rcases writes with ⟨block, spelled, moves⟩
  refine ⟨block, spelled, fun writer => ?_⟩
  simp only [moves, Outcome.map]

theorem pair {first : Writer → Outcome Writer α} {second : Writer → Outcome Writer β}
    {value : α} {other : β} {bytes otherBytes : List UInt8} {fit otherFit : Bool}
    (writes : Writes first value bytes fit) (writesOther : Writes second other otherBytes otherFit) :
    Writes (fun writer => (first writer).pair other second) (value, other) (bytes ++ otherBytes)
      (fit && otherFit) := by
  rcases writes with ⟨block, spelled, moves⟩
  rcases writesOther with ⟨otherBlock, otherSpelled, otherMoves⟩
  cases fit with
  | false =>
    refine ⟨block, by simp, fun writer => ?_⟩
    simp only [moves, Outcome.pair, writingError, Bool.false_and, Bool.false_eq_true, if_false]
  | true =>
    refine ⟨block ++ otherBlock, fun fits => ?_, fun writer => ?_⟩
    · rw [spelled rfl, otherSpelled fits]
    · simp only [moves, Outcome.pair, writingError, Bool.true_and, if_true, otherMoves,
        writer.append_append]

end Writes

/-! ## Parts -/

theorem writes_word (count : Nat) (value : BitVec (8 * count)) :
    Writes (serializeWord Writer.channel count value) value (littleEndian count value.toNat) true := by
  apply Writes.of_append
  intro writer
  simp only [serializeWord, Writer.move_channel, ofNat_littleEndian]

/-- A value that stands for a number which is accepted again as that value. -/
theorem writes_via {α : Type} {count : Nat} {flaw : Flaw} {toWord : α → Nat}
    {accept : Nat → Option α} {value : α} (bound : toWord value < Nat.pow 2 (8 * count))
    (accepted : accept (toWord value) = some value) :
    Writes (serializeVia Writer.channel count flaw toWord accept value) value
      (littleEndian count (toWord value)) true := by
  have word : (BitVec.ofNat (8 * count) (toWord value)).toNat = toWord value :=
    toNat_ofNat_of_lt bound
  rcases writes_word count (BitVec.ofNat _ (toWord value)) with ⟨block, spelled, moves⟩
  apply Writes.of_append
  intro writer
  rw [spelled rfl, word] at moves
  simp only [serializeVia, moves, writingError, if_true, word, accepted]

theorem writes_bool (value : Bool) :
    Writes (serializeBool Writer.channel value) value (littleEndian 1 value.toNat) true :=
  writes_via (by cases value <;> decide) (boolOfWord_toNat value)

theorem serializeBool_writer (value : Bool) (writer : Writer) :
    serializeBool Writer.channel value writer =
      ⟨value, writer.append (littleEndian 1 value.toNat), none⟩ := by
  rcases writes_bool value with ⟨block, spelled, moves⟩
  rw [moves, spelled rfl]
  rfl

theorem writes_char (value : Char) :
    Writes (serializeChar Writer.channel value) value (littleEndian 4 value.toNat) true :=
  writes_via value.val.toNat_lt (charOfWord_toNat value)

theorem writes_length (length : Nat) :
    Writes (serializeLength Writer.channel length) length (littleEndian 4 length)
      (decide (length ≤ maxLength)) := by
  by_cases fit : length ≤ maxLength
  · have word : (BitVec.ofNat (8 * 4) length).toNat = length :=
      toNat_ofNat_of_lt (lt_of_le_maxLength fit)
    have written := (writes_word 4 (BitVec.ofNat _ length)).map BitVec.toNat
    rw [word] at written
    rw [decide_eq_true fit]
    have unfolded : serializeLength Writer.channel length = fun writer =>
        (serializeWord Writer.channel 4 (BitVec.ofNat _ length) writer).map BitVec.toNat := by
      funext writer
      rw [serializeLength, if_neg (by omega)]
    rw [unfolded]
    exact written
  · rw [decide_eq_false fit]
    refine ⟨[], by simp, fun writer => ?_⟩
    rw [serializeLength, if_pos (by omega), writer.append_nil]
    rfl

theorem writes_after_length {α : Type} {length : Nat} {value : α} {bytes : List UInt8} {fit : Bool}
    {move : Writer → Outcome Writer α} (rest : Writer → Outcome Writer α)
    (refused : ∀ writer after error,
      serializeLength Writer.channel length writer = ⟨length, after, some error⟩ →
        move writer = ⟨value, after, some error⟩)
    (passed : ∀ writer after, serializeLength Writer.channel length writer = ⟨length, after, none⟩ →
      move writer = rest after)
    (writes : Writes rest value bytes fit) :
    Writes move value (littleEndian 4 length ++ bytes) (decide (length ≤ maxLength) && fit) := by
  rcases writes_length length with ⟨block, spelled, moves⟩
  rcases writes with ⟨restBlock, restSpelled, restMoves⟩
  cases lengthFits : decide (length ≤ maxLength) with
  | false =>
    rw [lengthFits] at moves
    refine ⟨block, by simp, fun writer => ?_⟩
    exact refused writer _ _ (moves writer)
  | true =>
    rw [lengthFits] at moves
    refine ⟨block ++ restBlock, fun fits => ?_, fun writer => ?_⟩
    · rw [spelled lengthFits, restSpelled (by simpa using fits)]
    · rw [passed writer _ (moves writer), restMoves, writer.append_append, Bool.true_and]

theorem writes_text (value : String) :
    Writes (serializeText Writer.channel value) value
      (littleEndian 4 value.utf8ByteSize ++ value.toUTF8.data.toList)
      (decide (value.utf8ByteSize ≤ maxLength)) := by
  rw [← Bool.and_true (decide _)]
  apply writes_after_length fun writer => ⟨value, writer.append value.toUTF8.data.toList, none⟩
  · intro writer after error refused
    simp only [serializeText, refused]
  · intro writer after passed
    simp only [serializeText, passed, Writer.reading_channel, Bool.false_eq_true, if_false,
      Writer.move_channel]
  · exact Writes.of_append fun _ => rfl

section Containers
variable {α : Type} {item : α → Writer → Outcome Writer α} {bytes : α → List UInt8}
  {fit : α → Bool}

theorem writes_items (writes : ∀ value, Writes (item value) value (bytes value) (fit value)) :
    ∀ values : List α,
      Writes (serializeItems item values) values (values.flatMap bytes) (values.all fit)
  | [] => Writes.nothing fun _ => rfl
  | head :: tail => by
      rw [List.flatMap_cons, List.all_cons]
      exact ((writes head).pair (writes_items writes tail)).map fun both => both.1 :: both.2

theorem writes_row (writes : ∀ value, Writes (item value) value (bytes value) (fit value)) :
    ∀ (length : Nat) (row : Row α length),
      Writes (serializeRow item length row) row (row.toList.flatMap bytes) (row.toList.all fit)
  | 0, _ => Writes.nothing fun _ => rfl
  | length + 1, (head, tail) => by
      rw [Row.toList, List.flatMap_cons, List.all_cons]
      exact (writes head).pair (writes_row writes length tail)

theorem writes_sequence (fresh : α)
    (writes : ∀ value, Writes (item value) value (bytes value) (fit value)) (values : List α) :
    Writes (serializeSequence Writer.channel fresh item values) values
      (littleEndian 4 values.length ++ values.flatMap bytes)
      (decide (values.length ≤ maxLength) && values.all fit) := by
  apply writes_after_length (serializeItems item values)
  · intro writer after error refused
    simp only [serializeSequence, refused]
  · intro writer after passed
    simp only [serializeSequence, passed, Writer.reading_channel, Bool.false_eq_true, if_false]
  · exact writes_items writes values

theorem writes_optional (fresh : α)
    (writes : ∀ value, Writes (item value) value (bytes value) (fit value)) (value : Option α) :
    Writes (serializeOptional Writer.channel fresh item value) value
      (littleEndian 1 value.isSome.toNat ++ value.toList.flatMap bytes)
      (value.toList.all fit) := by
  cases value with
  | none =>
    apply Writes.of_append
    intro writer
    simp only [serializeOptional, serializeBool_writer]
    rfl
  | some content =>
    rcases writes content with ⟨block, spelled, moves⟩
    simp only [Option.toList, List.flatMap_cons, List.flatMap_nil, List.append_nil, List.all_cons,
      List.all_nil, Bool.and_true]
    refine ⟨littleEndian 1 1 ++ block, fun fits => ?_, fun writer => ?_⟩
    · rw [spelled fits]
      rfl
    · simp only [serializeOptional, serializeBool_writer, Option.isSome_some, Bool.toNat_true,
        Writer.reading_channel, moves, Outcome.map, writer.append_append]

end Containers

/-! ## Shapes -/

mutual
theorem serialize_writes : (shape : Shape) → (value : shape.Value) →
    Writes (serialize Writer.channel shape value) value (encoding shape value) (fits shape value)
  | .unsigned width, value => writes_word width.bytes value
  | .signed width, value => writes_word width.bytes value
  | .float precision, value => writes_word precision.bytes value
  | .bool, value => writes_bool value
  | .char, value => writes_char value
  | .text, value => writes_text value
  | .unit, _ => Writes.nothing fun _ => rfl
  | .sequence item, value => writes_sequence item.default (serialize_writes item) value
  | .optional content, value => writes_optional content.default (serialize_writes content) value
  | .boxed content, value => serialize_writes content value
  | .array length item, value => writes_row (serialize_writes item) length value
  | .tuple items, value => serializeTuple_writes items value
  | .record _ _ fields, value => serializeFields_writes fields value

theorem serializeTuple_writes : (shapes : Shapes) → (values : shapes.Values) →
    Writes (serializeTuple Writer.channel shapes values) values (encodingTuple shapes values)
      (fitsTuple shapes values)
  | .nil, _ => Writes.nothing fun _ => rfl
  | .cons head tail, (first, rest) =>
    (serialize_writes head first).pair (serializeTuple_writes tail rest)

theorem serializeFields_writes : (fields : Fields) → (values : fields.Values) →
    Writes (serializeFields Writer.channel fields values) values (encodingFields fields values)
      (fitsFields fields values)
  | .nil, _ => Writes.nothing fun _ => rfl
  | .cons _ true shape tail, (first, rest) =>
    (serialize_writes shape first).pair (serializeFields_writes tail rest)
  | .cons _ false _ tail, (first, rest) =>
    (serializeFields_writes tail rest).map fun rest => (first, rest)
end

theorem toBytes_eq (shape : Shape) (value : shape.Value) :
    toBytes shape value =
      if fits shape value then .ok (encoding shape value) else .error (.invalid .tooLong) := by
  rcases serialize_writes shape value with ⟨block, spelled, moves⟩
  rw [toBytes, moves]
  cases fit : fits shape value with
  | false => rfl
  | true =>
    rw [spelled fit]
    show Except.ok (Writer.empty.append (encoding shape value)).buffer.toList = _
    rw [Writer.buffer_append]
    rfl

theorem toBytes_eq_ok_iff {shape : Shape} {value : shape.Value} {bytes : List UInt8} :
    toBytes shape value = .ok bytes ↔ fits shape value = true ∧ bytes = encoding shape value := by
  rw [toBytes_eq]
  cases fits shape value with
  | false => simp
  | true => simp only [if_true, Except.ok.injEq, true_and, eq_comm]

end Wireform.Wire
