import Wireform.Proofs.Wire.Encoding

/-! # Reading

A reader takes the encoding of a value off the front of its input, whatever the input holds behind
it. Conversely, what a reader accepts was the encoding of the value it reads. -/

namespace Wireform.Wire

namespace Reader

@[simp] theorem reading_channel : Reader.channel.reading = true := rfl

@[simp] theorem move_channel (block : List UInt8) (reader : Reader) :
    Reader.channel.move block reader = reader.take block.length := rfl

theorem take_append (position : Nat) (taken rest : List UInt8) :
    take taken.length ⟨position, taken ++ rest⟩ =
      .ok (taken, ⟨position + taken.length, rest⟩) := by
  rw [take_eq_ok_iff]
  simp [remaining]

theorem eq_append_of_take {count : Nat} {reader after : Reader} {taken : List UInt8}
    (takes : reader.take count = .ok (taken, after)) :
    taken.length = count ∧ reader.rest = taken ++ after.rest := by
  rcases take_eq_ok_iff.mp takes with ⟨enough, rfl, rfl⟩
  refine ⟨?_, (List.take_append_drop count reader.rest).symm⟩
  rw [List.length_take]
  exact Nat.min_eq_left enough

end Reader

/-- The move takes `bytes` off the front of an input and leaves `value` in its target. -/
def Reads {α : Type} (move : Reader → Outcome Reader α) (bytes : List UInt8) (value : α) : Prop :=
  ∀ position rest,
    move ⟨position, bytes ++ rest⟩ = ⟨value, ⟨position + bytes.length, rest⟩, none⟩

namespace Reads

variable {α β : Type}

theorem map {move : Reader → Outcome Reader α} {bytes : List UInt8} {value : α}
    (reads : Reads move bytes value) (whole : α → β) :
    Reads (fun reader => (move reader).map whole) bytes (whole value) := by
  intro position rest
  simp only [reads position rest, Outcome.map]

theorem nothing {move : Reader → Outcome Reader α} {value : α}
    (moves : ∀ reader, move reader = ⟨value, reader, none⟩) : Reads move [] value :=
  fun _ _ => moves _

theorem pair {first : Reader → Outcome Reader α} {second : Reader → Outcome Reader β}
    {bytes otherBytes : List UInt8} {value : α} {otherValue : β} (other : β)
    (reads : Reads first bytes value) (readsOther : Reads second otherBytes otherValue) :
    Reads (fun reader => (first reader).pair other second) (bytes ++ otherBytes)
      (value, otherValue) := by
  intro position rest
  simp only [List.append_assoc, reads position, Outcome.pair, readsOther (position + bytes.length),
    List.length_append, Nat.add_assoc]

end Reads

/-- Whatever the move accepts, its input began with the bytes of the value it leaves, and that
value fits. -/
def Accepts {α : Type} (move : Reader → Outcome Reader α) (bytes : α → List UInt8)
    (fit : α → Bool) : Prop :=
  ∀ ⦃reader value after⦄, move reader = ⟨value, after, none⟩ →
    fit value = true ∧ reader.rest = bytes value ++ after.rest

namespace Accepts

variable {α β : Type}

theorem nothing {move : Reader → Outcome Reader α} {value : α} {bytes : α → List UInt8}
    {fit : α → Bool} (moves : ∀ reader, move reader = ⟨value, reader, none⟩)
    (spelled : bytes value = []) (fits : fit value = true) : Accepts move bytes fit := by
  intro reader found after moved
  rw [moves] at moved
  cases moved
  exact ⟨fits, by rw [spelled, List.nil_append]⟩

theorem pair {first : Reader → Outcome Reader α} {second : Reader → Outcome Reader β}
    {bytes : α → List UInt8} {otherBytes : β → List UInt8} {fit : α → Bool} {otherFit : β → Bool}
    (other : β) (accepts : Accepts first bytes fit) (acceptsOther : Accepts second otherBytes otherFit) :
    Accepts (fun reader => (first reader).pair other second)
      (fun both => bytes both.1 ++ otherBytes both.2)
      (fun both => fit both.1 && otherFit both.2) := by
  intro reader both after moved
  cases moves : first reader with
  | mk value middle error =>
    cases error with
    | some error => simp [Outcome.pair, moves] at moved
    | none =>
      cases movesOther : second middle with
      | mk otherValue final otherError =>
        simp only [Outcome.pair, moves, movesOther, Outcome.mk.injEq] at moved
        rcases moved with ⟨rfl, rfl, rfl⟩
        rcases accepts moves with ⟨fits, spelled⟩
        rcases acceptsOther movesOther with ⟨otherFits, otherSpelled⟩
        refine ⟨by simp only [fits, otherFits, Bool.and_self], ?_⟩
        rw [spelled, otherSpelled, List.append_assoc]

end Accepts

/-! ## Numbers -/

theorem lt_two_pow_of_length {bytes : List UInt8} {count : Nat} (length : bytes.length = count) :
    ofLittleEndian bytes < Nat.pow 2 (8 * count) := by
  have bound := ofLittleEndian_lt bytes
  rwa [length, pow_256_eq] at bound

theorem reads_word (count : Nat) (target value : BitVec (8 * count)) :
    Reads (serializeWord Reader.channel count target) (littleEndian count value.toNat) value := by
  intro position rest
  have taken := Reader.take_append position (littleEndian count value.toNat) rest
  rw [length_littleEndian] at taken ⊢
  simp only [serializeWord, Reader.move_channel, length_littleEndian, taken, ofNat_littleEndian]

theorem accepts_word (count : Nat) (target : BitVec (8 * count)) :
    Accepts (serializeWord Reader.channel count target)
      (fun value => littleEndian count value.toNat) (fun _ => true) := by
  intro reader value after moved
  simp only [serializeWord, Reader.move_channel, length_littleEndian] at moved
  cases takes : reader.take count with
  | error error => simp [takes] at moved
  | ok found =>
    rcases Reader.eq_append_of_take takes with ⟨length, spelled⟩
    simp only [takes, Outcome.mk.injEq] at moved
    rcases moved with ⟨rfl, rfl, -⟩
    have written : littleEndian count (ofLittleEndian found.1) = found.1 := by
      rw [← length]
      exact littleEndian_ofLittleEndian found.1
    refine ⟨rfl, ?_⟩
    dsimp only
    rw [toNat_ofNat_of_lt (lt_two_pow_of_length length), written]
    exact spelled

section Via
variable {α : Type} {count : Nat} {flaw : Flaw} {toWord : α → Nat} {accept : Nat → Option α}

theorem reads_via (target : α) {value : α} (bound : toWord value < Nat.pow 2 (8 * count))
    (accepted : accept (toWord value) = some value) :
    Reads (serializeVia Reader.channel count flaw toWord accept target)
      (littleEndian count (toWord value)) value := by
  intro position rest
  have word : (BitVec.ofNat (8 * count) (toWord value)).toNat = toWord value :=
    toNat_ofNat_of_lt bound
  have reads := reads_word count (BitVec.ofNat _ (toWord target)) (BitVec.ofNat _ (toWord value))
    position rest
  rw [word] at reads
  simp only [serializeVia, reads, word, accepted]

theorem accepts_via (target : α)
    (accepted : ∀ word value, accept word = some value → toWord value = word) :
    Accepts (serializeVia Reader.channel count flaw toWord accept target)
      (fun value => littleEndian count (toWord value)) (fun _ => true) := by
  intro reader value after moved
  cases moves : serializeWord Reader.channel count (BitVec.ofNat _ (toWord target)) reader with
  | mk word middle error =>
    cases error with
    | some error => simp [serializeVia, moves] at moved
    | none =>
      cases found : accept word.toNat with
      | none => simp [serializeVia, moves, found] at moved
      | some other =>
        simp only [serializeVia, moves, found, Outcome.mk.injEq] at moved
        rcases moved with ⟨rfl, rfl, -⟩
        refine ⟨rfl, ?_⟩
        dsimp only
        rw [accepted _ _ found]
        exact (accepts_word count _ moves).2

end Via

/-! ## Lengths and texts -/

theorem reads_length {target length : Nat} (targetFits : target ≤ maxLength)
    (fits : length ≤ maxLength) :
    Reads (serializeLength Reader.channel target) (littleEndian 4 length) length := by
  intro position rest
  have word : (BitVec.ofNat (8 * 4) length).toNat = length :=
    toNat_ofNat_of_lt (lt_of_le_maxLength fits)
  have reads := reads_word 4 (BitVec.ofNat _ target) (BitVec.ofNat _ length) position rest
  rw [word] at reads
  rw [serializeLength, if_neg (by omega)]
  simp only [reads, Outcome.map, word]

theorem accepts_length (target : Nat) :
    Accepts (serializeLength Reader.channel target) (littleEndian 4)
      (fun length => decide (length ≤ maxLength)) := by
  intro reader length after moved
  by_cases refused : maxLength < target
  · simp [serializeLength, refused] at moved
  · rw [serializeLength, if_neg refused] at moved
    cases moves : serializeWord Reader.channel 4 (BitVec.ofNat (8 * 4) target) reader with
    | mk word middle error =>
      simp only [moves, Outcome.map, Outcome.mk.injEq] at moved
      rcases moved with ⟨rfl, rfl, rfl⟩
      have bound := word.isLt
      refine ⟨decide_eq_true ?_, (accepts_word 4 _ moves).2⟩
      simp only [maxLength]
      omega

/-- Chunk by chunk, as many bytes are read as were asked for. -/
theorem readChunks_append (length position : Nat) (block rest : List UInt8)
    (size : block.length = length) :
    readChunks Reader.channel length ⟨position, block ++ rest⟩ =
      (.ok block, ⟨position + length, rest⟩) := by
  induction length using Nat.strongRecOn generalizing position block with
  | ind length induction =>
    rw [readChunks]
    by_cases done : length = 0
    · subst done
      rw [List.length_eq_zero_iff.mp size]
      rfl
    · rw [if_neg done]
      have chunk : (block.take (min length chunkSize)).length = min length chunkSize := by
        rw [List.length_take]
        omega
      have taken := Reader.take_append position (block.take (min length chunkSize))
        (block.drop (min length chunkSize) ++ rest)
      rw [← List.append_assoc, List.take_append_drop, chunk] at taken
      have later := induction (length - min length chunkSize)
        (by simp only [chunkSize]; omega) (position + min length chunkSize)
        (block.drop (min length chunkSize)) (by rw [List.length_drop, size])
      simp only [Reader.move_channel, List.length_replicate, taken, later,
        List.take_append_drop]
      congr 2
      omega

theorem eq_append_of_readChunks {length : Nat} {reader after : Reader} {block : List UInt8}
    (reads : readChunks Reader.channel length reader = (.ok block, after)) :
    block.length = length ∧ reader.rest = block ++ after.rest := by
  induction length using Nat.strongRecOn generalizing reader block with
  | ind length induction =>
    rw [readChunks] at reads
    split at reads
    case isTrue done =>
      cases reads
      exact ⟨done.symm, rfl⟩
    case isFalse more =>
      simp only [Reader.move_channel, List.length_replicate] at reads
      cases takes : reader.take (min length chunkSize) with
      | error error => simp [takes] at reads
      | ok found =>
        rcases Reader.eq_append_of_take takes with ⟨chunk, spelled⟩
        simp only [takes] at reads
        cases later : readChunks Reader.channel (length - min length chunkSize) found.2 with
        | mk result final =>
          rw [later] at reads
          cases result with
          | error error => simp at reads
          | ok rest =>
            simp only [Prod.mk.injEq, Except.ok.injEq] at reads
            rcases reads with ⟨rfl, rfl⟩
            rcases induction _ (by simp only [chunkSize]; omega) later with ⟨size, restSpelled⟩
            refine ⟨?_, by rw [spelled, restSpelled, List.append_assoc]⟩
            rw [List.length_append, chunk, size]
            omega

theorem fromUTF8?_toUTF8 (value : String) :
    String.fromUTF8? ⟨value.toUTF8.data.toList.toArray⟩ = some value := by
  exact dif_pos value.isValidUTF8

theorem toUTF8_of_fromUTF8? {bytes : List UInt8} {value : String}
    (found : String.fromUTF8? ⟨bytes.toArray⟩ = some value) :
    value.toUTF8.data.toList = bytes := by
  unfold String.fromUTF8? at found
  split at found
  · cases found
    rfl
  · cases found

theorem reads_text {target value : String} (targetFits : target.utf8ByteSize ≤ maxLength)
    (fits : value.utf8ByteSize ≤ maxLength) :
    Reads (serializeText Reader.channel target)
      (littleEndian 4 value.utf8ByteSize ++ value.toUTF8.data.toList) value := by
  intro position rest
  have length := reads_length targetFits fits position (value.toUTF8.data.toList ++ rest)
  have chunks := readChunks_append value.utf8ByteSize
    (position + (littleEndian 4 value.utf8ByteSize).length) value.toUTF8.data.toList rest rfl
  simp only [serializeText, List.append_assoc, length, Reader.reading_channel, if_true, chunks,
    fromUTF8?_toUTF8, List.length_append, Nat.add_assoc]
  rfl

theorem accepts_text (target : String) :
    Accepts (serializeText Reader.channel target)
      (fun value => littleEndian 4 value.utf8ByteSize ++ value.toUTF8.data.toList)
      (fun value => decide (value.utf8ByteSize ≤ maxLength)) := by
  intro reader value after moved
  cases moves : serializeLength Reader.channel target.utf8ByteSize reader with
  | mk length middle error =>
    cases error with
    | some error => simp [serializeText, moves] at moved
    | none =>
      rcases accepts_length _ moves with ⟨fits, spelled⟩
      simp only [serializeText, moves, Reader.reading_channel, if_true] at moved
      cases chunks : readChunks Reader.channel length middle with
      | mk result final =>
        cases result with
        | error error => simp [chunks] at moved
        | ok bytes =>
          rcases eq_append_of_readChunks chunks with ⟨size, bytesSpelled⟩
          cases found : String.fromUTF8? ⟨bytes.toArray⟩ with
          | none => simp [chunks, found] at moved
          | some other =>
            simp only [chunks, found, Outcome.mk.injEq] at moved
            rcases moved with ⟨rfl, rfl, -⟩
            have utf8 := toUTF8_of_fromUTF8? found
            have sized : other.utf8ByteSize = length := by
              rw [← size, ← utf8]
              rfl
            dsimp only
            rw [sized, utf8, spelled, bytesSpelled, List.append_assoc]
            exact ⟨fits, rfl⟩

/-! ## Containers -/

section Containers
variable {α : Type} {bytes : α → List UInt8}

theorem reads_newItems {item : Reader → Outcome Reader α} {result : α → α} : ∀ values : List α,
    (∀ value ∈ values, Reads item (bytes value) (result value)) →
      Reads (readItems item values.length) (values.flatMap bytes) (values.map result)
  | [], _ => Reads.nothing fun _ => rfl
  | head :: tail, reads => by
      intro position rest
      have first := reads head List.mem_cons_self position (tail.flatMap bytes ++ rest)
      have others := reads_newItems tail
        (fun value member => reads value (List.mem_cons_of_mem head member))
        (position + (bytes head).length) rest
      simp only [List.length_cons, readItems, List.flatMap_cons, List.append_assoc, first, others,
        Outcome.map, List.map_cons, List.length_append, Nat.add_assoc]

theorem reads_row {item : α → Reader → Outcome Reader α} {result : α → α → α} :
    ∀ {length : Nat} {targets values : Row α length},
      (∀ target ∈ targets.toList, ∀ value ∈ values.toList,
        Reads (item target) (bytes value) (result target value)) →
      Reads (serializeRow item length targets) (values.toList.flatMap bytes)
        (Row.zipWith result targets values)
  | 0, _, _, _ => Reads.nothing fun _ => rfl
  | length + 1, (target, targets), (value, values), reads => by
      rw [Row.toList, List.flatMap_cons]
      apply Reads.pair targets
      · exact reads target List.mem_cons_self value List.mem_cons_self
      · exact reads_row fun target targetMember value member =>
          reads target (List.mem_cons_of_mem _ targetMember) value (List.mem_cons_of_mem _ member)

theorem reads_sequence {fresh : α} {item : α → Reader → Outcome Reader α} {result : α → α}
    {targets values : List α} (targetFits : targets.length ≤ maxLength)
    (fits : values.length ≤ maxLength)
    (reads : ∀ value ∈ values, Reads (item fresh) (bytes value) (result value)) :
    Reads (serializeSequence Reader.channel fresh item targets)
      (littleEndian 4 values.length ++ values.flatMap bytes) (values.map result) := by
  intro position rest
  have length := reads_length targetFits fits position (values.flatMap bytes ++ rest)
  have items := reads_newItems values reads (position + (littleEndian 4 values.length).length) rest
  simp only [serializeSequence, List.append_assoc, length, Reader.reading_channel, if_true, items,
    List.length_append, Nat.add_assoc]

theorem reads_optional {fresh : α} {item : α → Reader → Outcome Reader α} {result : α → α}
    (target : Option α) {value : Option α}
    (reads : ∀ content ∈ value.toList, Reads (item fresh) (bytes content) (result content)) :
    Reads (serializeOptional Reader.channel fresh item target)
      (littleEndian 1 value.isSome.toNat ++ value.toList.flatMap bytes) (value.map result) := by
  intro position rest
  have flag : Reads (serializeBool Reader.channel target.isSome) _ value.isSome :=
    reads_via target.isSome (by cases value.isSome <;> decide) (boolOfWord_toNat value.isSome)
  have present := flag position (value.toList.flatMap bytes ++ rest)
  cases value with
  | none =>
    simp only [serializeOptional, List.append_assoc, present]
    rfl
  | some content =>
    have moved := reads content (by simp) (position + (littleEndian 1 1).length) rest
    simp only [Option.isSome_some, Bool.toNat_true, Option.toList, List.flatMap_cons,
      List.flatMap_nil, List.append_nil] at present ⊢
    simp only [serializeOptional, List.append_assoc, present, Reader.reading_channel, moved,
      Option.map_some, List.length_append, Nat.add_assoc]

variable {fit : α → Bool}

theorem accepts_newItems {item : Reader → Outcome Reader α} (accepts : Accepts item bytes fit) :
    ∀ {count : Nat} {reader after : Reader} {values : List α},
      readItems item count reader = ⟨values, after, none⟩ →
        values.length = count ∧ values.all fit = true ∧
          reader.rest = values.flatMap bytes ++ after.rest
  | 0, _, _, _, moved => by
      cases moved
      exact ⟨rfl, rfl, rfl⟩
  | count + 1, reader, after, values, moved => by
      cases moves : item reader with
      | mk head middle error =>
        cases error with
        | some error => simp [readItems, moves] at moved
        | none =>
          cases others : readItems item count middle with
          | mk tail final error =>
            simp only [readItems, moves, others, Outcome.map, Outcome.mk.injEq] at moved
            rcases moved with ⟨rfl, rfl, rfl⟩
            rcases accepts moves with ⟨headFits, spelled⟩
            rcases accepts_newItems accepts others with ⟨length, tailFits, tailSpelled⟩
            refine ⟨by rw [List.length_cons, length], ?_, ?_⟩
            · rw [List.all_cons, headFits, tailFits]
              rfl
            · rw [List.flatMap_cons, spelled, tailSpelled, List.append_assoc]

theorem accepts_row {item : α → Reader → Outcome Reader α}
    (accepts : ∀ target, Accepts (item target) bytes fit) :
    ∀ (length : Nat) (targets : Row α length),
      Accepts (serializeRow item length targets) (fun row => row.toList.flatMap bytes)
        (fun row => row.toList.all fit)
  | 0, _ => Accepts.nothing (fun _ => rfl) rfl rfl
  | length + 1, (target, targets) =>
    (accepts target).pair targets (accepts_row accepts length targets)

theorem accepts_sequence {fresh : α} {item : α → Reader → Outcome Reader α}
    (accepts : Accepts (item fresh) bytes fit) (targets : List α) :
    Accepts (serializeSequence Reader.channel fresh item targets)
      (fun values => littleEndian 4 values.length ++ values.flatMap bytes)
      (fun values => decide (values.length ≤ maxLength) && values.all fit) := by
  intro reader values after moved
  cases moves : serializeLength Reader.channel targets.length reader with
  | mk length middle error =>
    cases error with
    | some error => simp [serializeSequence, moves] at moved
    | none =>
      rcases accepts_length _ moves with ⟨lengthFits, spelled⟩
      simp only [serializeSequence, moves, Reader.reading_channel, if_true] at moved
      rcases accepts_newItems accepts moved with ⟨size, itemsFit, itemsSpelled⟩
      dsimp only
      rw [size, itemsFit, Bool.and_true, List.append_assoc, ← itemsSpelled]
      exact ⟨lengthFits, spelled⟩

theorem accepts_optional {fresh : α} {item : α → Reader → Outcome Reader α}
    (accepts : Accepts (item fresh) bytes fit) (target : Option α) :
    Accepts (serializeOptional Reader.channel fresh item target)
      (fun value => littleEndian 1 value.isSome.toNat ++ value.toList.flatMap bytes)
      (fun value => value.toList.all fit) := by
  intro reader value after moved
  cases moves : serializeBool Reader.channel target.isSome reader with
  | mk present middle error =>
    cases error with
    | some error => simp [serializeOptional, moves] at moved
    | none =>
      have spelled := (accepts_via target.isSome toNat_of_boolOfWord moves).2
      cases present with
      | false =>
        simp only [serializeOptional, moves, Outcome.mk.injEq] at moved
        rcases moved with ⟨rfl, rfl, -⟩
        exact ⟨rfl, spelled⟩
      | true =>
        simp only [serializeOptional, moves, Reader.reading_channel] at moved
        cases content : item fresh middle with
        | mk inner final error =>
          cases error with
          | some error => simp [content] at moved
          | none =>
            simp only [content, Outcome.mk.injEq] at moved
            rcases moved with ⟨rfl, rfl, -⟩
            rcases accepts content with ⟨fits, innerSpelled⟩
            refine ⟨by simpa using fits, ?_⟩
            rw [spelled, innerSpelled]
            simp

end Containers

/-! ## Shapes -/

mutual
theorem serialize_reads : (shape : Shape) → (target value : shape.Value) →
    fits shape target = true → fits shape value = true →
      Reads (serialize Reader.channel shape target) (encoding shape value)
        (overlaid shape target value)
  | .unsigned width, target, value, _, _ => reads_word width.bytes target value
  | .signed width, target, value, _, _ => reads_word width.bytes target value
  | .float precision, target, value, _, _ => reads_word precision.bytes target value
  | .bool, target, value, _, _ =>
    reads_via target (by cases value <;> decide) (boolOfWord_toNat value)
  | .char, target, value, _, _ => reads_via target value.val.toNat_lt (charOfWord_toNat value)
  | .text, _, _, targetFits, valueFits =>
    reads_text (of_decide_eq_true targetFits) (of_decide_eq_true valueFits)
  | .unit, _, _, _, _ => Reads.nothing fun _ => rfl
  | .sequence item, target, value, targetFits, valueFits => by
      simp only [fits, Bool.and_eq_true, decide_eq_true_eq] at targetFits valueFits
      have itemFits := List.all_eq_true.mp valueFits.2
      exact reads_sequence targetFits.1 valueFits.1 fun inner member =>
        serialize_reads item item.default inner (fits_default item) (itemFits inner member)
  | .optional content, target, value, _, valueFits => by
      simp only [fits, List.all_eq_true] at valueFits
      exact reads_optional target fun inner member =>
        serialize_reads content content.default inner (fits_default content)
          (valueFits inner member)
  | .boxed content, target, value, targetFits, valueFits =>
    serialize_reads content target value targetFits valueFits
  | .array length item, target, value, targetFits, valueFits => by
      simp only [fits, List.all_eq_true] at targetFits valueFits
      exact reads_row fun old oldMember inner member =>
        serialize_reads item old inner (targetFits old oldMember) (valueFits inner member)
  | .tuple items, target, value, targetFits, valueFits =>
    serializeTuple_reads items target value targetFits valueFits
  | .record _ _ fields, target, value, targetFits, valueFits =>
    serializeFields_reads fields target value targetFits valueFits

theorem serializeTuple_reads : (shapes : Shapes) → (targets values : shapes.Values) →
    fitsTuple shapes targets = true → fitsTuple shapes values = true →
      Reads (serializeTuple Reader.channel shapes targets) (encodingTuple shapes values)
        (overlaidTuple shapes targets values)
  | .nil, _, _, _, _ => Reads.nothing fun _ => rfl
  | .cons head tail, (target, targets), (value, values), targetsFit, valuesFit => by
      simp only [fitsTuple, Bool.and_eq_true] at targetsFit valuesFit
      exact (serialize_reads head target value targetsFit.1 valuesFit.1).pair targets
        (serializeTuple_reads tail targets values targetsFit.2 valuesFit.2)

theorem serializeFields_reads : (fields : Fields) → (targets values : fields.Values) →
    fitsFields fields targets = true → fitsFields fields values = true →
      Reads (serializeFields Reader.channel fields targets) (encodingFields fields values)
        (overlaidFields fields targets values)
  | .nil, _, _, _, _ => Reads.nothing fun _ => rfl
  | .cons _ true shape tail, (target, targets), (value, values), targetsFit, valuesFit => by
      simp only [fitsFields, Bool.and_eq_true] at targetsFit valuesFit
      exact (serialize_reads shape target value targetsFit.1 valuesFit.1).pair targets
        (serializeFields_reads tail targets values targetsFit.2 valuesFit.2)
  | .cons _ false _ tail, (target, targets), (_, values), targetsFit, valuesFit =>
    (serializeFields_reads tail targets values targetsFit valuesFit).map fun rest => (target, rest)
end

mutual
theorem serialize_accepts : (shape : Shape) → (target : shape.Value) →
    Accepts (serialize Reader.channel shape target) (encoding shape) (fits shape)
  | .unsigned width, target => accepts_word width.bytes target
  | .signed width, target => accepts_word width.bytes target
  | .float precision, target => accepts_word precision.bytes target
  | .bool, target => accepts_via target toNat_of_boolOfWord
  | .char, target => accepts_via target toNat_of_charOfWord
  | .text, target => accepts_text target
  | .unit, _ => Accepts.nothing (fun _ => rfl) rfl rfl
  | .sequence item, target => accepts_sequence (serialize_accepts item item.default) target
  | .optional content, target => accepts_optional (serialize_accepts content content.default) target
  | .boxed content, target => serialize_accepts content target
  | .array length item, target => accepts_row (serialize_accepts item) length target
  | .tuple items, target => serializeTuple_accepts items target
  | .record _ _ fields, target => serializeFields_accepts fields target

theorem serializeTuple_accepts : (shapes : Shapes) → (targets : shapes.Values) →
    Accepts (serializeTuple Reader.channel shapes targets) (encodingTuple shapes)
      (fitsTuple shapes)
  | .nil, _ => Accepts.nothing (fun _ => rfl) rfl rfl
  | .cons head tail, (target, targets) =>
    (serialize_accepts head target).pair targets (serializeTuple_accepts tail targets)

theorem serializeFields_accepts : (fields : Fields) → (targets : fields.Values) →
    Accepts (serializeFields Reader.channel fields targets) (encodingFields fields)
      (fitsFields fields)
  | .nil, _ => Accepts.nothing (fun _ => rfl) rfl rfl
  | .cons _ true shape tail, (target, targets) =>
    (serialize_accepts shape target).pair targets (serializeFields_accepts tail targets)
  | .cons _ false _ tail, (target, targets) => by
      intro reader values after moved
      cases others : serializeFields Reader.channel tail targets reader with
      | mk rest final error =>
        simp only [serializeFields, others, Outcome.map] at moved
        cases moved
        exact serializeFields_accepts tail targets others
end

end Wireform.Wire
