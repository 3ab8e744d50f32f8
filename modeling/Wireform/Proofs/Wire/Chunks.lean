import Wireform.Proofs.Wire.Truncation

/-! # Chunks

A text is read chunk by chunk, and what is found is what would be found by reading it at once. Only
an input that ends too early shows the chunks: those that are whole are gone from it. -/

namespace Wireform.Wire

theorem readChunks_of_enough {length : Nat} {reader : Reader} (enough : length ≤ reader.remaining) :
    readChunks Reader.channel length reader =
      (.ok (reader.rest.take length),
        ⟨reader.position + length, reader.rest.drop length⟩) := by
  have size : (reader.rest.take length).length = length := by
    rw [List.length_take]
    exact Nat.min_eq_left enough
  have chunks := readChunks_append length reader.position (reader.rest.take length)
    (reader.rest.drop length) size
  rwa [List.take_append_drop] at chunks

/-- What is read behind a length is put into the target, if it is a text. -/
theorem serializeText_behind_length {target : String} (targetFits : target.utf8ByteSize ≤ maxLength)
    {length : Nat} (fits : length ≤ maxLength) (position : Nat) (rest : List UInt8) :
    serializeText Reader.channel target ⟨position, littleEndian 4 length ++ rest⟩ =
      (readText length ⟨position + 4, rest⟩).map (·.getD target) := by
  have prefixed := reads_length targetFits fits position rest
  rw [length_littleEndian] at prefixed
  simp only [serializeText, prefixed, Reader.reading_channel, if_true, readText]
  cases readChunks Reader.channel length ⟨position + 4, rest⟩ with
  | mk result after =>
    cases result with
    | error error => rfl
    | ok bytes =>
      dsimp only
      cases String.fromUTF8? ⟨bytes.toArray⟩ <;> rfl

/-- Whatever goes wrong while a text is read, the target stays as it is. -/
theorem value_of_failed_text (target : String) (reader : Reader)
    (failed : (serializeText Reader.channel target reader).error ≠ none) :
    (serializeText Reader.channel target reader).value = target := by
  revert failed
  cases moved : serializeLength Reader.channel target.utf8ByteSize reader with
  | mk length middle error =>
    cases error with
    | some error => simp [serializeText, moved]
    | none =>
      simp only [serializeText, moved, Reader.reading_channel, if_true]
      cases readChunks Reader.channel length middle with
      | mk result after =>
        cases result with
        | error error => exact fun _ => rfl
        | ok bytes =>
          dsimp only
          cases String.fromUTF8? ⟨bytes.toArray⟩ with
          | none => exact fun _ => rfl
          | some text => exact fun failed => absurd rfl failed

theorem fromUTF8?_eq_none {bytes : List UInt8}
    (noText : ∀ text : String, text.toUTF8.data.toList ≠ bytes) :
    String.fromUTF8? ⟨bytes.toArray⟩ = none := by
  cases found : String.fromUTF8? ⟨bytes.toArray⟩ with
  | none => rfl
  | some text => exact absurd (toUTF8_of_fromUTF8? found) (noText text)

/-- Behind a length, as many bytes as it says are taken if they are there: as a text if they are
one, and else they are refused. If they are not all there, the whole chunks of 256 bytes among those
that are left are taken, and the chunk behind these is what the input ends in. A target that is not
replaced stays as it is, whatever the reader finds. -/
theorem chunked_reading (target : String) (targetFits : target.utf8ByteSize ≤ maxLength) (length : Nat)
    (fits : length ≤ maxLength) (position : Nat) (rest : List UInt8) :
    let outcome := serialize Reader.channel .text target ⟨position, littleEndian 4 length ++ rest⟩
    (length ≤ rest.length →
      outcome.state = ⟨position + 4 + length, rest.drop length⟩ ∧
        (∀ text : String, text.toUTF8.data.toList = rest.take length →
          outcome.error = none ∧ outcome.value = text) ∧
        ((∀ text : String, text.toUTF8.data.toList ≠ rest.take length) →
          outcome.error = some (.invalid .notUtf8))) ∧
      (rest.length < length →
        outcome.state = ⟨position + 4 + 256 * (rest.length / 256),
            rest.drop (256 * (rest.length / 256))⟩ ∧
          outcome.error = some (.endOfInput (min 256 (length - 256 * (rest.length / 256)))
            (rest.length % 256))) ∧
      ∀ reader, (serialize Reader.channel .text target reader).error ≠ none →
        (serialize Reader.channel .text target reader).value = target := by
  intro outcome
  have behind : outcome = (readText length ⟨position + 4, rest⟩).map (·.getD target) :=
    serializeText_behind_length targetFits fits position rest
  refine ⟨?_, ?_, value_of_failed_text target⟩
  · intro enough
    have chunks : readChunks Reader.channel length ⟨position + 4, rest⟩ =
        (.ok (rest.take length), ⟨position + 4 + length, rest.drop length⟩) :=
      readChunks_of_enough enough
    rw [behind, readText, chunks]
    refine ⟨rfl, ?_, ?_⟩
    · intro text spelled
      have found := fromUTF8?_toUTF8 text
      rw [spelled] at found
      simp only [Outcome.map, found]
      exact ⟨rfl, rfl⟩
    · intro noText
      simp only [Outcome.map, fromUTF8?_eq_none noText]
      rfl
  · intro short
    have left : Reader.remaining ⟨position + 4, rest⟩ < length := short
    have chunks := readChunks_of_short left
    rw [Nat.min_comm] at chunks
    rw [behind, readText, chunks]
    exact ⟨rfl, rfl⟩

theorem Outcome.eq_mk {σ α : Type} {outcome : Outcome σ α} {value : α} {state : σ}
    {error : Option Error} (isState : outcome.state = state) (isError : outcome.error = error)
    (isValue : outcome.value = value) : outcome = ⟨value, state, error⟩ := by
  cases outcome
  rw [Outcome.mk.injEq]
  exact ⟨isValue, isState, isError⟩

/-- A letter of two bytes that begins in one chunk and ends in the next, a byte that is no text, and
an input that ends in its second chunk. -/
theorem chunked_reading_letter :
    let text := String.ofList (List.replicate 255 'x' ++ ['é'])
    serialize Reader.channel .text "old"
        ⟨0, littleEndian 4 257 ++ (text.toUTF8.data.toList ++ [7])⟩ = ⟨text, ⟨261, [7]⟩, none⟩ ∧
      serialize Reader.channel .text "old" ⟨0, littleEndian 4 1 ++ [255]⟩ =
        ⟨"old", ⟨5, []⟩, some (.invalid .notUtf8)⟩ ∧
      serialize Reader.channel .text "old" ⟨0, littleEndian 4 1000 ++ List.replicate 300 0⟩ =
        ⟨"old", ⟨260, List.replicate 44 0⟩, some (.endOfInput 256 44)⟩ := by
  intro text
  have reads := chunked_reading "old" (by decide)
  refine ⟨?_, ?_, ?_⟩
  · have size : text.toUTF8.data.toList.length = 257 := by decide +kernel
    have whole := (reads 257 (by decide) 0 (text.toUTF8.data.toList ++ [7])).1
      (by rw [List.length_append, size]; decide)
    rw [List.take_left' size, List.drop_left' size] at whole
    have accepted := whole.2.1 text rfl
    exact Outcome.eq_mk whole.1 accepted.1 accepted.2
  · rcases reads 1 (by decide) 0 [255] with ⟨whole, -, kept⟩
    rcases whole (by decide) with ⟨state, -, refuses⟩
    have error := refuses (by
      intro other spelled
      have found := fromUTF8?_toUTF8 other
      have noText : String.fromUTF8? ⟨#[255]⟩ = none := by decide +kernel
      rw [spelled] at found
      exact absurd (found.symm.trans noText) (Option.some_ne_none _))
    exact Outcome.eq_mk state error (kept _ (by rw [error]; exact Option.some_ne_none _))
  · rcases reads 1000 (by decide) 0 (List.replicate 300 0) with ⟨-, cut, kept⟩
    rcases cut (by decide +kernel) with ⟨state, error⟩
    exact Outcome.eq_mk (state.trans (by decide +kernel)) (error.trans (by decide +kernel))
      (kept _ (by rw [error]; exact Option.some_ne_none _))

end Wireform.Wire
