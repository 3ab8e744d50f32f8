import Wireform.Proofs.Wire.Reading

/-! # Sequencing

What reading a value does first, and what it does next with what it found. How the reading ends,
that is, where the reader is left and with which error, follows from the two. -/

namespace Wireform.Wire

/-- How a move ends, whatever its target holds then. -/
def Outcome.ending {σ α : Type} (outcome : Outcome σ α) : σ × Option Error :=
  (outcome.state, outcome.error)

theorem Outcome.ending_map {σ α β : Type} (whole : α → β) (outcome : Outcome σ α) :
    (outcome.map whole).ending = outcome.ending := rfl

/-- The move ends as `first` does if that fails, and else as `next` does with the value that `first`
has read. -/
structure Begins {α β γ : Type} (first : Reader → Outcome Reader α)
    (move : Reader → Outcome Reader β) (next : α → Reader → Outcome Reader γ) : Prop where
  stops : ∀ ⦃reader value after error⦄, first reader = ⟨value, after, some error⟩ →
    (move reader).ending = (after, some error)
  goesOn : ∀ ⦃reader value after⦄, first reader = ⟨value, after, none⟩ →
    (move reader).ending = (next value after).ending

theorem begins_pair {α β : Type} (first : Reader → Outcome Reader α) (other : β)
    (second : Reader → Outcome Reader β) :
    Begins first (fun reader => (first reader).pair other second) fun _ => second := by
  constructor
  · intro reader value after error moved
    simp only [Outcome.pair, moved, Outcome.ending]
  · intro reader value after moved
    simp only [Outcome.pair, moved, Outcome.ending]

/-- What is left to do with a word that was read: nothing, or to refuse it. -/
def judge {α : Type} (flaw : Flaw) (accept : Nat → Option α) (word : Nat) (reader : Reader) :
    Outcome Reader (Option α) :=
  ⟨accept word, reader, if (accept word).isSome then none else some (.invalid flaw)⟩

theorem begins_via {α : Type} (count : Nat) (flaw : Flaw) (toWord : α → Nat)
    (accept : Nat → Option α) (target : α) :
    Begins (serializeWord Reader.channel count (BitVec.ofNat _ (toWord target)))
      (serializeVia Reader.channel count flaw toWord accept target)
      fun word => judge flaw accept word.toNat := by
  constructor
  · intro reader value after error moved
    simp only [serializeVia, moved, Outcome.ending]
  · intro reader value after moved
    simp only [serializeVia, moved, judge, Outcome.ending]
    cases accept value.toNat <;> rfl

/-- The bytes of a text, and whether they are one. -/
def readText (length : Nat) (reader : Reader) : Outcome Reader (Option String) :=
  match readChunks Reader.channel length reader with
  | (.error error, after) => ⟨none, after, some error⟩
  | (.ok bytes, after) =>
    let text := String.fromUTF8? ⟨bytes.toArray⟩
    ⟨text, after, if text.isSome then none else some (.invalid .notUtf8)⟩

theorem begins_text (target : String) :
    Begins (serializeLength Reader.channel target.utf8ByteSize)
      (serializeText Reader.channel target) readText := by
  constructor
  · intro reader length after error moved
    simp only [serializeText, moved, Outcome.ending]
  · intro reader length after moved
    simp only [serializeText, moved, Reader.reading_channel, if_true, readText]
    cases readChunks Reader.channel length after with
    | mk result final =>
      cases result with
      | error error => rfl
      | ok bytes =>
        dsimp only
        cases String.fromUTF8? ⟨bytes.toArray⟩ <;> rfl

section Containers
variable {α : Type} (fresh : α) (item : α → Reader → Outcome Reader α)

theorem begins_newItems (count : Nat) :
    Begins (item fresh) (readItems (item fresh) (count + 1)) fun _ =>
      readItems (item fresh) count := by
  constructor
  · intro reader value after error moved
    simp only [readItems, moved, Outcome.ending]
  · intro reader value after moved
    simp only [readItems, moved, Outcome.ending_map]

theorem begins_sequence (targets : List α) :
    Begins (serializeLength Reader.channel targets.length)
      (serializeSequence Reader.channel fresh item targets) (readItems (item fresh)) := by
  constructor
  · intro reader length after error moved
    simp only [serializeSequence, moved, Outcome.ending]
  · intro reader length after moved
    simp only [serializeSequence, moved, Reader.reading_channel, if_true]

/-- The content behind a presence flag. -/
def readContent (present : Bool) (reader : Reader) : Outcome Reader (Option α) :=
  if present then (item fresh reader).map some else ⟨none, reader, none⟩

theorem begins_optional (target : Option α) :
    Begins (serializeBool Reader.channel target.isSome)
      (serializeOptional Reader.channel fresh item target) (readContent fresh item) := by
  constructor
  · intro reader present after error moved
    simp only [serializeOptional, moved, Outcome.ending]
  · intro reader present after moved
    cases present with
    | false => simp only [serializeOptional, moved, readContent, Bool.false_eq_true, if_false]
    | true =>
      simp only [serializeOptional, moved, Reader.reading_channel, readContent, if_true,
        Outcome.ending_map]
      cases content : item fresh after with
      | mk value final error => cases error <;> rfl

end Containers

end Wireform.Wire
