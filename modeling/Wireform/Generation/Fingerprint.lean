import Wireform.Generation.Fragment
import Wireform.Names.Compilation
import Wireform.Wire.LittleEndian

/-! # Fingerprints

What a memoized result depends on, as bytes, and their digest. Every text goes with its length and
every list with its count, so that neighbouring texts cannot run together. -/

namespace Wireform.Generation

open Wireform.Names Wireform.Syntax

/-- A digest of bytes. All that is asked of it is to tell different bytes apart. -/
class Digest where
  of : List UInt8 → List UInt8
  injective : Function.Injective of

/-- Bytes are their own digest, where no other is chosen. -/
instance Digest.itself : Digest := ⟨id, Function.injective_id⟩

/-! ## What is digested -/

/-- A blueprint as it is printed. -/
structure Imprint where
  modules : List String
  name : String
  parameters : String
  predicates : String
  members : List String
  equality : Bool
  deriving DecidableEq, Repr, Inhabited

def Blueprint.imprint (blueprint : Blueprint) : Imprint where
  modules := blueprint.modules
  name := blueprint.name.spelling
  parameters := blueprint.parameters.text
  predicates := blueprint.predicates.text
  members := blueprint.members
  equality := blueprint.equality

namespace ByteStream

def ofLength (length : Nat) : List UInt8 := Wire.littleEndian 8 length

def ofText (text : String) : List UInt8 :=
  ofLength text.utf8ByteSize ++ text.toUTF8.data.toList

def ofTexts (texts : List String) : List UInt8 :=
  ofLength texts.length ++ texts.flatMap ofText

def ofFlag (flag : Bool) : List UInt8 := [if flag then 1 else 0]

def ofImprint (imprint : Imprint) : List UInt8 :=
  ofTexts imprint.modules ++ ofText imprint.name ++ ofText imprint.parameters ++
    ofText imprint.predicates ++ ofTexts imprint.members ++ ofFlag imprint.equality

/-- What a fragment depends on. -/
def ofBlueprint (blueprint : Blueprint) : List UInt8 := ofImprint blueprint.imprint

def ofCrate (external : ExternalCrate) : List UInt8 :=
  let exports := match external.exports with
    | some names => ofFlag true ++ ofTexts names
    | none => ofFlag false
  ofText external.localName ++ ofText external.crateName ++ exports

/-- What the markers depend on: the crates that can be named, in order. -/
def ofCrates (crates : List ExternalCrate) : List UInt8 := crates.flatMap ofCrate

example : ofTexts ["a", "b"] ≠ ofTexts ["ab"] := by decide

end ByteStream

abbrev Fingerprint := List UInt8

namespace Fingerprint

variable [Digest]

def ofImprint (imprint : Imprint) : Fingerprint := Digest.of (ByteStream.ofImprint imprint)

def ofBlueprint (blueprint : Blueprint) : Fingerprint := ofImprint blueprint.imprint

def ofCrates (crates : List ExternalCrate) : Fingerprint := Digest.of (ByteStream.ofCrates crates)

end Fingerprint

end Wireform.Generation
