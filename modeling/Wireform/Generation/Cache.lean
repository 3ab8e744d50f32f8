import Wireform.Generation.Fingerprint
import Wireform.Generation.Marker

/-! # Cache

Results that are kept from one pass to the next: the markers of the last compilation, and the
fragments of the structs that were generated. Each is found by the fingerprint of its inputs. -/

namespace Wireform.Generation

open Wireform.Names

structure Cache where
  markers : Option (Fingerprint × Option Markers)
  fragments : List (Fingerprint × Fragment)
  deriving DecidableEq, Repr, Inhabited

structure Emission where
  fragment : Fragment
  fingerprint : Fingerprint
  cached : Bool
  deriving DecidableEq, Repr, Inhabited

namespace Cache

def empty : Cache := ⟨none, []⟩

variable (cache : Cache)

def size : Nat := cache.fragments.length

def isEmpty : Bool := cache.fragments.isEmpty

def fragment? (fingerprint : Fingerprint) : Option Fragment :=
  (cache.fragments.find? (·.1 = fingerprint)).map Prod.snd

section Memoized
variable [Digest]

def markersOf (compilation : Compilation) : Option Markers × Cache :=
  let fingerprint := Fingerprint.ofCrates compilation.crates
  match cache.markers with
  | some (known, markers) =>
    if known = fingerprint then (markers, cache) else renewed fingerprint
  | none => renewed fingerprint
where
  renewed (fingerprint : Fingerprint) : Option Markers × Cache :=
    let markers := Markers.of? compilation
    (markers, { cache with markers := some (fingerprint, markers) })

/-- The fragment for a blueprint, and the cache that holds it. A failure is not remembered. -/
def emit (blueprint : Blueprint) : Except FragmentError (Emission × Cache) :=
  let fingerprint := Fingerprint.ofBlueprint blueprint
  match cache.fragment? fingerprint with
  | some fragment => .ok (⟨fragment, fingerprint, true⟩, cache)
  | none => do
    let fragment ← blueprint.fragment
    let fragments := cache.fragments ++ [(fingerprint, fragment)]
    return (⟨fragment, fingerprint, false⟩, { cache with fragments := fragments })

end Memoized

def retain (live : List Fingerprint) : Cache :=
  { cache with fragments := cache.fragments.filter fun entry => live.contains entry.1 }

end Cache

end Wireform.Generation
