import Wireform.Wire.LittleEndian

/-! # Frames

Bytes that show by themselves where they end: whatever is written behind them, they can be told from
all other bytes that stand for something. -/

namespace Wireform.Wire

/-- Whatever follows, bytes that begin alike begin with values that settle to the same. -/
def FramedUpTo {α β : Type} (settle : α → β) (encode : α → List UInt8) (fit : α → Prop) : Prop :=
  ∀ ⦃left right rest other⦄, fit left → fit right →
    encode left ++ rest = encode right ++ other → settle left = settle right ∧ rest = other

namespace FramedUpTo

variable {α β γ δ : Type} {settle : α → β} {encode : α → List UInt8} {fit : α → Prop}
  {settleNext : γ → δ} {next : γ → List UInt8} {fitNext : γ → Prop}

theorem of_fits {fewer : α → Prop} (framed : FramedUpTo settle encode fit)
    (fits : ∀ value, fewer value → fit value) : FramedUpTo settle encode fewer :=
  fun left right _ _ leftFits rightFits => framed (fits left leftFits) (fits right rightFits)

theorem of_length {count : Nat} (length : ∀ value, (encode value).length = count)
    (differ : ∀ left right, fit left → fit right → encode left = encode right →
      settle left = settle right) : FramedUpTo settle encode fit := by
  intro left right rest other leftFits rightFits alike
  have lengths : (encode left).length = (encode right).length := by rw [length, length]
  rcases List.append_inj alike lengths with ⟨same, sameRest⟩
  exact ⟨differ left right leftFits rightFits same, sameRest⟩

theorem pair (framed : FramedUpTo settle encode fit)
    (framedNext : FramedUpTo settleNext next fitNext) :
    FramedUpTo (fun both : α × γ => (settle both.1, settleNext both.2))
      (fun both => encode both.1 ++ next both.2) (fun both => fit both.1 ∧ fitNext both.2) := by
  rintro ⟨left, leftNext⟩ ⟨right, rightNext⟩ rest other leftFits rightFits alike
  simp only [List.append_assoc] at alike
  rcases framed leftFits.1 rightFits.1 alike with ⟨same, alikeNext⟩
  rcases framedNext leftFits.2 rightFits.2 alikeNext with ⟨sameNext, sameRest⟩
  exact ⟨Prod.ext same sameNext, sameRest⟩

/-- Frames behind each other, where their number is known. -/
theorem flatMap (framed : FramedUpTo settle encode fit) :
    ∀ {lefts rights : List α} {rest other : List UInt8}, lefts.length = rights.length →
      (∀ left ∈ lefts, fit left) → (∀ right ∈ rights, fit right) →
      lefts.flatMap encode ++ rest = rights.flatMap encode ++ other →
      lefts.map settle = rights.map settle ∧ rest = other := by
  intro lefts
  induction lefts with
  | nil =>
    intro rights rest other lengths _ _ alike
    cases rights with
    | nil => exact ⟨rfl, alike⟩
    | cons => cases lengths
  | cons left lefts induction =>
    intro rights rest other lengths leftsFit rightsFit alike
    cases rights with
    | nil => cases lengths
    | cons right rights =>
      rcases List.forall_mem_cons.mp leftsFit with ⟨leftFits, leftsFit⟩
      rcases List.forall_mem_cons.mp rightsFit with ⟨rightFits, rightsFit⟩
      simp only [List.flatMap_cons, List.append_assoc] at alike
      rcases framed leftFits rightFits alike with ⟨same, alikeBehind⟩
      rcases induction (Nat.succ.inj lengths) leftsFit rightsFit alikeBehind with
        ⟨others, sameRest⟩
      exact ⟨by rw [List.map_cons, List.map_cons, same, others], sameRest⟩

end FramedUpTo

theorem littleEndian_framed (count : Nat) :
    FramedUpTo id (littleEndian count) (· < Nat.pow 256 count) := by
  apply FramedUpTo.of_length fun _ => length_littleEndian _ _
  intro left right leftFits rightFits same
  have numbers := congrArg ofLittleEndian same
  rwa [ofLittleEndian_littleEndian, ofLittleEndian_littleEndian, Nat.mod_eq_of_lt leftFits,
    Nat.mod_eq_of_lt rightFits] at numbers

end Wireform.Wire
