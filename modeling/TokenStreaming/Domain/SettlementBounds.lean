import Mathlib.Algebra.Order.Floor.Semiring
import Mathlib.Data.Rat.Floor
import TokenStreaming.Domain.Settlement

/-!
# Marketplace domain - Exact charges and their reservations

The charge of a settlement is the exact price of its tokens, rounded up to a whole
micro.  Rounding up is monotone, so a settlement for no more tokens than were
reserved, at the same price, charges no more than the reservation.

Main results:

- Theorem {lit}`calculateSettlement_charge_eq_ceil`: the charge as a ceiling.
- Theorem {lit}`calculateSettlement_charge_mono`: more tokens or a higher price never
  cost less.
- Theorems {lit}`charge_le_estimate` and {lit}`charge_le_artifactEstimate`: settlements
  within the bounds of a reservation.
-/

namespace TokenStreaming
namespace Domain

/-! ## Rounding up -/

/-- The quotient rounded up is the least one that covers the numerator. -/
theorem divideRoundingUp_le_iff {numerator denominator c : Nat} (h : 0 < denominator) :
    divideRoundingUp numerator denominator ≤ c ↔ numerator ≤ c * denominator := by
  unfold divideRoundingUp
  rw [← Nat.lt_succ_iff, Nat.div_lt_iff_lt_mul h, Nat.succ_mul]
  omega

theorem divideRoundingUp_mono {a b denominator : Nat} (h : a ≤ b) :
    divideRoundingUp a denominator ≤ divideRoundingUp b denominator := by
  unfold divideRoundingUp
  exact Nat.div_le_div_right (by omega)

theorem divideRoundingUp_eq_ceil {numerator denominator : Nat} (h : 0 < denominator) :
    divideRoundingUp numerator denominator = ⌈(numerator : ℚ) / denominator⌉₊ := by
  refine eq_of_forall_ge_iff fun c => ?_
  have hpos : (0 : ℚ) < denominator := by exact_mod_cast h
  rw [divideRoundingUp_le_iff h, Nat.ceil_le, div_le_iff₀ hpos]
  exact_mod_cast Iff.rfl

/-! ## Charges -/

/-- The charge is the exact price of the tokens, rounded up. -/
theorem calculateSettlement_charge_eq_ceil {quote : SettlementQuote}
    {amounts : SettlementAmounts} (h : calculateSettlement quote = .ok amounts) :
    amounts.buyerChargeMicros =
      ⌈((quote.totalTokens * quote.priceMicrosPerMillionTokens : Nat) : ℚ) / 10 ^ 6⌉₊ := by
  obtain ⟨-, -, -, rfl⟩ := calculateSettlement_eq_ok.mp h
  have hpos : 0 < 1000000 := by omega
  rw [SettlementQuote.amounts, divideRoundingUp_eq_ceil hpos]
  norm_num

/-- More tokens or a higher price never cost less, whatever the fees. -/
theorem SettlementQuote.charge_mono {a b : SettlementQuote}
    (htokens : a.totalTokens ≤ b.totalTokens)
    (hprice : a.priceMicrosPerMillionTokens ≤ b.priceMicrosPerMillionTokens) :
    a.amounts.buyerChargeMicros ≤ b.amounts.buyerChargeMicros :=
  divideRoundingUp_mono (Nat.mul_le_mul htokens hprice)

theorem calculateSettlement_charge_mono {a b : SettlementQuote} {x y : SettlementAmounts}
    (ha : calculateSettlement a = .ok x) (hb : calculateSettlement b = .ok y)
    (htokens : a.totalTokens ≤ b.totalTokens)
    (hprice : a.priceMicrosPerMillionTokens ≤ b.priceMicrosPerMillionTokens) :
    x.buyerChargeMicros ≤ y.buyerChargeMicros := by
  obtain ⟨-, -, -, rfl⟩ := calculateSettlement_eq_ok.mp ha
  obtain ⟨-, -, -, rfl⟩ := calculateSettlement_eq_ok.mp hb
  exact SettlementQuote.charge_mono htokens hprice

/-- A charge stays below a bound on the exact price. -/
theorem SettlementQuote.charge_le {quote : SettlementQuote} {bound : Nat}
    (h : quote.totalTokens * quote.priceMicrosPerMillionTokens ≤ bound * 1000000) :
    quote.amounts.buyerChargeMicros ≤ bound :=
  (divideRoundingUp_le_iff (by omega)).mpr h

/-! ## Reservations -/

theorem estimateMaximumChargeMicros_eq_ok
    {estimatedInputTokens maxOutputTokens price charge : Nat}
    (h : estimateMaximumChargeMicros estimatedInputTokens maxOutputTokens price = .ok charge) :
    ∃ amounts, calculateSettlement
        { totalTokens := max 1 (estimatedInputTokens + maxOutputTokens)
          priceMicrosPerMillionTokens := price
          platformFeeBps := 0 } = .ok amounts ∧ charge = amounts.buyerChargeMicros := by
  simp only [estimateMaximumChargeMicros, Except.bind_eq_ok, ensure_eq_ok, exists_unit,
    Except.pure_eq_ok] at h
  obtain ⟨-, -, amounts, hamounts, hcharge⟩ := h
  exact ⟨amounts, hamounts, hcharge.symm⟩

theorem estimateArtifactMaximumChargeMicros_eq_ok {maxTotalTokens price charge : Nat}
    (h : estimateArtifactMaximumChargeMicros maxTotalTokens price = .ok charge) :
    maxTotalTokens ≤ 100000000 ∧ ∃ amounts, calculateSettlement
        { totalTokens := maxTotalTokens
          priceMicrosPerMillionTokens := price
          platformFeeBps := 0 } = .ok amounts ∧ charge = amounts.buyerChargeMicros := by
  simp only [estimateArtifactMaximumChargeMicros, Except.bind_eq_ok, ensure_eq_ok, exists_unit,
    Except.pure_eq_ok, Bool.and_eq_true, decide_eq_true_eq] at h
  obtain ⟨⟨-, hmax⟩, amounts, hamounts, hcharge⟩ := h
  exact ⟨hmax, amounts, hamounts, hcharge.symm⟩

/-- A settlement of an inference within its estimate costs no more than was reserved. -/
theorem charge_le_estimate {quote : SettlementQuote} {amounts : SettlementAmounts}
    {estimatedInputTokens maxOutputTokens charge : Nat}
    (hestimate : estimateMaximumChargeMicros estimatedInputTokens maxOutputTokens
      quote.priceMicrosPerMillionTokens = .ok charge)
    (hsettled : calculateSettlement quote = .ok amounts)
    (htokens : quote.totalTokens ≤ estimatedInputTokens + maxOutputTokens) :
    amounts.buyerChargeMicros ≤ charge := by
  obtain ⟨reserved, hreserved, rfl⟩ := estimateMaximumChargeMicros_eq_ok hestimate
  refine calculateSettlement_charge_mono hsettled hreserved ?_ (Nat.le_refl _)
  exact htokens.trans (Nat.le_max_right _ _)

/-- A settlement of an artifact task within its total costs no more than was reserved. -/
theorem charge_le_artifactEstimate {quote : SettlementQuote} {amounts : SettlementAmounts}
    {maxTotalTokens charge : Nat}
    (hestimate : estimateArtifactMaximumChargeMicros maxTotalTokens
      quote.priceMicrosPerMillionTokens = .ok charge)
    (hsettled : calculateSettlement quote = .ok amounts)
    (htokens : quote.totalTokens ≤ maxTotalTokens) : amounts.buyerChargeMicros ≤ charge := by
  obtain ⟨-, reserved, hreserved, rfl⟩ := estimateArtifactMaximumChargeMicros_eq_ok hestimate
  exact calculateSettlement_charge_mono hsettled hreserved htokens (Nat.le_refl _)

/-- A reservation at a bounded price for boundedly many tokens is bounded. -/
theorem estimateMaximumChargeMicros_le
    {estimatedInputTokens maxOutputTokens price charge bound : Nat}
    (h : estimateMaximumChargeMicros estimatedInputTokens maxOutputTokens price = .ok charge)
    (hbound : max 1 (estimatedInputTokens + maxOutputTokens) * price ≤ bound * 1000000) :
    charge ≤ bound := by
  obtain ⟨amounts, hamounts, rfl⟩ := estimateMaximumChargeMicros_eq_ok h
  obtain ⟨-, -, -, rfl⟩ := calculateSettlement_eq_ok.mp hamounts
  exact SettlementQuote.charge_le hbound

theorem estimateArtifactMaximumChargeMicros_le {maxTotalTokens price charge bound : Nat}
    (h : estimateArtifactMaximumChargeMicros maxTotalTokens price = .ok charge)
    (hbound : maxTotalTokens * price ≤ bound * 1000000) : charge ≤ bound := by
  obtain ⟨-, amounts, hamounts, rfl⟩ := estimateArtifactMaximumChargeMicros_eq_ok h
  obtain ⟨-, -, -, rfl⟩ := calculateSettlement_eq_ok.mp hamounts
  exact SettlementQuote.charge_le hbound

end Domain
end TokenStreaming
