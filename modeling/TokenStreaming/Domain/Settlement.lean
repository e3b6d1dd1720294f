import TokenStreaming.Domain.Validation

/-!
# Marketplace domain - Settlement amounts

What a completed inference or artifact task costs the buyer, earns the supplier
and leaves to the platform.  Decimal texts of the source are the numbers they
denote; {lit}`BigInt` arithmetic is arithmetic on natural numbers.

Main results:

- Theorem {lit}`calculateSettlement_conserves`: the charge is the supplier's
  credit plus the platform's fee.
- Theorem {lit}`calculateSettlement_credit_pos`: an accepted quote credits the
  supplier with a positive amount.
-/

namespace TokenStreaming
namespace Domain

/-- {lit}`SettlementQuote`. -/
structure SettlementQuote where
  totalTokens : Nat
  priceMicrosPerMillionTokens : Nat
  platformFeeBps : Nat
deriving DecidableEq

/-- {lit}`SettlementAmounts`. -/
structure SettlementAmounts where
  buyerChargeMicros : Nat
  supplierCreditMicros : Nat
  platformFeeMicros : Nat
deriving DecidableEq

/-- {lit}`divideRoundingUp`. -/
def divideRoundingUp (numerator denominator : Nat) : Nat :=
  (numerator + denominator - 1) / denominator

/-- The amounts of a quote whose fields have been checked. -/
def SettlementQuote.amounts (quote : SettlementQuote) : SettlementAmounts :=
  let buyerCharge :=
    divideRoundingUp (quote.totalTokens * quote.priceMicrosPerMillionTokens) 1000000
  let platformFee := buyerCharge * quote.platformFeeBps / 10000
  { buyerChargeMicros := buyerCharge
    supplierCreditMicros := buyerCharge - platformFee
    platformFeeMicros := platformFee }

def calculateSettlement (quote : SettlementQuote) : Checked SettlementAmounts := do
  ensure (0 < quote.totalTokens && quote.totalTokens ≤ maxSafeInteger)
    { code := .invalidArgument, message := "totalTokens must be a positive safe integer." }
  ensure (decide (0 < quote.priceMicrosPerMillionTokens))
    { code := .invalidArgument
      message := "priceMicrosPerMillionTokens must be a positive decimal integer." }
  ensure (decide (quote.platformFeeBps ≤ 5000))
    { code := .invalidArgument
      message := "platformFeeBps must be an integer from 0 to 5000." }
  pure quote.amounts

def estimateMaximumChargeMicros (estimatedInputTokens maxOutputTokens
    priceMicrosPerMillionTokens : Nat) : Checked Nat := do
  ensure (decide (estimatedInputTokens ≤ maxSafeInteger))
    { code := .invalidArgument
      message := "estimatedInputTokens must be a non-negative safe integer." }
  ensure (0 < maxOutputTokens && maxOutputTokens ≤ maxSafeInteger)
    { code := .invalidArgument, message := "maxOutputTokens must be a positive safe integer." }
  let amounts ← calculateSettlement
    { totalTokens := max 1 (estimatedInputTokens + maxOutputTokens)
      priceMicrosPerMillionTokens := priceMicrosPerMillionTokens
      platformFeeBps := 0 }
  pure amounts.buyerChargeMicros

def estimateArtifactMaximumChargeMicros (maxTotalTokens priceMicrosPerMillionTokens : Nat) :
    Checked Nat := do
  ensure (0 < maxTotalTokens && maxTotalTokens ≤ 100000000)
    { code := .invalidArgument
      message := "maxTotalTokens must be an integer from 1 to 100000000." }
  let amounts ← calculateSettlement
    { totalTokens := maxTotalTokens
      priceMicrosPerMillionTokens := priceMicrosPerMillionTokens
      platformFeeBps := 0 }
  pure amounts.buyerChargeMicros

theorem calculateSettlement_eq_ok {quote : SettlementQuote} {amounts : SettlementAmounts} :
    calculateSettlement quote = .ok amounts ↔
      (0 < quote.totalTokens ∧ quote.totalTokens ≤ maxSafeInteger) ∧
        0 < quote.priceMicrosPerMillionTokens ∧ quote.platformFeeBps ≤ 5000 ∧
        quote.amounts = amounts := by
  simp only [calculateSettlement, Except.bind_eq_ok, ensure_eq_ok, exists_unit,
    Except.pure_eq_ok, Bool.and_eq_true, decide_eq_true_eq]

/-- The fee never exceeds half of the charge. -/
theorem SettlementQuote.fee_le {quote : SettlementQuote} (h : quote.platformFeeBps ≤ 5000) :
    2 * quote.amounts.platformFeeMicros ≤ quote.amounts.buyerChargeMicros := by
  simp only [SettlementQuote.amounts]
  generalize divideRoundingUp _ _ = charge
  have hmul : charge * quote.platformFeeBps ≤ charge * 5000 := Nat.mul_le_mul_left _ h
  omega

/-- Settlement conserves money: the buyer pays the supplier and the platform. -/
theorem calculateSettlement_conserves {quote : SettlementQuote} {amounts : SettlementAmounts}
    (h : calculateSettlement quote = .ok amounts) :
    amounts.buyerChargeMicros = amounts.supplierCreditMicros + amounts.platformFeeMicros := by
  obtain ⟨-, -, hbps, rfl⟩ := calculateSettlement_eq_ok.mp h
  have hfee := SettlementQuote.fee_le hbps
  simp only [SettlementQuote.amounts] at *
  omega

/-- An accepted quote charges at least one micro. -/
theorem calculateSettlement_charge_pos {quote : SettlementQuote} {amounts : SettlementAmounts}
    (h : calculateSettlement quote = .ok amounts) : 0 < amounts.buyerChargeMicros := by
  obtain ⟨⟨htokens, -⟩, hprice, -, rfl⟩ := calculateSettlement_eq_ok.mp h
  have hmul : 0 < quote.totalTokens * quote.priceMicrosPerMillionTokens :=
    Nat.mul_pos htokens hprice
  simp only [SettlementQuote.amounts, divideRoundingUp]
  omega

/-- An accepted quote credits the supplier. -/
theorem calculateSettlement_credit_pos {quote : SettlementQuote} {amounts : SettlementAmounts}
    (h : calculateSettlement quote = .ok amounts) : 0 < amounts.supplierCreditMicros := by
  have hcharge := calculateSettlement_charge_pos h
  have hsum := calculateSettlement_conserves h
  obtain ⟨-, -, hbps, rfl⟩ := calculateSettlement_eq_ok.mp h
  have hfee := SettlementQuote.fee_le hbps
  omega

end Domain
end TokenStreaming
