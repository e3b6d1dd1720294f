import TokenStreaming.Server.Runs

/-!
# Control plane - Stored expiry

{lit}`submitAuthorizationRequest` stores the text of {lit}`validUntil` as it was sent, and the
statements compare that text with the rendered time as strings.  This module says for which
accepted texts the comparison is the one of the instants.

Main results:

- Theorem {lit}`comparesAsTime_iff`: when the comparison agrees with the instants.
- Theorem {lit}`secondsText_not_standsAtInstant`: texts without milliseconds are compared wrongly.
- Theorem {lit}`stored_expiry_compares_as_time_iff`: the accepted and the stored texts.
-/

namespace TokenStreaming
namespace Server

open Relational TransitionSystem Domain IsoInstant

/-! ## Comparisons with rendered instants -/

/-- {lit}`valid_until > now` says of every time whether the instant is still to come. -/
def ComparesAsTime (value : TimestampText) (t : Nat) : Prop :=
  ∀ now, FourDigitYear now → (toISOString now < value.text ↔ now < t)

/-- The text lies behind the texts of earlier instants and not behind the one of its own. -/
structure StandsAtInstant (value : TimestampText) (t : Nat) : Prop where
  afterEarlier : toISOString (t - 1) < value.text
  notAfter : value.text ≤ toISOString t

theorem comparesAsTime_iff {value : TimestampText} {t : Nat} (hpos : 0 < t)
    (hyear : FourDigitYear t) : ComparesAsTime value t ↔ StandsAtInstant value t := by
  constructor
  · intro h
    constructor
    · have hbefore := h (t - 1) (hyear.of_le (Nat.sub_le t 1))
      exact hbefore.mpr (by omega)
    · have hat := h t hyear
      exact not_lt.mp fun hlt => Nat.lt_irrefl t (hat.mp hlt)
  · intro h now hnow
    constructor
    · intro hlt
      by_contra hle
      have hrendered : toISOString t ≤ toISOString now := toISOString_le (by omega) hnow
      exact absurd hlt (not_lt.mpr (h.notAfter.trans hrendered))
    · intro hlt
      have hrendered : toISOString now ≤ toISOString (t - 1) :=
        toISOString_le (by omega) (hyear.of_le (Nat.sub_le t 1))
      exact lt_of_le_of_lt hrendered h.afterEarlier

/-- The canonical text of an instant stands there. -/
theorem standsAtInstant_ofInstant {t : Nat} (hpos : 0 < t) (hyear : FourDigitYear t) :
    StandsAtInstant (TimestampText.ofInstant t) t where
  afterEarlier := toISOString_lt (by omega) hyear
  notAfter := le_rfl

/-- The text {lit}`YYYY-MM-DDTHH:MM:SSZ`, which leaves the milliseconds out. -/
def secondsText (t : Nat) : TimestampText where
  text := String.ofList (dateChars (civilDate (t / dayMs)) ++
    ('T' :: (padded 2 (t % dayMs / 3600000) ++ ':' :: (padded 2 (t % dayMs / 60000 % 60) ++
      ':' :: (padded 2 (t % dayMs / 1000 % 60) ++ ['Z'])))))
  instant := some (t : Int)

/-- Such a text lies behind the rendered text of its own instant: a point precedes a Z. -/
theorem secondsText_not_standsAtInstant (t : Nat) : ¬ StandsAtInstant (secondsText t) t := by
  intro h
  refine absurd h.notAfter (not_le.mpr ?_)
  have hcons : ∀ {c : Char} {a b : List Char}, a < b → c :: a < c :: b := fun hab =>
    List.cons_lt_cons_iff.mpr (Or.inr ⟨rfl, hab⟩)
  have hchars : isoChars t < (secondsText t).text.toList := by
    simp only [secondsText, String.toList_ofList, isoChars, timeChars]
    refine append_left_lt _ (hcons (append_left_lt _ (hcons (append_left_lt _ (hcons
      (append_left_lt _ ?_))))))
    exact List.cons_lt_cons_iff.mpr (Or.inl (by decide))
  change (String.ofList (isoChars t)).toList < (secondsText t).text.toList
  rw [String.toList_ofList]
  exact hchars

/-! ## Stored requests -/

/-- The columns of the terms that the submission fixed. -/
theorem CreateAuthorizationRequest.Describes.of_terms {input : CreateAuthorizationRequest}
    {a b : AuthorizationRow} (h : input.Describes a) (hterms : b.terms = a.terms) :
    input.Describes b where
  providerId := (congrArg RequestTerms.providerId hterms).trans h.providerId
  sourceType := (congrArg RequestTerms.sourceType hterms).trans h.sourceType
  meteringMode := (congrArg RequestTerms.meteringMode hterms).trans h.meteringMode
  evidenceRef := (congrArg RequestTerms.evidenceRef hterms).trans h.evidenceRef
  modelPattern := (congrArg RequestTerms.modelPattern hterms).trans h.modelPattern
  regionCode := (congrArg RequestTerms.regionCode hterms).trans h.regionCode
  dataClasses := (congrArg RequestTerms.dataClasses hterms).trans h.dataClasses
  limits := (congrArg RequestTerms.limits hterms).trans h.limits
  validUntil := (congrArg RequestTerms.validUntil hterms).trans h.validUntil

/-- The row comes from an accepted request. -/
def AuthorizationRow.IsAccepted (r : AuthorizationRow) : Prop :=
  ∃ input now, validateAuthorizationInput input now = .ok () ∧ input.Describes r

/-- Every stored request was accepted by the intake and still carries what was sent. -/
theorem Reachable.requestsAccepted {w : World} (h : Reachable w) :
    ∀ snap ∈ w.snapshots, ∀ r ∈ snap.rows .authorizationRequests, r.IsAccepted := by
  refine h.snapshots
    (P := fun db => ∀ r ∈ db.rows .authorizationRequests, r.IsAccepted) ?_ ?_ ?_
  · intro clock r hr
    simp [MarketplaceDb.empty] at hr
  · intro db instant hdb
    exact hdb
  · intro w call batch db _ hold hsent hrun _
    refine runBatch_induction (P := fun db : MarketplaceDb =>
      ∀ r ∈ db.rows .authorizationRequests, r.IsAccepted) hrun (hold w.db w.db_mem) fun s hs a b ha hb r hr => ?_
    have hevolves := (hsent.issued s hs).requests_respect a b hb
    rcases hevolves.of_mem_new hr with ⟨old, holdMem, hmove⟩ | hsubmitted
    · obtain ⟨input, now, hinput, hdescribes⟩ := ha old holdMem
      exact ⟨input, now, hinput, hdescribes.of_terms hmove.terms⟩
    · exact hsubmitted.accepted

/--
For every accepted text, the comparison {lit}`valid_until > now` of the statements says of
every time whether the instant is still to come exactly when the text lies behind the rendered
texts of earlier instants and not behind the one of its own.  Stored requests carry accepted
texts as they were sent.
-/
theorem stored_expiry_compares_as_time_iff (clock : Nat) (deployment : Deployment)
    (calls : List Call) :
    (∀ input accepted, validateAuthorizationInput input accepted = .ok () →
      ∃ t : Nat, input.validUntil.instant = some (t : Int) ∧
        ∀ r : AuthorizationRow, r.validUntil = input.validUntil → FourDigitYear t →
          ((∀ now, FourDigitYear now → (r.isValidAfter now = true ↔ now < t)) ↔
            StandsAtInstant input.validUntil t)) ∧
      ∀ n, ∀ r ∈ (World.along clock deployment calls n).db.rows .authorizationRequests,
        ∃ input accepted, validateAuthorizationInput input accepted = .ok () ∧
          r.validUntil = input.validUntil := by
  constructor
  · intro input accepted haccepted
    obtain ⟨-, t, hinstant, hlower, -⟩ := isAuthorizationValidityAllowed_eq_true
      (validateAuthorizationInput_eq_ok haccepted).validUntil
    refine ⟨t, hinstant, fun r hr hyear => ?_⟩
    rw [← comparesAsTime_iff (by omega) hyear]
    simp only [AuthorizationRow.isValidAfter, hr, decide_eq_true_eq, ComparesAsTime]
  · intro n r hr
    obtain ⟨input, accepted, haccepted, hdescribes⟩ :=
      (World.along_reachable n).requestsAccepted _ (World.db_mem _) r hr
    exact ⟨input, accepted, haccepted, hdescribes.validUntil⟩

/-- The sample submission carries a canonical text, which compares as its instant. -/
theorem stored_expiry_compares_as_time_iff_sample :
    ∀ r : AuthorizationRow, r.validUntil = TimestampText.ofInstant 86400000 →
      ∀ now, FourDigitYear now → (r.isValidAfter now = true ↔ now < 86400000) := by
  have haccepted : validateAuthorizationInput (sampleSubmission "submit-1" sampleToken) 1000 =
      .ok () := by
    decide +kernel
  obtain ⟨t, hinstant, hiff⟩ :=
    (stored_expiry_compares_as_time_iff 1000 sampleDeployment sampleCalls).1 _ _ haccepted
  have ht : t = 86400000 := Int.ofNat_inj.mp (Option.some.inj hinstant).symm
  subst ht
  intro r hr
  have hyear : FourDigitYear 86400000 := fourDigitYear_of_lt (by omega)
  exact (hiff r hr hyear).mpr (standsAtInstant_ofInstant (by omega) hyear)

/-- The sample submission with a validity text that leaves the milliseconds out. -/
def secondsSubmission : CreateAuthorizationRequest :=
  { sampleSubmission "submit-1" sampleToken with
    validUntil := { text := "1970-01-02T00:00:00Z", instant := some 86400000 } }

/-- It is accepted, and half a second after its instant the comparison takes it for valid. -/
theorem secondsSubmission_outlives_instant :
    validateAuthorizationInput secondsSubmission 1000 = .ok () ∧
      secondsSubmission.validUntil.instant = some 86400000 ∧
      ∀ r : AuthorizationRow, r.validUntil = secondsSubmission.validUntil →
        r.isValidAfter 86400500 = true := by
  have hfacts : validateAuthorizationInput secondsSubmission 1000 = .ok () ∧
      toISOString 86400500 < secondsSubmission.validUntil.text := by
    decide +kernel
  refine ⟨hfacts.1, rfl, fun r hr => ?_⟩
  rw [AuthorizationRow.isValidAfter, hr]
  exact decide_eq_true hfacts.2

end Server
end TokenStreaming
