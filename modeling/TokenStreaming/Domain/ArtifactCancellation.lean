import TokenStreaming.Domain.Validation

/-!
# Marketplace domain - Artifact task cancellation

The provider-neutral contract of the two-phase cancellation: queued work is
cancelled at once, leased work keeps its persisted status and its reservation
until the lease holder observes the request or the lease expires.

Main results:

- Theorem {lit}`decideArtifactTaskCancellation_releases_iff`: the decision
  releases the reservation exactly when it persists the cancelled status.
- Theorem {lit}`decideArtifactTaskCancellation_keeps_leased`: a leased task
  keeps its persisted status.
-/

namespace TokenStreaming
namespace Domain

/-- {lit}`PersistedArtifactTaskStatus`. -/
inductive ArtifactTaskStatus where
  | queued
  | claimed
  | running
  | completed
  | failed
  | cancelled
deriving DecidableEq

def ArtifactTaskStatus.text : ArtifactTaskStatus → String
  | .queued => "queued"
  | .claimed => "claimed"
  | .running => "running"
  | .completed => "completed"
  | .failed => "failed"
  | .cancelled => "cancelled"

/-- A worker holds the task. -/
def ArtifactTaskStatus.isLeased (status : ArtifactTaskStatus) : Bool :=
  status == .claimed || status == .running

/-- The task is over. -/
def ArtifactTaskStatus.isTerminal (status : ArtifactTaskStatus) : Bool :=
  status == .completed || status == .failed || status == .cancelled

/-- The task's reservation counts against its buyer. -/
def ArtifactTaskStatus.holdsReservation (status : ArtifactTaskStatus) : Bool :=
  status == .queued || status == .claimed || status == .running

/-- {lit}`MarketplacePrivacyMode`. -/
inductive MarketplacePrivacyMode where
  | standard
  | strict
deriving DecidableEq

/-- The public status adds {lit}`cancelling` to the persisted ones. -/
inductive PublicArtifactTaskStatus where
  | cancelling
  | persisted (status : ArtifactTaskStatus)
deriving DecidableEq

/-- {lit}`artifactRetention` of a cancellation. -/
inductive ArtifactRetention where
  | retained
  | purgeScheduled
deriving DecidableEq

/-- {lit}`ArtifactTaskCancellationDecision`. -/
structure ArtifactTaskCancellationDecision where
  publicStatus : PublicArtifactTaskStatus
  persistedStatus : ArtifactTaskStatus
  releaseReservation : Bool
  artifactRetention : ArtifactRetention
deriving DecidableEq

def projectArtifactTaskStatus (status : ArtifactTaskStatus) (cancellationRequested : Bool) :
    PublicArtifactTaskStatus :=
  if cancellationRequested && (status == .claimed || status == .running) then .cancelling
  else .persisted status

def decideArtifactTaskCancellation (status : ArtifactTaskStatus)
    (privacyMode : MarketplacePrivacyMode) : Checked ArtifactTaskCancellationDecision :=
  let artifactRetention : ArtifactRetention :=
    if privacyMode = .strict then .purgeScheduled else .retained
  match status with
  | .queued => .ok
      { publicStatus := .persisted .cancelled
        persistedStatus := .cancelled
        releaseReservation := true
        artifactRetention }
  | .claimed | .running => .ok
      { publicStatus := .cancelling
        persistedStatus := status
        releaseReservation := false
        artifactRetention }
  | .cancelled => .ok
      { publicStatus := .persisted .cancelled
        persistedStatus := .cancelled
        releaseReservation := true
        artifactRetention }
  | .completed | .failed => .error
      { code := .invalidArtifactTaskState
        message := "A terminal artifact task cannot be cancelled."
        details := [("status", .text status.text)] }

/-- The reservation is released exactly by the cancelled status. -/
theorem decideArtifactTaskCancellation_releases_iff {status : ArtifactTaskStatus}
    {privacyMode : MarketplacePrivacyMode} {decision : ArtifactTaskCancellationDecision}
    (h : decideArtifactTaskCancellation status privacyMode = .ok decision) :
    decision.releaseReservation = true ↔ decision.persistedStatus.holdsReservation = false := by
  cases status <;> simp only [decideArtifactTaskCancellation, Except.ok.injEq, reduceCtorEq] at h
    <;> subst h <;> simp [ArtifactTaskStatus.holdsReservation]

/-- Leased work keeps its persisted status. -/
theorem decideArtifactTaskCancellation_keeps_leased {status : ArtifactTaskStatus}
    {privacyMode : MarketplacePrivacyMode} {decision : ArtifactTaskCancellationDecision}
    (h : decideArtifactTaskCancellation status privacyMode = .ok decision)
    (hleased : status.isLeased = true) :
    decision.persistedStatus = status ∧ decision.releaseReservation = false := by
  cases status <;> simp only [decideArtifactTaskCancellation, Except.ok.injEq, reduceCtorEq] at h
  case claimed => subst h; exact ⟨rfl, rfl⟩
  case running => subst h; exact ⟨rfl, rfl⟩
  all_goals simp [ArtifactTaskStatus.isLeased] at hleased

end Domain
end TokenStreaming
