import Focsq.Backend.WorkerLoop
import Focsq.Verif.CredentialLeases

/-!
# Steps of the workers of one credential

A step of a worker gets a lease, tells that an allocation is begun, gives the lease back, keeps it
or loses it, takes the credential out, or does none of these. And every worker waits for a while
before its next session, and not for long.
-/

namespace Focsq.Worker

open Endpoint (TurnTransportMode)

section Touches

/-- The credential in use keeps its leases, or it is taken out. -/
structure CredentialCache.Touches (cache after : CredentialCache) : Prop where
  /-- No credential is stored. -/
  generation : after.nextGeneration = cache.nextGeneration
  /-- The credential in use was in use. -/
  kept : ∀ cached ∈ after.current, ∃ old ∈ cache.current,
    cached.lease = old.lease ∧ cached.allocationAttempts = old.allocationAttempts

variable (cache : CredentialCache)

/-- The cache may stay as it is. -/
theorem CredentialCache.touches_self : cache.Touches cache :=
  ⟨rfl, fun cached member => ⟨cached, member, rfl, rfl⟩⟩

/-- A successful allocation. -/
theorem CredentialCache.touches_recordAllocation (lease : CredentialLease) :
    cache.Touches (cache.recordAllocation lease) := by
  unfold CredentialCache.recordAllocation
  cases current : cache.current with
  | none => exact cache.touches_self
  | some cached =>
    dsimp only
    split
    · exact ⟨rfl, fun other member => by
        cases member
        exact ⟨cached, current, rfl, rfl⟩⟩
    · exact cache.touches_self

/-- What a call does: the credential of the lease is taken out, or it is not. -/
inductive LeaseCall.Does (cache : CredentialCache) (lease : CredentialLease) (delay draw : Nat) :
    CredentialCache × Nat × Bool → Prop where
  /-- It is not. -/
  | touch (after : CredentialCache) (next : Nat) (touches : cache.Touches after)
      (paced : next = delay ∨ 50 ≤ next ∧ next ≤ 1500) :
      Does cache lease delay draw (after, next, false)
  /-- It is. -/
  | retire (after : CredentialCache) (next : Nat) (cached : CachedCredentials)
      (here : cache.current = some cached) (same : lease = cached.lease)
      (touches : cache.Touches after) (empty : after.current = none)
      (paced : next = delay ∨ 50 ≤ next ∧ next ≤ 1500) :
      Does cache lease delay draw (after, next, true)

/-- Pauses after a used-up quota. -/
theorem quotaRotationDelay_bounds (attempt : Nat) :
    100 ≤ quotaRotationDelay attempt ∧ quotaRotationDelay attempt ≤ 1500 := by
  unfold quotaRotationDelay
  split <;> decide

/-- A credential that has another lease is not the one of this lease. -/
theorem leasedBy_cases (cached : CachedCredentials) (lease : CredentialLease) :
    cached.leasedBy lease = true ∧ lease = cached.lease ∨ cached.leasedBy lease = false := by
  cases leased : cached.leasedBy lease with
  | false => exact .inr rfl
  | true => exact .inl ⟨rfl, (leasedBy_iff cached lease).mp leased⟩

/-- A lease of another credential does nothing. -/
theorem LeaseCall.perform_other (call : LeaseCall) (lease : CredentialLease) (delay draw : Nat)
    (other : ∀ cached ∈ cache.current, cached.leasedBy lease = false) :
    LeaseCall.Does cache lease delay draw (call.perform cache lease delay draw) := by
  have current := Option.eq_none_or_eq_some cache.current
  cases call with
  | invalidate =>
    have kept : cache.invalidate lease = (false, cache) := by
      refine if_neg fun any => ?_
      obtain ⟨cached, member, leased⟩ := (Option.any_eq_true _ _).mp any
      rw [other cached member] at leased
      cases leased
    unfold LeaseCall.perform
    rw [kept]
    exact .touch cache delay cache.touches_self (.inl rfl)
  | rotateAfterQuota =>
    have kept : cache.rotateAfterQuota lease = (.replaced, cache) := by
      unfold CredentialCache.rotateAfterQuota
      rcases current with none | ⟨cached, some⟩
      · rw [none]
      · rw [some]
        exact if_neg (Bool.eq_false_iff.mp (other cached some))
    unfold LeaseCall.perform
    rw [kept]
    exact .touch cache _ cache.touches_self (.inr (by omega))
  | retryAfterMismatch =>
    have kept : cache.retryAfterMismatch lease = (.replaced, cache) := by
      unfold CredentialCache.retryAfterMismatch
      rcases current with none | ⟨cached, some⟩
      · rw [none]
      · rw [some]
        exact if_neg (Bool.eq_false_iff.mp (other cached some))
    unfold LeaseCall.perform
    rw [kept]
    exact .touch cache _ cache.touches_self (.inr (by omega))

/-- Every call does one of these. -/
theorem LeaseCall.perform_does (call : LeaseCall) (lease : CredentialLease) (delay draw : Nat) :
    LeaseCall.Does cache lease delay draw (call.perform cache lease delay draw) := by
  rcases Option.eq_none_or_eq_some cache.current with none | ⟨cached, here⟩
  · exact call.perform_other cache lease delay draw fun cached member => by
      rw [none] at member
      cases member
  rcases leasedBy_cases cached lease with ⟨leased, same⟩ | stale
  · have gone (after : CredentialCache) (empty : after.current = .none)
        (generation : after.nextGeneration = cache.nextGeneration) : cache.Touches after :=
      ⟨generation, fun cached member => by
        rw [empty] at member
        cases member⟩
    cases call with
    | invalidate =>
      have done : cache.invalidate lease = (true, { cache with current := .none }) :=
        if_pos ((Option.any_eq_true _ _).mpr ⟨cached, here, leased⟩)
      unfold LeaseCall.perform
      rw [done]
      exact .retire _ delay cached here same (gone _ rfl rfl) rfl (.inl rfl)
    | rotateAfterQuota =>
      have bounds := quotaRotationDelay_bounds cache.quotaRetries
      have done : cache.rotateAfterQuota lease = (.rotated (quotaRotationDelay cache.quotaRetries),
          { cache with
            current := .none
            quotaBlocked := some cached.value
            quotaRetries := saturatingSucc cache.quotaRetries }) := by
        unfold CredentialCache.rotateAfterQuota
        rw [here]
        exact if_pos leased
      unfold LeaseCall.perform
      rw [done]
      exact .retire _ _ cached here same (gone _ rfl rfl) rfl (.inr (by omega))
    | retryAfterMismatch =>
      unfold LeaseCall.perform CredentialCache.retryAfterMismatch
      rw [here]
      dsimp only
      rw [if_pos leased]
      by_cases first : cached.allocationMismatches = 0
      · rw [if_pos first]
        exact .touch _ _ ⟨rfl, fun other member => by
          cases member
          exact ⟨cached, here, rfl, rfl⟩⟩ (.inr (by omega))
      · rw [if_neg first]
        exact .retire _ _ cached here same (gone _ rfl rfl) rfl (.inr (by omega))
  · exact call.perform_other cache lease delay draw fun other member => by
      rw [here] at member
      cases member
      exact stale

end Touches

section Turns

/-- An event that is about no lease. -/
def WorkerEvent.Silent : WorkerEvent → Prop
  | .networkRecovered | .networkTimeout | .pauses _ => True
  | .got _ _ | .began _ | .released _ _ | .kept _ _ | .lost _ _ | .retired _ => False

/-- What a step can do with the lease and the credential. -/
inductive WorkerPlace.Turns (cache : CredentialCache) (place : WorkerPlace) :
    CredentialCache × WorkerPlace × Option WorkerEvent → Prop where
  /-- The worker keeps what it holds. -/
  | quiet (after : CredentialCache) (moved : WorkerPlace) (event : Option WorkerEvent)
      (touches : cache.Touches after) (same : moved.lease = place.lease)
      (silent : ∀ seen ∈ event, seen.Silent) : Turns cache place (after, moved, event)
  /-- It asks for a lease. -/
  | ask (fetched : Option TurnCredentials) (waited : Bool) (moved : WorkerPlace)
      (free : place.lease = none)
      (held : moved.lease = (cache.get fetched waited).1.map (·, false)) :
      Turns cache place
        ((cache.get fetched waited).2, moved, some (.got fetched (cache.get fetched waited).1))
  /-- The session begins an allocation. -/
  | begin (lease : CredentialLease) (moved : WorkerPlace) (held : place.lease = some (lease, false))
      (after : moved.lease = some (lease, true)) :
      Turns cache place (cache, moved, some (.began lease))
  /-- The lease is given back. -/
  | release (lease : CredentialLease) (tried : Bool) (moved : WorkerPlace)
      (held : place.lease = some (lease, tried)) (free : moved.lease = none) :
      Turns cache place (cache.release lease, moved, some (.released lease tried))
  /-- It is used up. -/
  | spend (lease : CredentialLease) (tried : Bool) (moved : WorkerPlace) (event : WorkerEvent)
      (held : place.lease = some (lease, tried)) (free : moved.lease = none)
      (used : event = .kept lease tried ∨ event = .lost lease tried) :
      Turns cache place (cache, moved, some event)
  /-- The credential is taken out. -/
  | retire (lease : CredentialLease) (after : CredentialCache) (cached : CachedCredentials)
      (moved : WorkerPlace) (here : cache.current = some cached) (same : lease = cached.lease)
      (touches : cache.Touches after) (empty : after.current = none) (free : place.lease = none)
      (idle : moved.lease = none) : Turns cache place (after, moved, some (.retired lease))

variable (transport : TurnTransportMode) (cache : CredentialCache)

/-- A step that leaves the cache. -/
theorem WorkerPlace.Turns.stay {place : WorkerPlace} (moved : WorkerPlace)
    (same : moved.lease = place.lease) : place.Turns cache (cache, moved, none) :=
  .quiet cache moved none cache.touches_self same (fun _ member => by cases member)

/-- Panics. -/
theorem WorkerPlace.turns_panics (place : WorkerPlace) (cancelled : Bool) :
    place.Turns cache (cache, if cancelled then .returned else .restarting,
      place.lease.map fun held => .lost held.1 held.2) := by
  have idle : (if cancelled then WorkerPlace.returned else .restarting).lease = none := by
    cases cancelled <;> rfl
  cases held : place.lease with
  | none => exact .stay cache _ (idle.trans held.symm)
  | some lease => exact .spend lease.1 lease.2 _ _ held idle (.inr rfl)

/-- Every step does one of these. -/
theorem WorkerPlace.next_turns (place : WorkerPlace) (input : Outside) :
    place.Turns cache (place.next transport cache input) := by
  have rest : place.Turns cache (cache, place, none) := .stay cache place rfl
  cases place with
  | waiting attempt =>
    cases input with
    | panics cancelled => exact turns_panics cache _ cancelled
    | going => exact .stay cache _ rfl
    | cancelled => exact .stay cache _ rfl
    | _ => exact rest
  | asking attempt =>
    cases input with
    | panics cancelled => exact turns_panics cache _ cancelled
    | asked unavailable fetched waited stopped =>
      have turn (moved : WorkerPlace)
          (held : moved.lease = (cache.get fetched waited).1.map (·, false)) :
          Turns cache (.asking attempt) ((cache.get fetched waited).2, moved,
            some (.got fetched (cache.get fetched waited).1)) :=
        .ask fetched waited moved rfl held
      unfold WorkerPlace.next
      dsimp only
      cases unavailable with
      | true => exact .stay cache _ rfl
      | false =>
        rw [if_neg Bool.false_ne_true]
        cases got : cache.get fetched waited with
        | mk lease after =>
          rw [got] at turn
          cases lease with
          | none =>
            refine turn _ ?_
            cases stopped <;> rfl
          | some lease => exact turn _ rfl
    | _ => exact rest
  | pacing attempt lease =>
    cases input with
    | panics cancelled => exact turns_panics cache _ cancelled
    | going => exact .stay cache _ rfl
    | cancelled => exact .stay cache _ rfl
    | _ => exact rest
  | resuming attempt lease =>
    cases input with
    | panics cancelled => exact turns_panics cache _ cancelled
    | going => exact .stay cache _ rfl
    | cancelled => exact .stay cache _ rfl
    | _ => exact rest
  | releasing lease =>
    cases input with
    | panics cancelled => exact turns_panics cache _ cancelled
    | going => exact .release lease false _ rfl rfl
    | _ => exact rest
  | running attempt lease session =>
    obtain ⟨channel, observed, started, allocated⟩ := session
    cases input with
    | panics cancelled => exact turns_panics cache _ cancelled
    | begins =>
      cases channel with
      | silent => exact .begin lease _ rfl rfl
      | sent => exact rest
      | closed => exact rest
    | closes =>
      cases channel with
      | silent => exact .stay cache _ rfl
      | sent => exact rest
      | closed => exact rest
    | observes =>
      cases observed with
      | true => exact rest
      | false =>
        cases channel with
        | silent => exact rest
        | sent => exact .stay cache _ rfl
        | closed => exact .stay cache _ rfl
    | allocated ready =>
      cases allocated with
      | true => exact rest
      | false =>
        cases ready with
        | true => exact .stay cache _ rfl
        | false => exact .stay cache _ rfl
    | ends result => exact .stay cache _ rfl
    | _ => exact rest
  | recording attempt lease session =>
    cases input with
    | panics cancelled => exact turns_panics cache _ cancelled
    | going =>
      exact .quiet _ _ _ (cache.touches_recordAllocation lease) rfl fun seen member => by
        cases member
        trivial
    | _ => exact rest
  | ended attempt lease session result =>
    cases input with
    | panics cancelled => exact turns_panics cache _ cancelled
    | going =>
      unfold WorkerPlace.next
      dsimp only
      by_cases started : session.started = true
      · rw [if_pos started]
        exact .spend lease session.tried _ _ rfl rfl (.inl rfl)
      · rw [if_neg started]
        exact .release lease session.tried _ rfl rfl
    | _ => exact rest
  | judging attempt lease result =>
    cases input with
    | panics cancelled => exact turns_panics cache _ cancelled
    | judged wasReady stopped paused regenerated draw =>
      have told (timeout : Bool) :
          ∀ seen ∈ if timeout then some WorkerEvent.networkTimeout else none, seen.Silent := by
        cases timeout <;> intro seen member <;> cases member
        trivial
      cases stopped with
      | true => exact .stay cache _ rfl
      | false =>
        cases paused with
        | true => exact .stay cache _ rfl
        | false => exact .quiet _ _ _ cache.touches_self rfl (told _)
    | _ => exact rest
  | settling lease verdict =>
    obtain ⟨calls, attempt, delay, timeout⟩ := verdict
    cases input with
    | panics cancelled => exact turns_panics cache _ cancelled
    | drawn draw =>
      cases calls with
      | nil =>
        exact .quiet _ _ _ cache.touches_self rfl fun seen member => by
          cases member
          trivial
      | cons call calls =>
        have does := call.perform_does cache lease delay draw
        unfold WorkerPlace.next
        dsimp only
        generalize call.perform cache lease delay draw = answer at does ⊢
        cases does with
        | touch after next touches _ =>
          exact .quiet _ _ _ touches rfl fun seen member => by cases member
        | retire after next cached here same touches empty _ =>
          exact .retire lease _ cached _ here same touches empty rfl rfl
    | _ => exact rest
  | sleeping attempt =>
    cases input with
    | panics cancelled => exact turns_panics cache _ cancelled
    | going => exact .stay cache _ rfl
    | cancelled => exact .stay cache _ rfl
    | _ => exact rest
  | restarting =>
    cases input with
    | going => exact .stay cache _ rfl
    | cancelled => exact .stay cache _ rfl
    | _ => exact rest
  | returned => cases input <;> exact rest

end Turns

section Pauses

/-- A pause that is neither too short nor too long. -/
def Paced (delay : Nat) : Prop := 50 ≤ delay ∧ delay ≤ 10000

/-- Retries after errors. -/
theorem workerRetryDelay_bounds (attempt draw : Nat) :
    250 ≤ workerRetryDelay attempt draw ∧ workerRetryDelay attempt draw ≤ 4250 := by
  have positive : 1 ≤ 2 ^ min (attempt - 1) 4 := Nat.one_le_two_pow
  unfold workerRetryDelay workerRetryDelayWithJitter
  omega

/-- Pauses after other errors. -/
theorem ordinaryDelay_paced (message lower : Text) (attempt draw : Nat) :
    Paced (ordinaryDelay message lower attempt draw) := by
  have bounds := workerRetryDelay_bounds attempt draw
  unfold ordinaryDelay Paced
  dsimp only
  split
  · omega
  · split
    · omega
    · split <;> omega

/-- Whatever a session results in, the worker waits for a while, and not for long. -/
theorem judge_paced (transport : TurnTransportMode) (attempt : Nat) (regenerated : Bool)
    (draw : Nat) (result : Except SessionError Unit) :
    Paced (judge transport attempt regenerated draw result).delay := by
  cases result with
  | ok =>
    have bounds := workerRetryDelay_bounds (max attempt 1) draw
    show 50 ≤ workerRetryDelay _ _ ∧ workerRetryDelay _ _ ≤ 10000
    omega
  | error error =>
    have ordinary := ordinaryDelay_paced error.toText (Str.toAsciiLowercase error.toText)
      (saturatingSucc attempt) draw
    have bounds := quotaRotationDelay_bounds (saturatingSucc attempt - 1)
    have reset : Paced (tcpStreamRetryDelay (saturatingSucc attempt)) :=
      ⟨Nat.le_trans (by decide) bounds.1, Nat.le_trans bounds.2 (by decide)⟩
    have again : Paced (50 + draw % 151) := ⟨by omega, by omega⟩
    have mismatch : Paced (50 + draw % 51) := ⟨by omega, by omega⟩
    have invalid : Paced (100 + draw % 51) := ⟨by omega, by omega⟩
    have network : Paced (250 + draw % 751) := ⟨by omega, by omega⟩
    unfold judge
    dsimp only
    split_ifs <;> assumption

/-- How long a worker is to wait, if it knows. -/
def WorkerPlace.delay : WorkerPlace → Option Nat
  | .settling _ verdict => some verdict.delay
  | _ => none

/-- How long a worker waits, if it begins to. -/
def WorkerEvent.delay : WorkerEvent → Option Nat
  | .pauses delay => some delay
  | _ => none

variable (transport : TurnTransportMode) (cache : CredentialCache)

/-- The pause after a call. -/
theorem LeaseCall.perform_paced (call : LeaseCall) (lease : CredentialLease) (delay draw : Nat)
    (paced : Worker.Paced delay) : Worker.Paced (call.perform cache lease delay draw).2.1 := by
  have does := call.perform_does cache lease delay draw
  generalize call.perform cache lease delay draw = answer at does ⊢
  cases does with
  | touch after next touches bounds =>
    rcases bounds with rfl | bounds
    · exact paced
    · exact ⟨bounds.1, Nat.le_trans bounds.2 (by decide)⟩
  | retire after next cached here same touches empty bounds =>
    rcases bounds with rfl | bounds
    · exact paced
    · exact ⟨bounds.1, Nat.le_trans bounds.2 (by decide)⟩

/-- Only a worker that settles what its session has led to knows how long it is to wait. -/
theorem WorkerPlace.next_calm {place : WorkerPlace} (input : Outside) (calm : place.delay = none)
    (before : ∀ attempt lease result, place ≠ .judging attempt lease result) :
    (place.next transport cache input).2.1.delay = none ∧
      (place.next transport cache input).2.2.bind WorkerEvent.delay = none := by
  have lost : (place.lease.map fun held => WorkerEvent.lost held.1 held.2).bind
      WorkerEvent.delay = none := by
    cases place.lease <;> rfl
  unfold WorkerPlace.next
  split
  all_goals repeat' split
  all_goals first
    | exact ⟨rfl, rfl⟩
    | exact ⟨calm, rfl⟩
    | exact ⟨rfl, lost⟩
    | exact absurd rfl (before _ _ _)
    | cases calm

/-- The worker that follows waits for a paced time, and so does one that begins to wait. -/
def PacedTurn (turn : CredentialCache × WorkerPlace × Option WorkerEvent) : Prop :=
  (∀ delay ∈ turn.2.1.delay, Paced delay) ∧
    ∀ delay ∈ turn.2.2.bind WorkerEvent.delay, Paced delay

/-- A worker that does not know how long it is to wait. -/
theorem pacedTurn_calm {turn : CredentialCache × WorkerPlace × Option WorkerEvent}
    (calm : turn.2.1.delay = none ∧ turn.2.2.bind WorkerEvent.delay = none) : PacedTurn turn := by
  unfold PacedTurn
  rw [calm.1, calm.2]
  exact ⟨fun _ member => (by cases member), fun _ member => (by cases member)⟩

/-- A worker that is to wait for a paced time, and may tell something else. -/
theorem pacedTurn_settling (after : CredentialCache) (lease : CredentialLease) (verdict : Verdict)
    (long : Paced verdict.delay) (tells : Bool) {event : WorkerEvent}
    (silent : event.delay = none) :
    PacedTurn (after, .settling lease verdict, if tells then some event else none) := by
  refine ⟨fun _ member => (by cases member; exact long), fun delay member => ?_⟩
  cases tells with
  | true =>
    have told : delay ∈ event.delay := member
    rw [silent] at told
    cases told
  | false => cases member

/-- Every step keeps it so. -/
theorem WorkerPlace.next_paced {place : WorkerPlace} (paced : ∀ delay ∈ place.delay, Paced delay)
    (input : Outside) : PacedTurn (place.next transport cache input) := by
  by_cases before : ∃ attempt lease result, place = .judging attempt lease result
  · obtain ⟨attempt, lease, result, rfl⟩ := before
    cases input with
    | judged wasReady stopped paused regenerated draw =>
      cases stopped with
      | true => exact pacedTurn_calm ⟨rfl, rfl⟩
      | false =>
        cases paused with
        | true => exact pacedTurn_calm ⟨rfl, rfl⟩
        | false =>
          exact pacedTurn_settling _ _ _ (judge_paced transport _ regenerated draw result) _ rfl
    | panics cancelled => cases cancelled <;> exact pacedTurn_calm ⟨rfl, rfl⟩
    | _ => exact pacedTurn_calm ⟨rfl, rfl⟩
  · cases known : place.delay with
    | none =>
      exact pacedTurn_calm (next_calm transport cache input known fun attempt lease result same =>
        before ⟨attempt, lease, result, same⟩)
    | some delay =>
      cases place with
      | settling lease verdict =>
        have long := paced verdict.delay rfl
        cases input with
        | panics cancelled => cases cancelled <;> exact pacedTurn_calm ⟨rfl, rfl⟩
        | drawn draw =>
          unfold WorkerPlace.next
          dsimp only
          cases verdict.calls with
          | nil =>
            exact ⟨fun _ member => (by cases member),
              fun _ member => (by cases member; exact long)⟩
          | cons call calls =>
            exact pacedTurn_settling _ _ _ (call.perform_paced cache lease _ draw long) _ rfl
        | _ =>
          exact ⟨fun _ member => (by cases member; exact long),
            fun _ member => (by cases member)⟩
      | _ => cases known

end Pauses

end Focsq.Worker
