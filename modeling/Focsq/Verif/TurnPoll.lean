import Focsq.Verif.TurnSteady

/-!
# What a poll does to the timers

A poll goes through the pending requests and then through the timers. What it leaves behind is said
here for each operation by itself: the next attempt of its pending request and its timer after the
poll, from those before it.
-/

namespace Focsq.Turn

/-- The timer of an operation. -/
def Inner.timer (inner : Inner) : Operation → Option Nat
  | .refresh => inner.allocationRefresh
  | .permission => inner.permissionRetry
  | .channel => inner.channelRetry
  | .allocate => none
  | .deallocate => none

/-- How often an operation has failed in a row. -/
def Inner.failures (inner : Inner) : Operation → Nat
  | .refresh => inner.refreshFailures
  | .permission => inner.permissionFailures
  | .channel => inner.channelFailures
  | .allocate => 0
  | .deallocate => 0

/-- A pending request after it was sent again. -/
def Pending.resent (pending : Pending) (now : Nat) : Pending :=
  { pending with
    transmissions := pending.transmissions + 1
    rto := min (pending.rto * 2) maxRto
    nextAttempt := now + min (pending.rto * 2) maxRto }

/-- What becomes of a pending request: it waits, is given up, or is sent again. -/
def Pending.expired (transport : TurnControlTransport) (now : Nat) (pending : Pending) :
    Option Pending :=
  if now < pending.nextAttempt then some pending
  else if maxTransmissions ≤ pending.transmissions ∨ transport = .stream then none
  else some (pending.resent now)

/-- Whether a request of an operation is given up among some requests. -/
def dropped (transport : TurnControlTransport) (now : Nat) (pending : List Pending)
    (operation : Operation) : Bool :=
  pending.any fun pending =>
    pending.operation == operation && (pending.expired transport now).isNone

/-- Whether a pending request of an operation is given up. -/
def Inner.drops (inner : Inner) (now : Nat) (operation : Operation) : Bool :=
  dropped inner.transport now inner.pending operation

/-- Whether one more failure of an operation is one too many. -/
def Inner.wornOut (inner : Inner) (operation : Operation) : Prop :=
  operation = .channel ∧ maxChannelMaintenanceFailures ≤ inner.failures operation + 1

instance decidableWornOut (inner : Inner) (operation : Operation) :
    Decidable (inner.wornOut operation) := inferInstanceAs (Decidable (_ ∧ _))

/-- When an operation that fails now is repeated. -/
def Inner.retryAt (inner : Inner) (now : Nat) (operation : Operation) : Nat :=
  now + maintenanceRetryDelay (min (inner.failures operation + 1) 255)

/-- What no pending request that fails changes as long as the allocation is kept. -/
def Inner.course (inner : Inner) : TurnState × Option Nat × Option Nat × Option Nat ×
    CsqttTurnProfile × TurnControlTransport × Bool :=
  (inner.state, inner.allocationExpiresAt, inner.maintenanceRefresh, inner.keepalive,
    inner.profile, inner.transport, inner.shuttingDown)

/-- A client that awaits nothing and keeps nothing alive. -/
structure Stilled (inner : Inner) : Prop where
  /-- The allocation is lost. -/
  state : inner.state ≠ .ready
  /-- Nothing is pending. -/
  pending : inner.pending = []
  /-- Permission and channel are not renewed. -/
  maintenance : inner.maintenanceRefresh = none
  /-- The permission is not asked for again. -/
  permission : inner.permissionRetry = none
  /-- The channel is not bound again. -/
  channel : inner.channelRetry = none
  /-- The channel is not kept alive. -/
  keepalive : inner.keepalive = none

section Failure

variable (inner : Inner) (operation : Operation) (status stunCode : Int) (now : Nat)

/-- Whether a request that fails will be repeated. -/
def Inner.retries : Prop :=
  operation.phase = .ready ∧ inner.state = .ready ∧ inner.live now = true ∧
    ¬inner.wornOut operation

/-- A failed request that will be repeated: its timer is set and its failure counted. -/
theorem completeFailure_retried (retries : inner.retries operation now) :
    let after := inner.completeFailure operation status stunCode now
    after.course = inner.course ∧ after.pending = inner.pending ∧
      (∀ other, after.timer other =
        if other = operation then some (inner.retryAt now operation) else inner.timer other) ∧
      ∀ other, other ≠ operation → after.failures other = inner.failures other := by
  obtain ⟨phase, ready, live, fresh⟩ := retries
  have maintained : (operation = .refresh ∨ operation = .permission ∨ operation = .channel) ∧
      inner.state = .ready ∧ inner.allocationExpiresAt.any (fun deadline => now < deadline) := by
    refine ⟨?_, ready, live⟩
    cases operation with
    | refresh => exact .inl rfl
    | permission => exact .inr (.inl rfl)
    | channel => exact .inr (.inr rfl)
    | allocate => cases phase
    | deallocate => cases phase
  intro after
  have same : after = if ((inner.complete operation status stunCode).scheduleMaintenanceRetry
      operation now).1 then ((inner.complete operation status
        stunCode).scheduleMaintenanceRetry operation now).2
      else ((inner.complete operation status stunCode).scheduleMaintenanceRetry operation
        now).2.destroyAfterChannelRebindExhausted := if_pos maintained
  rw [same, Inner.complete, pushEvent_eq]
  cases operation with
  | refresh =>
    refine ⟨rfl, rfl, fun other => ?_, fun other different => ?_⟩
    · cases other <;> rfl
    · cases other <;> first | rfl | exact absurd rfl different
  | permission =>
    refine ⟨rfl, rfl, fun other => ?_, fun other different => ?_⟩
    · cases other <;> rfl
    · cases other <;> first | rfl | exact absurd rfl different
  | channel =>
    have few : ¬maxChannelMaintenanceFailures ≤ min (inner.channelFailures + 1) 255 := by
      intro many
      exact fresh ⟨rfl, Nat.le_trans many (Nat.min_le_left _ _)⟩
    unfold Inner.scheduleMaintenanceRetry
    dsimp only
    rw [if_neg few, if_pos rfl]
    refine ⟨rfl, rfl, fun other => ?_, fun other different => ?_⟩
    · cases other <;> rfl
    · cases other <;> first | rfl | exact absurd rfl different
  | allocate => cases phase
  | deallocate => cases phase

/-- One failure of the channel too many: everything is dropped, but not the timer of the
refresh. -/
theorem completeFailure_wornOut (ready : inner.state = .ready) (live : inner.live now = true)
    (worn : inner.wornOut operation) :
    let after := inner.completeFailure operation status stunCode now
    Stilled after ∧ after.allocationRefresh = inner.allocationRefresh := by
  obtain ⟨rfl, many⟩ := worn
  have maintained : (Operation.channel = .refresh ∨ Operation.channel = .permission ∨
      Operation.channel = .channel) ∧ inner.state = .ready ∧
        inner.allocationExpiresAt.any (fun deadline => now < deadline) :=
    ⟨.inr (.inr rfl), ready, live⟩
  have enough : maxChannelMaintenanceFailures ≤ min (inner.channelFailures + 1) 255 := by
    have bound : maxChannelMaintenanceFailures ≤ inner.channelFailures + 1 := many
    unfold maxChannelMaintenanceFailures at bound ⊢
    omega
  unfold Inner.completeFailure
  rw [if_pos maintained, Inner.complete, pushEvent_eq]
  unfold Inner.scheduleMaintenanceRetry
  dsimp only
  rw [if_pos enough, if_neg Bool.false_ne_true, Inner.destroyAfterChannelRebindExhausted,
    setState_eq, pushEvent_eq]
  exact ⟨⟨(fun same => by cases same), rfl, rfl, rfl, rfl, rfl⟩, rfl⟩

/-- Losing the allocation drops everything. -/
theorem destroyAllocation_stilled :
    let after := inner.destroyAllocation operation status stunCode
    Stilled after ∧ after.allocationRefresh = none := by
  unfold Inner.destroyAllocation
  dsimp only
  split <;> rw [setState_eq] <;> exact ⟨⟨(fun same => by cases same), rfl, rfl, rfl, rfl, rfl⟩, rfl⟩

/-- A request that fails without a live allocation loses it. -/
theorem completeFailure_lost (lost : ¬(inner.state = .ready ∧ inner.live now = true)) :
    let after := inner.completeFailure operation status stunCode now
    Stilled after ∧ after.allocationRefresh = none := by
  unfold Inner.completeFailure
  rw [if_neg (fun kept => lost kept.2)]
  exact destroyAllocation_stilled inner operation status stunCode

end Failure

/-- Two clients with the same clockwork but for pending requests. -/
structure SameTimers (inner other : Inner) : Prop where
  /-- State, allocation and intervals. -/
  course : other.course = inner.course
  /-- Timers of the operations. -/
  timer : other.timer = inner.timer
  /-- Counted failures. -/
  failures : other.failures = inner.failures

section Loop

variable {inner : Inner} {now : Nat} {before after : List Pending} {pending : Pending}

/-- The loop ends behind the last request. -/
theorem expireLoop_end (fuel index : Nat) (short : inner.pending.length ≤ index) :
    inner.expireLoop now fuel index = inner := by
  cases fuel with
  | zero => rfl
  | succ fuel =>
    unfold Inner.expireLoop
    rw [List.getElem?_eq_none short]

/-- The loop comes to the request behind those it has been through. -/
theorem getElem?_among (among : inner.pending = before ++ pending :: after) :
    inner.pending[before.length]? = some pending := by
  rw [among, List.getElem?_append_right (Nat.le_refl _), Nat.sub_self]
  rfl

/-- A turn of the loop for a request that is not given up. -/
theorem expireLoop_kept {next : Pending} (fuel : Nat)
    (among : inner.pending = before ++ pending :: after)
    (kept : pending.expired inner.transport now = some next) :
    next.operation = pending.operation ∧ ∃ middle : Inner,
      inner.expireLoop now (fuel + 1) before.length =
        middle.expireLoop now fuel (before ++ [next]).length ∧
      middle.pending = (before ++ [next]) ++ after ∧ SameTimers inner middle := by
  have there := getElem?_among among
  unfold Pending.expired at kept
  rw [Inner.expireLoop, there]
  dsimp only
  split at kept
  · rename_i waits
    cases kept
    refine ⟨rfl, inner, ?_, ?_, ⟨rfl, rfl, rfl⟩⟩
    · rw [if_pos waits, List.length_append]
      rfl
    · rw [among, List.append_assoc]
      rfl
  · rename_i due
    split at kept
    · cases kept
    · rename_i again
      cases kept
      refine ⟨rfl, { inner.queuePacket pending.packet with
        pending := (inner.queuePacket pending.packet).pending.set before.length
          (pending.resent now) }, ?_, ?_, ?_⟩
      · rw [if_neg due, if_neg again, List.length_append]
        rfl
      · have same : (inner.queuePacket pending.packet).pending = before ++ pending :: after := by
          rw [queuePacket_eq]
          exact among
        dsimp only
        rw [same, List.set_append_right _ _ (Nat.le_refl _), Nat.sub_self, List.append_assoc]
        rfl
      · rw [queuePacket_eq]
        exact ⟨rfl, rfl, rfl⟩

/-- A turn of the loop for a request that is given up. -/
theorem expireLoop_dropped (fuel : Nat) (among : inner.pending = before ++ pending :: after)
    (dropped : pending.expired inner.transport now = none) :
    ∃ middle : Inner,
      inner.expireLoop now (fuel + 1) before.length =
        (middle.completeFailure pending.operation resultTimeout 0 now).expireLoop now fuel
          before.length ∧
      middle.pending = before ++ after ∧ SameTimers inner middle := by
  have there := getElem?_among among
  unfold Pending.expired at dropped
  rw [Inner.expireLoop, there]
  dsimp only
  split at dropped
  · cases dropped
  · rename_i due
    split at dropped
    · rename_i old
      refine ⟨{ inner with pending := inner.pending.eraseIdx before.length
          }.removeQueuedTransaction pending.transaction, ?_, ?_, ⟨rfl, rfl, rfl⟩⟩
      · rw [if_neg due, if_pos old]
      · show inner.pending.eraseIdx before.length = before ++ after
        rw [among, List.eraseIdx_append_of_length_le (Nat.le_refl _), Nat.sub_self]
        rfl
    · cases dropped

/-- The part of the course that says how a request fails. -/
theorem course_eq {other : Inner} (same : other.course = inner.course) :
    other.state = inner.state ∧ other.live = inner.live ∧ other.transport = inner.transport ∧
      other.allocationExpiresAt = inner.allocationExpiresAt ∧
      other.maintenanceRefresh = inner.maintenanceRefresh ∧ other.keepalive = inner.keepalive ∧
      other.profile = inner.profile ∧ other.shuttingDown = inner.shuttingDown := by
  simp only [Inner.course, Prod.mk.injEq] at same
  obtain ⟨state, expires, maintenance, keepalive, profile, transport, closing⟩ := same
  refine ⟨state, ?_, transport, expires, maintenance, keepalive, profile, closing⟩
  unfold Inner.live
  rw [expires]

/-- A request fails alike in two states of the same course. -/
theorem retries_congr {other : Inner} {operation : Operation}
    (course : other.course = inner.course)
    (failures : other.failures operation = inner.failures operation)
    (retries : inner.retries operation now) : other.retries operation now := by
  obtain ⟨phase, ready, live, fresh⟩ := retries
  obtain ⟨state, alive, _⟩ := course_eq course
  refine ⟨phase, state.trans ready, alive ▸ live, ?_⟩
  unfold Inner.wornOut
  rw [failures]
  exact fresh

/-- No request of an operation is given up where there is none. -/
theorem dropped_none {transport : TurnControlTransport} {pending : List Pending}
    {operation : Operation} (none : ∀ request ∈ pending, request.operation ≠ operation) :
    dropped transport now pending operation = false := by
  apply List.any_eq_false.mpr
  intro request member both
  rw [Bool.and_eq_true, beq_iff_eq] at both
  exact none request member both.1

/-- A request that is not given up does not count. -/
theorem dropped_kept {transport : TurnControlTransport} {next : Pending} {rest : List Pending}
    (kept : pending.expired transport now = some next) (operation : Operation) :
    dropped transport now (pending :: rest) operation = dropped transport now rest operation := by
  rw [dropped, List.any_cons, kept, Option.isNone_some, Bool.and_false, Bool.false_or]
  rfl

/-- A request for something else does not count. -/
theorem dropped_other {transport : TurnControlTransport} {rest : List Pending}
    {operation : Operation} (different : operation ≠ pending.operation) :
    dropped transport now (pending :: rest) operation = dropped transport now rest operation := by
  rw [dropped, List.any_cons, beq_false_of_ne (Ne.symm different), Bool.false_and, Bool.false_or]
  rfl

/-- A request that is given up counts for its operation. -/
theorem dropped_here {transport : TurnControlTransport} {rest : List Pending}
    (gone : pending.expired transport now = none) :
    dropped transport now (pending :: rest) pending.operation = true := by
  rw [dropped, List.any_cons, gone, BEq.rfl]
  rfl

/-- A failed request is repeated later. -/
theorem lt_retryAt (inner : Inner) (now : Nat) (operation : Operation) :
    now < inner.retryAt now operation := by
  have delay : 0 < maintenanceRetryDelay (min (inner.failures operation + 1) 255) := by
    apply Nat.lt_min.mpr
    constructor
    · exact Nat.mul_pos (by decide) (Nat.two_pow_pos _)
    · decide
  unfold Inner.retryAt
  omega

/-- A loop with turns enough for a request and those after it has turns enough for these after one
turn. -/
theorem exists_turn {pending : Pending} {rest : List Pending} {fuel : Nat}
    (room : (pending :: rest).length ≤ fuel) : ∃ left, fuel = left + 1 ∧ rest.length ≤ left := by
  cases fuel with
  | zero => exact absurd room (Nat.not_succ_le_zero _)
  | succ left => exact ⟨left, rfl, Nat.le_of_succ_le_succ room⟩

/-- What the loop does as long as the requests that are given up will be repeated: it leaves out
these, and sets their timers. -/
theorem expireLoop_retried (rest : List Pending) :
    ∀ (inner : Inner) (before : List Pending) (fuel : Nat),
      inner.pending = before ++ rest → rest.length ≤ fuel →
      (rest.map Pending.operation).Nodup →
      (∀ pending ∈ rest, pending.expired inner.transport now = none →
        inner.retries pending.operation now) →
      let after := inner.expireLoop now fuel before.length
      after.course = inner.course ∧
        after.pending = before ++ rest.filterMap (Pending.expired inner.transport now) ∧
        ∀ operation, after.timer operation =
          if dropped inner.transport now rest operation then some (inner.retryAt now operation)
          else inner.timer operation := by
  induction rest with
  | nil =>
    intro inner before fuel among _ _ _
    have ended : inner.expireLoop now fuel before.length = inner :=
      expireLoop_end fuel before.length (by rw [among, List.append_nil])
    rw [ended]
    exact ⟨rfl, among, fun _ => rfl⟩
  | cons pending rest ih =>
    intro inner before fuel among room once retries
    obtain ⟨fuel, rfl, shorter⟩ := exists_turn room
    obtain ⟨fresh, others⟩ := List.nodup_cons.mp once
    have later : ∀ other ∈ rest, other.operation ≠ pending.operation :=
      fun other member same => fresh (same ▸ List.mem_map_of_mem member)
    cases fate : pending.expired inner.transport now with
    | some next =>
      obtain ⟨_, middle, turn, left, same⟩ := expireLoop_kept fuel among fate
      obtain ⟨_, _, transport, _⟩ := course_eq same.course
      have again := ih middle (before ++ [next]) fuel left shorter others
        (fun other member gone => retries_congr same.course (congrFun same.failures _)
          (retries other (List.mem_cons_of_mem _ member) (transport ▸ gone)))
      rw [← turn, transport] at again
      obtain ⟨course, kept, timers⟩ := again
      refine ⟨course.trans same.course, ?_, fun operation => ?_⟩
      · rw [kept, List.filterMap_cons_some fate, List.append_assoc]
        rfl
      · rw [timers, dropped_kept fate, Inner.retryAt, same.failures, same.timer]
        rfl
    | none =>
      obtain ⟨middle, turn, left, same⟩ := expireLoop_dropped fuel among fate
      have retried := retries_congr same.course (congrFun same.failures _)
        (retries pending List.mem_cons_self fate)
      obtain ⟨course, unchanged, timer, failures⟩ :=
        completeFailure_retried middle pending.operation resultTimeout 0 now retried
      generalize middle.completeFailure pending.operation resultTimeout 0 now = next
        at turn course unchanged timer failures
      have both := course.trans same.course
      obtain ⟨_, _, transport, _⟩ := course_eq both
      have counted : ∀ operation, operation ≠ pending.operation →
          next.failures operation = inner.failures operation := by
        intro operation different
        rw [failures operation different, same.failures]
      have again := ih next before fuel (unchanged.trans left) shorter others
        (fun other member gone => retries_congr both (counted _ (later other member))
          (retries other (List.mem_cons_of_mem _ member) (transport ▸ gone)))
      rw [← turn, transport] at again
      obtain ⟨course, kept, timers⟩ := again
      refine ⟨course.trans both, ?_, fun operation => ?_⟩
      · rw [kept, List.filterMap_cons_none fate]
      · rw [timers, timer, same.timer]
        by_cases here : operation = pending.operation
        · -- the operation of the request is not pending a second time
          rw [here, dropped_here fate, dropped_none later, if_pos rfl, if_pos rfl,
            if_neg Bool.false_ne_true]
          unfold Inner.retryAt
          rw [same.failures]
        · rw [dropped_other here, if_neg here, Inner.retryAt, counted operation here]
          rfl

/-- Where nothing is pending, the loop does nothing. -/
theorem Stilled.expireLoop (stilled : Stilled inner) (fuel index : Nat) :
    inner.expireLoop now fuel index = inner :=
  expireLoop_end fuel index (by rw [stilled.pending]; exact Nat.zero_le _)

/-- What the loop does when a request is given up without a live allocation. -/
theorem expireLoop_lost (rest : List Pending) :
    ∀ (inner : Inner) (before : List Pending) (fuel : Nat),
      inner.pending = before ++ rest → rest.length ≤ fuel →
      ¬(inner.state = .ready ∧ inner.live now = true) →
      (∃ pending ∈ rest, pending.expired inner.transport now = none) →
      let after := inner.expireLoop now fuel before.length
      Stilled after ∧ after.allocationRefresh = none := by
  induction rest with
  | nil =>
    rintro inner before fuel _ _ _ ⟨pending, member, _⟩
    cases member
  | cons pending rest ih =>
    intro inner before fuel among room lost some
    obtain ⟨fuel, rfl, shorter⟩ := exists_turn room
    cases fate : pending.expired inner.transport now with
    | some next =>
      obtain ⟨_, middle, turn, left, same⟩ := expireLoop_kept fuel among fate
      obtain ⟨state, live, transport, _⟩ := course_eq same.course
      rw [turn]
      apply ih middle (before ++ [next]) fuel left shorter
      · rw [state, live]
        exact lost
      · obtain ⟨other, member, gone⟩ := some
        cases List.mem_cons.mp member with
        | inl here =>
          rw [here, fate] at gone
          cases gone
        | inr later => exact ⟨other, later, transport ▸ gone⟩
    | none =>
      obtain ⟨middle, turn, left, same⟩ := expireLoop_dropped fuel among fate
      obtain ⟨state, live, _⟩ := course_eq same.course
      obtain ⟨stilled, refresh⟩ := completeFailure_lost middle pending.operation resultTimeout 0
        now (by rw [state, live]; exact lost)
      rw [turn, stilled.expireLoop]
      exact ⟨stilled, refresh⟩

/-- What the loop does when the channel fails once too often: it drops everything but the timer of
the refresh, which is set when the refresh was given up before. -/
theorem expireLoop_wornOut (rest : List Pending) :
    ∀ (inner : Inner) (before : List Pending) (fuel : Nat),
      inner.pending = before ++ rest → rest.length ≤ fuel →
      (rest.map Pending.operation).Nodup →
      inner.state = .ready → inner.live now = true →
      (∀ pending ∈ rest, pending.operation.phase = .ready) →
      inner.wornOut .channel → dropped inner.transport now rest .channel = true →
      let after := inner.expireLoop now fuel before.length
      Stilled after ∧ (after.allocationRefresh = inner.allocationRefresh ∨
        dropped inner.transport now rest .refresh = true ∧
          ∃ time, after.allocationRefresh = some time ∧ now < time) := by
  induction rest with
  | nil =>
    intro inner before fuel _ _ _ _ _ _ _ gone
    cases gone
  | cons pending rest ih =>
    intro inner before fuel among room once ready live phases worn gone
    obtain ⟨fuel, rfl, shorter⟩ := exists_turn room
    have others := (List.nodup_cons.mp once).2
    have phasesLater : ∀ other ∈ rest, other.operation.phase = .ready :=
      fun other member => phases other (List.mem_cons_of_mem _ member)
    cases fate : pending.expired inner.transport now with
    | some next =>
      obtain ⟨_, middle, turn, left, same⟩ := expireLoop_kept fuel among fate
      obtain ⟨state, alive, transport, _⟩ := course_eq same.course
      rw [dropped_kept fate] at gone ⊢
      have again := ih middle (before ++ [next]) fuel left shorter others (state.trans ready)
        (alive ▸ live) phasesLater (by unfold Inner.wornOut; rw [same.failures]; exact worn)
        (transport ▸ gone)
      have refresh : middle.allocationRefresh = inner.allocationRefresh :=
        congrFun same.timer .refresh
      rw [← turn, transport, refresh] at again
      exact again
    | none =>
      obtain ⟨middle, turn, left, same⟩ := expireLoop_dropped fuel among fate
      obtain ⟨state, alive, transport, _⟩ := course_eq same.course
      have refresh : middle.allocationRefresh = inner.allocationRefresh :=
        congrFun same.timer .refresh
      by_cases here : pending.operation = .channel
      · obtain ⟨stilled, kept⟩ := completeFailure_wornOut middle pending.operation resultTimeout 0
          now (state.trans ready) (alive ▸ live)
          (by unfold Inner.wornOut; rw [here, same.failures]; exact worn)
        rw [turn, stilled.expireLoop]
        exact ⟨stilled, .inl (kept.trans refresh)⟩
      · have retried : middle.retries pending.operation now :=
          ⟨phases pending List.mem_cons_self, state.trans ready, alive ▸ live,
            fun worn => here worn.1⟩
        obtain ⟨course, unchanged, timer, failures⟩ :=
          completeFailure_retried middle pending.operation resultTimeout 0 now retried
        have set := timer .refresh
        generalize middle.completeFailure pending.operation resultTimeout 0 now = next
          at turn course unchanged failures set
        obtain ⟨stateNext, aliveNext, transportNext, _⟩ := course_eq (course.trans same.course)
        have different : Operation.channel ≠ pending.operation := fun same => here same.symm
        have counted : next.failures .channel = inner.failures .channel := by
          rw [failures .channel different, same.failures]
        rw [dropped_other different] at gone
        obtain ⟨stilled, refreshed⟩ := ih next before fuel (unchanged.trans left) shorter others
          (stateNext.trans ready) (aliveNext ▸ live) phasesLater
          (by unfold Inner.wornOut; rw [counted]; exact worn) (transportNext ▸ gone)
        rw [← turn] at stilled refreshed
        refine ⟨stilled, ?_⟩
        by_cases refreshes : Operation.refresh = pending.operation
        · -- the refresh was given up first, and will be repeated after `now`
          right
          rw [if_pos refreshes] at set
          change next.allocationRefresh = some _ at set
          refine ⟨refreshes ▸ dropped_here fate, ?_⟩
          rcases refreshed with kept | ⟨_, time, later, ahead⟩
          · exact ⟨_, kept.trans set, lt_retryAt _ _ _⟩
          · exact ⟨time, later, ahead⟩
        · rw [if_neg refreshes] at set
          rw [dropped_other refreshes, ← transportNext]
          exact refreshed.imp_left (fun kept => kept.trans (set.trans refresh))

/-- A request that is not given up is for the same as before. -/
theorem expired_operation {transport : TurnControlTransport} {next : Pending}
    (kept : pending.expired transport now = some next) : next.operation = pending.operation := by
  unfold Pending.expired at kept
  split at kept
  · cases kept
    rfl
  · split at kept
    · cases kept
    · cases kept
      rfl

/-- What is left of the request of an operation. -/
theorem find?_expired (transport : TurnControlTransport) (operation : Operation)
    (requests : List Pending) (once : (requests.map Pending.operation).Nodup) :
    (requests.filterMap (Pending.expired transport now)).find? (·.operation == operation) =
      (requests.find? (·.operation == operation)).bind (Pending.expired transport now) := by
  induction requests with
  | nil => rfl
  | cons pending rest ih =>
    obtain ⟨fresh, others⟩ := List.nodup_cons.mp once
    have hit : ∀ (request : Pending) (rest : List Pending), request.operation = operation →
        (request :: rest).find? (·.operation == operation) = some request :=
      fun request rest same => List.find?_cons_of_pos (by simpa using same)
    have miss : ∀ (request : Pending) (rest : List Pending), request.operation ≠ operation →
        (request :: rest).find? (·.operation == operation) =
          rest.find? (·.operation == operation) :=
      fun request rest different => List.find?_cons_of_neg (by simpa using different)
    by_cases here : pending.operation = operation
    · rw [hit pending rest here, Option.bind_some]
      cases fate : pending.expired transport now with
      | some next =>
        rw [List.filterMap_cons_some fate, hit next _ ((expired_operation fate).trans here)]
      | none =>
        -- no other request is for the same
        have absent : rest.find? (·.operation == operation) = none := by
          apply List.find?_eq_none.mpr
          intro other member same
          apply fresh
          rw [here, ← beq_iff_eq.mp same]
          exact List.mem_map_of_mem member
        rw [List.filterMap_cons_none fate, ih others, absent]
        rfl
    · rw [miss pending rest here, ← ih others]
      cases fate : pending.expired transport now with
      | some next =>
        rw [List.filterMap_cons_some fate, miss next]
        exact expired_operation fate ▸ here
      | none => rw [List.filterMap_cons_none fate]

end Loop

/-- What an operation waits for: the next attempt of its pending request, and its timer. -/
def Inner.slot (inner : Inner) (operation : Operation) : Option Nat × Option Nat :=
  ((inner.pending.find? (·.operation == operation)).map Pending.nextAttempt,
    inner.timer operation)

/-- What an operation waits for after the loop over the pending requests. -/
def Inner.expiredSlot (inner : Inner) (now : Nat) (operation : Operation) :
    Option Nat × Option Nat :=
  (((inner.pending.find? (·.operation == operation)).bind
      (Pending.expired inner.transport now)).map Pending.nextAttempt,
    if inner.drops now operation then some (inner.retryAt now operation)
    else inner.timer operation)

/-- Whether permission and channel are renewed, and an operation is one of them. -/
def Inner.renews (inner : Inner) (now : Nat) (operation : Operation) : Bool :=
  reached inner.maintenanceRefresh now && (operation == .permission || operation == .channel)

/-- Whether an operation with such a timer is due. -/
def Inner.due (inner : Inner) (now : Nat) (operation : Operation) (timer : Option Nat) : Bool :=
  inner.renews now operation || reached timer now

/-- What an operation waits for after it was started if it was due and not pending. -/
def Inner.startedSlot (inner : Inner) (readings : Readings) (operation : Operation)
    (slot : Option Nat × Option Nat) : Option Nat × Option Nat :=
  if inner.due readings.now operation slot.2 && slot.1.isNone then
    (some ((readings.draw operation).started + inner.transactionTimeout), none)
  else slot

/-- The next renewal after a poll. -/
def renewed (timer : Option Nat) (now interval : Nat) : Option Nat :=
  if reached timer now then some (now + interval) else timer

/-- An operation is pending when it waits for an attempt. -/
theorem hasOperation_slot (inner : Inner) (operation : Operation) :
    inner.hasOperation operation = (inner.slot operation).1.isSome := by
  rw [Inner.slot, Option.isSome_map, Bool.eq_iff_iff]
  exact hasOperation_iff inner operation

/-- The parts of a sequence that succeeds succeed. -/
theorem andThen_ok {α β : Type} {first : Except Failure α × Inner}
    {next : α → Inner → Except Failure β × Inner} {value : β} {after : Inner}
    (succeeds : andThen first next = (.ok value, after)) :
    ∃ result middle, first = (.ok result, middle) ∧ next result middle = (.ok value, after) := by
  obtain ⟨result, middle⟩ := first
  cases result with
  | error failure => cases succeeds
  | ok result => exact ⟨result, middle, rfl, succeeds⟩

section Maintain

variable {digests : Digests} {inner after : Inner} {readings : Readings}

/-- Sending a request that is not pending. -/
theorem start_pending {operation : Operation}
    (missing : inner.pending.find? (·.operation == operation) = none)
    (sent : inner.start digests readings operation true = (.ok (), after)) :
    SameTimers inner after ∧ ∃ pending : Pending, pending.operation = operation ∧
      pending.nextAttempt = (readings.draw operation).started + inner.transactionTimeout ∧
      after.pending = inner.pending ++ [pending] := by
  unfold Inner.start at sent
  cases started : inner.startOperation digests (readings.draw operation) operation true 0 with
  | error failure =>
    rw [started] at sent
    cases sent
  | ok next =>
    rw [started] at sent
    cases sent
    unfold Inner.startOperation at started
    rw [missing] at started
    dsimp only at started
    split at started
    · cases started
    · cases built : inner.buildRequest digests operation
          (readings.draw operation).transaction true with
      | error failure =>
        rw [built] at started
        cases started
      | ok packet =>
        rw [built] at started
        cases started
        have queued := queuePacket_eq inner packet
        constructor
        · rw [queued]
          exact ⟨rfl, rfl, rfl⟩
        · refine ⟨
            { operation
              transaction := (readings.draw operation).transaction
              packet
              nextAttempt := (readings.draw operation).started +
                (inner.queuePacket packet).transactionTimeout
              rto := initialRto
              transmissions := 1
              nonceRetries := 0
              authenticated := true }, rfl, ?_, ?_⟩
          · rw [queued]
            rfl
          · rw [queued]

/-- What a request that is due and can be sent changes. -/
theorem startDue_slot {operation : Operation} {due started : Bool}
    (succeeds : inner.startDue digests readings operation due = (.ok started, after)) :
    after.course = inner.course ∧
      (∀ other, other ≠ operation → after.slot other = inner.slot other) ∧
      after.slot operation =
        if due && (inner.slot operation).1.isNone then
          (some ((readings.draw operation).started + inner.transactionTimeout), none)
        else inner.slot operation := by
  unfold Inner.startDue at succeeds
  split at succeeds
  · rename_i asked
    rw [Bool.and_eq_true, Bool.not_eq_true', hasOperation_slot, Option.isSome_eq_false_iff,
      Option.isNone_iff_eq_none] at asked
    obtain ⟨_, middle, sent, done⟩ := andThen_ok succeeds
    cases done
    have missing : inner.pending.find? (·.operation == operation) = none :=
      Option.map_eq_none_iff.mp asked.2
    have pending : (inner.clearTimer operation).pending = inner.pending := by
      cases operation <;> rfl
    have cleared : ∀ other, (inner.clearTimer operation).timer other =
        if other = operation then none else inner.timer other := by
      intro other
      cases operation <;> cases other <;> rfl
    have course : (inner.clearTimer operation).course = inner.course := by
      cases operation <;> rfl
    have timeout : (inner.clearTimer operation).transactionTimeout = inner.transactionTimeout := by
      cases operation <;> rfl
    obtain ⟨same, request, kind, attempt, appended⟩ := start_pending (pending ▸ missing) sent
    rw [timeout] at attempt
    refine ⟨same.course.trans course, fun other different => ?_, ?_⟩
    · have absent : [request].find? (·.operation == other) = none :=
        List.find?_cons_of_neg (by simpa [kind] using Ne.symm different)
      unfold Inner.slot
      rw [same.timer, cleared, appended, pending, List.find?_append, absent, Option.or_none,
        if_neg different]
    · have found : [request].find? (·.operation == operation) = some request :=
        List.find?_cons_of_pos (by simpa using kind)
      unfold Inner.slot
      rw [same.timer, cleared, appended, pending, List.find?_append, missing, found, if_pos rfl,
        asked.1, ← attempt]
      rfl
  · rename_i idle
    cases succeeds
    refine ⟨rfl, fun _ _ => rfl, ?_⟩
    rw [hasOperation_slot, Option.not_isSome] at idle
    rw [if_neg idle]

/-- Renewing permission and channel sets their common timer and starts nothing. -/
theorem renewMaintenance_same (course : after.course = inner.course) (now : Nat) :
    let next := if reached inner.maintenanceRefresh now then after.renewMaintenance now else after
    next.course = (inner.state, inner.allocationExpiresAt,
        renewed inner.maintenanceRefresh now inner.profile.maintenanceRefresh, inner.keepalive,
        inner.profile, inner.transport, inner.shuttingDown) ∧
      ∀ operation, next.slot operation = after.slot operation := by
  obtain ⟨state, _, transport, expires, maintenance, keepalive, profile, closing⟩ :=
    course_eq course
  unfold renewed
  dsimp only
  split
  · constructor
    · rw [← state, ← expires, ← keepalive, ← profile, ← transport, ← closing]
      rfl
    · intro operation
      cases operation <;> rfl
  · exact ⟨course, fun _ => rfl⟩

/-- Keeping the channel alive starts nothing. -/
theorem renewKeepalive_same (inner : Inner) (now : Nat) (controlStarted : Bool) :
    let after := inner.renewKeepalive now controlStarted
    after.state = inner.state ∧ after.allocationExpiresAt = inner.allocationExpiresAt ∧
      after.maintenanceRefresh = inner.maintenanceRefresh ∧
      after.keepalive = some (now + inner.profile.keepaliveInterval) ∧
      ∀ operation, after.slot operation = inner.slot operation := by
  unfold Inner.renewKeepalive
  dsimp only
  split
  · exact ⟨rfl, rfl, rfl, rfl, fun operation => by cases operation <;> rfl⟩
  · unfold Inner.queueKeepalive
    split
    · exact ⟨rfl, rfl, rfl, rfl, fun operation => by cases operation <;> rfl⟩
    · rw [queuePacket_eq]
      exact ⟨rfl, rfl, rfl, rfl, fun operation => by cases operation <;> rfl⟩

/-- An operation that was started if it was due and not pending. -/
theorem startedSlot_eq {other : Inner} {operation : Operation} {due : Bool}
    {slot : Option Nat × Option Nat} (same : due = inner.due readings.now operation slot.2)
    (transport : other.transport = inner.transport) :
    (if due && slot.1.isNone then
      (some ((readings.draw operation).started + other.transactionTimeout), none)
    else slot) = inner.startedSlot readings operation slot := by
  have timeout : other.transactionTimeout = inner.transactionTimeout := by
    unfold Inner.transactionTimeout
    rw [transport]
  rw [Inner.startedSlot, timeout, ← same]

/-- What keeping permission and channel alive does to the timers. -/
theorem maintain_slot (succeeds : inner.maintain digests readings = (.ok (), after)) :
    after.state = inner.state ∧ after.allocationExpiresAt = inner.allocationExpiresAt ∧
      after.maintenanceRefresh =
        renewed inner.maintenanceRefresh readings.now inner.profile.maintenanceRefresh ∧
      after.keepalive = renewed inner.keepalive readings.now inner.profile.keepaliveInterval ∧
      ∀ operation, after.slot operation =
        inner.startedSlot readings operation (inner.slot operation) := by
  unfold Inner.maintain at succeeds
  obtain ⟨refreshed, first, refresh, afterRefresh⟩ := andThen_ok succeeds
  obtain ⟨permitted, third, permission, afterPermission⟩ := andThen_ok afterRefresh
  obtain ⟨bound, fourth, channel, last⟩ := andThen_ok afterPermission
  clear succeeds afterRefresh afterPermission
  obtain ⟨courseFirst, frameFirst, ownFirst⟩ := startDue_slot refresh
  obtain ⟨renewal, slotSecond⟩ := renewMaintenance_same courseFirst readings.now
  generalize (if reached inner.maintenanceRefresh readings.now then
    first.renewMaintenance readings.now else first) = second at permission renewal slotSecond
  obtain ⟨courseThird, frameThird, ownThird⟩ := startDue_slot permission
  obtain ⟨courseFourth, frameFourth, ownFourth⟩ := startDue_slot channel
  have transportSecond : second.transport = inner.transport :=
    congrArg (fun course => course.2.2.2.2.2.1) renewal
  have transportThird : third.transport = inner.transport :=
    congrArg (fun course => course.2.2.2.2.2.1) (courseThird.trans renewal)
  have apart : ∀ operation, operation ≠ .refresh → second.slot operation =
      inner.slot operation :=
    fun operation different => (slotSecond operation).trans (frameFirst operation different)
  have slots : ∀ operation, fourth.slot operation =
      inner.startedSlot readings operation (inner.slot operation) := by
    intro operation
    cases operation with
    | refresh =>
      rw [frameFourth _ (by decide), frameThird _ (by decide), slotSecond, ownFirst]
      exact startedSlot_eq (by simp [Inner.due, Inner.renews, Inner.slot, Inner.timer]) rfl
    | permission =>
      rw [frameFourth _ (by decide), ownThird, apart _ (by decide)]
      exact startedSlot_eq (by simp [Inner.due, Inner.renews, Inner.slot, Inner.timer]) transportSecond
    | channel =>
      rw [ownFourth, frameThird _ (by decide), apart _ (by decide)]
      exact startedSlot_eq (by simp [Inner.due, Inner.renews, Inner.slot, Inner.timer]) transportThird
    | allocate =>
      rw [frameFourth _ (by decide), frameThird _ (by decide), apart _ (by decide),
        Inner.startedSlot]
      simp [Inner.due, Inner.renews, Inner.slot, Inner.timer, reached]
    | deallocate =>
      rw [frameFourth _ (by decide), frameThird _ (by decide), apart _ (by decide),
        Inner.startedSlot]
      simp [Inner.due, Inner.renews, Inner.slot, Inner.timer, reached]
  have course := courseFourth.trans (courseThird.trans renewal)
  simp only [Inner.course, Prod.mk.injEq] at course
  obtain ⟨state, expires, maintenance, keepalive, profile, _, _⟩ := course
  split at last
  · rename_i due
    cases last
    obtain ⟨stateLast, expiresLast, maintenanceLast, keepaliveLast, slotLast⟩ :=
      renewKeepalive_same fourth readings.now (refreshed || permitted || bound)
    refine ⟨stateLast.trans state, expiresLast.trans expires, maintenanceLast.trans maintenance,
      ?_, fun operation => (slotLast operation).trans (slots operation)⟩
    rw [keepaliveLast, profile, renewed, ← keepalive, if_pos due]
  · rename_i early
    cases last
    refine ⟨state, expires, maintenance, ?_, slots⟩
    rw [renewed, ← keepalive, if_neg early]

end Maintain

/-- The times that `next_deadline` considers. -/
def Inner.deadlines (inner : Inner) : List Nat :=
  inner.pending.map Pending.nextAttempt ++ inner.allocationRefresh.toList ++
    inner.maintenanceRefresh.toList ++ inner.permissionRetry.toList ++
    inner.channelRetry.toList ++ inner.keepalive.toList

/-- `next_deadline` is the first of them. -/
theorem nextDeadline_eq (inner : Inner) : inner.nextDeadline = inner.deadlines.min? := rfl

/-- The times an operation waits for. -/
def times (slot : Option Nat × Option Nat) : List Nat := slot.1.toList ++ slot.2.toList

/-- A time that `next_deadline` considers belongs to an operation, to the renewal of permission and
channel, or to the keepalive. -/
theorem mem_deadlines {inner : Inner} (once : (inner.pending.map Pending.operation).Nodup)
    (deadline : Nat) :
    deadline ∈ inner.deadlines ↔ (∃ operation, deadline ∈ times (inner.slot operation)) ∨
      inner.maintenanceRefresh = some deadline ∨ inner.keepalive = some deadline := by
  simp only [Inner.deadlines, times, List.mem_append, Option.mem_toList, List.mem_map]
  constructor
  · rintro (((((⟨request, member, rfl⟩ | refresh) | maintenance) | permission) | channel) |
      keepalive)
    · refine .inl ⟨request.operation, .inl ?_⟩
      show Option.map _ _ = _
      rw [Vec.find?_key once member]
      rfl
    · exact .inl ⟨.refresh, .inr refresh⟩
    · exact .inr (.inl maintenance)
    · exact .inl ⟨.permission, .inr permission⟩
    · exact .inl ⟨.channel, .inr channel⟩
    · exact .inr (.inr keepalive)
  · rintro (⟨operation, attempt | timer⟩ | maintenance | keepalive)
    · obtain ⟨request, found, rfl⟩ := Option.map_eq_some_iff.mp attempt
      exact .inl (.inl (.inl (.inl (.inl ⟨request, List.mem_of_find?_eq_some found, rfl⟩))))
    · cases operation with
      | refresh => exact .inl (.inl (.inl (.inl (.inr timer))))
      | permission => exact .inl (.inl (.inr timer))
      | channel => exact .inl (.inr timer)
      | allocate => cases timer
      | deallocate => cases timer
    · exact .inl (.inl (.inl (.inr maintenance)))
    · exact .inr keepalive

/-- A client that keeps nothing alive may still have the timer of the refresh. -/
theorem Stilled.deadlines {inner : Inner} (stilled : Stilled inner) :
    inner.deadlines = inner.allocationRefresh.toList := by
  rw [Inner.deadlines, stilled.pending, stilled.maintenance, stilled.permission, stilled.channel,
    stilled.keepalive]
  simp

/-- Whether the channel fails once too often in a poll. -/
def Inner.exhausts (inner : Inner) (now : Nat) : Prop :=
  inner.drops now .channel = true ∧ inner.wornOut .channel

instance decidableExhausts (inner : Inner) (now : Nat) : Decidable (inner.exhausts now) :=
  inferInstanceAs (Decidable (_ ∧ _))

/-- What a poll can do. -/
inductive Polled (inner : Inner) (readings : Readings) (after : Inner) : Prop where
  /-- Without an allocation that is kept, requests are sent again. -/
  | idle (unready : inner.state ≠ .ready)
      (kept : ∀ operation, inner.drops readings.now operation = false)
      (state : after.state ≠ .ready)
      (maintenance : after.maintenanceRefresh = inner.maintenanceRefresh)
      (keepalive : after.keepalive = inner.keepalive)
      (slots : ∀ operation, after.slot operation = inner.expiredSlot readings.now operation)
  /-- The allocation is lost with a request, or because it has ended. -/
  | lost (why : inner.state ≠ .ready ∧ (∃ operation, inner.drops readings.now operation = true) ∨
        inner.state = .ready ∧ inner.live readings.now = false)
      (stilled : Stilled after) (refresh : after.allocationRefresh = none)
  /-- The channel has failed too often. -/
  | wornOut (ready : inner.state = .ready) (live : inner.live readings.now = true)
      (exhausts : inner.exhausts readings.now) (stilled : Stilled after)
      (refresh : reached after.allocationRefresh readings.now =
        reached inner.allocationRefresh readings.now)
  /-- The allocation is kept alive. -/
  | served (ready : inner.state = .ready) (live : inner.live readings.now = true)
      (fresh : ¬inner.exhausts readings.now) (state : after.state = .ready)
      (expires : after.allocationExpiresAt = inner.allocationExpiresAt)
      (maintenance : after.maintenanceRefresh =
        renewed inner.maintenanceRefresh readings.now inner.profile.maintenanceRefresh)
      (keepalive : after.keepalive =
        renewed inner.keepalive readings.now inner.profile.keepaliveInterval)
      (slots : ∀ operation, after.slot operation =
        inner.startedSlot readings operation (inner.expiredSlot readings.now operation))

/-- How long a client waits for its next deadline. -/
def Inner.waits (inner : Inner) (now : Nat) : Option Nat :=
  inner.nextDeadline.map fun deadline => max (deadline - now) (millis 1)

section Poll

variable {digests : Digests} {inner : Inner} {readings : Readings}

/-- Whether a request is given up. -/
theorem drops_iff (now : Nat) (operation : Operation) :
    inner.drops now operation = true ↔ ∃ pending ∈ inner.pending,
      pending.operation = operation ∧ pending.expired inner.transport now = none := by
  unfold Inner.drops dropped
  simp only [List.any_eq_true, Bool.and_eq_true, beq_iff_eq, Option.isNone_iff_eq_none]

/-- A poll without an allocation after the loop. -/
theorem poll_unready (alive : inner.destroyed = false)
    (unready : (inner.expireTransactions readings.now).state ≠ .ready) :
    inner.poll digests readings =
      (.ok ((inner.expireTransactions readings.now).waits readings.now),
        inner.expireTransactions readings.now) := by
  unfold Inner.poll
  rw [alive, if_neg Bool.false_ne_true]
  dsimp only
  have other : ((inner.expireTransactions readings.now).state == .ready) = false :=
    beq_false_of_ne unready
  rw [other, Bool.and_false, Bool.false_and, if_neg Bool.false_ne_true, other, Bool.and_false,
    if_neg Bool.false_ne_true]
  rfl

/-- A poll when the allocation has ended. -/
theorem poll_ended (alive : inner.destroyed = false)
    (ready : (inner.expireTransactions readings.now).state = .ready)
    (wanted : (inner.expireTransactions readings.now).shuttingDown = false)
    (ended : reached (inner.expireTransactions readings.now).allocationExpiresAt readings.now =
      true) :
    ∃ after, inner.poll digests readings = (.ok (after.waits readings.now), after) ∧
      Stilled after ∧ after.allocationRefresh = none := by
  obtain ⟨stilled, refresh⟩ := destroyAllocation_stilled
    (inner.expireTransactions readings.now) .refresh resultTimeout 0
  refine ⟨_, ?_, stilled, refresh⟩
  unfold Inner.poll
  rw [alive, if_neg Bool.false_ne_true]
  dsimp only
  have all : (!false && TurnState.ready == TurnState.ready && true) = true := rfl
  rw [ready, wanted, ended, if_pos all, beq_false_of_ne stilled.state, Bool.and_false,
    if_neg Bool.false_ne_true]
  rfl

/-- A poll with a live allocation after the loop. -/
theorem poll_live (alive : inner.destroyed = false)
    (ready : (inner.expireTransactions readings.now).state = .ready)
    (wanted : (inner.expireTransactions readings.now).shuttingDown = false)
    (live : reached (inner.expireTransactions readings.now).allocationExpiresAt readings.now =
      false) :
    inner.poll digests readings =
      andThen ((inner.expireTransactions readings.now).maintain digests readings)
        fun _ inner => (.ok (inner.waits readings.now), inner) := by
  unfold Inner.poll
  rw [alive, if_neg Bool.false_ne_true]
  dsimp only
  rw [live, Bool.and_false, if_neg Bool.false_ne_true, ready, wanted]
  rfl

/-- What the loop leaves each operation to wait for when requests that are given up will be
repeated. -/
theorem expireTransactions_slot (once : (inner.pending.map Pending.operation).Nodup) {now : Nat}
    (retries : ∀ pending ∈ inner.pending, pending.expired inner.transport now = none →
      inner.retries pending.operation now) :
    (inner.expireTransactions now).course = inner.course ∧
      ∀ operation, (inner.expireTransactions now).slot operation =
        inner.expiredSlot now operation := by
  obtain ⟨course, kept, timers⟩ := expireLoop_retried inner.pending inner [] inner.pending.length
    rfl (Nat.le_refl _) once retries
  refine ⟨course, fun operation => ?_⟩
  change (inner.expireTransactions now).pending = _ at kept
  have timer : (inner.expireTransactions now).timer operation = _ := timers operation
  rw [Inner.slot, kept, timer, List.nil_append, find?_expired _ _ _ once]
  rfl

/-- Starting what is due depends on the course only. -/
theorem startedSlot_congr {other : Inner} (course : other.course = inner.course)
    (operation : Operation) (slot : Option Nat × Option Nat) :
    other.startedSlot readings operation slot = inner.startedSlot readings operation slot := by
  obtain ⟨_, _, transport, _, maintenance, _⟩ := course_eq course
  unfold Inner.startedSlot Inner.due Inner.renews Inner.transactionTimeout
  rw [transport, maintenance]

/-- An allocation without time left has ended. -/
theorem reached_expires (expires : inner.allocationExpiresAt.isSome) (now : Nat) :
    reached inner.allocationExpiresAt now = !inner.live now := by
  obtain ⟨deadline, set⟩ := Option.isSome_iff_exists.mp expires
  unfold reached Inner.live
  rw [set, Option.any_some, Option.any_some, ← decide_not, decide_eq_decide, Nat.not_lt]

section Polled

variable {limited : Prop} {profile : CsqttTurnProfile} {time : Option Nat} {after : Inner}

/-- A poll that gives up a request without a live allocation drops everything. -/
theorem polled_lost (sound : Sound False ⟨none, inner⟩) {pending : Pending}
    (member : pending ∈ inner.pending)
    (gone : pending.expired inner.transport readings.now = none)
    (unheld : ¬(inner.state = .ready ∧ inner.live readings.now = true))
    (succeeds : inner.poll digests readings = (.ok time, after)) :
    time = after.waits readings.now ∧ Polled inner readings after := by
  obtain ⟨stilled, refresh⟩ := expireLoop_lost inner.pending inner [] inner.pending.length
    rfl (Nat.le_refl _) unheld ⟨pending, member, gone⟩
  rw [poll_unready sound.undestroyed stilled.state] at succeeds
  cases succeeds
  refine ⟨rfl, .lost ?_ stilled refresh⟩
  by_cases ready : inner.state = .ready
  · exact .inr ⟨ready, Bool.eq_false_of_not_eq_true (fun live => unheld ⟨ready, live⟩)⟩
  · exact .inl ⟨ready, pending.operation, (drops_iff _ _).mpr ⟨pending, member, rfl, gone⟩⟩

/-- The requests that are pending are for the state of the client. -/
theorem phase_of_sound (sound : Sound False ⟨none, inner⟩) {pending : Pending}
    (member : pending ∈ inner.pending) : pending.operation.phase = inner.state :=
  sound.phase (pending.operation, pending.authenticated) (List.mem_map_of_mem member)

/-- A poll in which the channel fails once too often drops everything but a refresh that is to be
repeated. -/
theorem polled_wornOut (steady : Steady digests limited profile inner)
    (sound : Sound False ⟨none, inner⟩) (ready : inner.state = .ready)
    (live : inner.live readings.now = true) (exhausts : inner.exhausts readings.now)
    (succeeds : inner.poll digests readings = (.ok time, after)) :
    time = after.waits readings.now ∧ Polled inner readings after := by
  obtain ⟨stilled, refreshed⟩ := expireLoop_wornOut inner.pending inner []
    inner.pending.length rfl (Nat.le_refl _) steady.once ready live
    (fun pending member => (phase_of_sound sound member).trans ready) exhausts.2 exhausts.1
  rw [poll_unready sound.undestroyed stilled.state] at succeeds
  cases succeeds
  refine ⟨rfl, .wornOut ready live exhausts stilled ?_⟩
  show reached (inner.expireLoop _ _ _).allocationRefresh _ = _
  rcases refreshed with same | ⟨given, time, set, ahead⟩
  · exact congrArg (reached · readings.now) same
  · -- a refresh that was pending had no timer
    obtain ⟨pending, member, kind, _⟩ := (drops_iff _ _).mp given
    have idle : inner.allocationRefresh = none := by
      cases timer : inner.allocationRefresh with
      | none => rfl
      | some time =>
        exact absurd kind (hasOperation_false.mp (steady.single (timer ▸ rfl)) pending member)
    rw [idle]
    exact (congrArg (reached · readings.now) set).trans
      (decide_eq_false (Nat.not_le.mpr ahead))

/-- A poll that repeats what it gives up serves a ready client as long as its allocation lasts. -/
theorem polled_served (steady : Steady digests limited profile inner)
    (sound : Sound False ⟨none, inner⟩) (ready : inner.state = .ready)
    (retries : ∀ pending ∈ inner.pending, pending.expired inner.transport readings.now = none →
      inner.retries pending.operation readings.now)
    (lasts : inner.live readings.now = true → ¬inner.exhausts readings.now)
    (succeeds : inner.poll digests readings = (.ok time, after)) :
    time = after.waits readings.now ∧ Polled inner readings after := by
  obtain ⟨course, slots⟩ := expireTransactions_slot steady.once retries
  obtain ⟨state, _, _, expires, maintenance, keepalive, profile, closing⟩ := course_eq course
  have wanted : (inner.expireTransactions readings.now).shuttingDown = false := by
    rw [closing]
    exact Bool.eq_false_of_not_eq_true (fun shut => sound.closing shut ready)
  have ended := reached_expires (sound.ready ready).2.1 readings.now
  rw [← expires] at ended
  cases timely : inner.live readings.now with
  | false =>
    rw [timely] at ended
    obtain ⟨last, polls, stilled, refresh⟩ :=
      poll_ended sound.undestroyed (state.trans ready) wanted ended
    rw [polls] at succeeds
    cases succeeds
    exact ⟨rfl, .lost (.inr ⟨ready, timely⟩) stilled refresh⟩
  | true =>
    rw [timely] at ended
    rw [poll_live sound.undestroyed (state.trans ready) wanted ended] at succeeds
    obtain ⟨_, last, maintained, done⟩ := andThen_ok succeeds
    cases done
    obtain ⟨stateLast, expiresLast, maintenanceLast, keepaliveLast, slotLast⟩ :=
      maintain_slot maintained
    refine ⟨rfl, .served ready timely (lasts timely) (stateLast.trans (state.trans ready))
      (expiresLast.trans expires) ?_ ?_ ?_⟩
    · rw [maintenanceLast, maintenance, profile]
    · rw [keepaliveLast, keepalive, profile]
    · intro operation
      rw [slotLast, slots, startedSlot_congr course]

/-- A poll that gives up no request of a client that is not ready only sends requests again. -/
theorem polled_idle (steady : Steady digests limited profile inner)
    (sound : Sound False ⟨none, inner⟩) (unready : inner.state ≠ .ready)
    (kept : ∀ pending ∈ inner.pending, pending.expired inner.transport readings.now ≠ none)
    (succeeds : inner.poll digests readings = (.ok time, after)) :
    time = after.waits readings.now ∧ Polled inner readings after := by
  obtain ⟨course, slots⟩ := expireTransactions_slot steady.once
    (fun pending member gone => absurd gone (kept pending member))
  obtain ⟨state, _, _, _, maintenance, keepalive, _⟩ := course_eq course
  have still : (inner.expireTransactions readings.now).state ≠ .ready := state ▸ unready
  rw [poll_unready sound.undestroyed still] at succeeds
  cases succeeds
  refine ⟨rfl, .idle unready ?_ still maintenance keepalive slots⟩
  intro operation
  apply Bool.eq_false_of_not_eq_true
  intro given
  obtain ⟨pending, member, _, gone⟩ := (drops_iff _ _).mp given
  exact kept pending member gone

/-- What a poll does. -/
theorem polled (steady : Steady digests limited profile inner) (sound : Sound False ⟨none, inner⟩)
    (succeeds : inner.poll digests readings = (.ok time, after)) :
    time = after.waits readings.now ∧ Polled inner readings after := by
  by_cases held : inner.state = .ready ∧ inner.live readings.now = true
  · obtain ⟨ready, live⟩ := held
    by_cases exhausts : inner.exhausts readings.now
    · exact polled_wornOut steady sound ready live exhausts succeeds
    · apply polled_served steady sound ready _ (fun _ => exhausts) succeeds
      intro pending member gone
      refine ⟨(phase_of_sound sound member).trans ready, ready, live, fun out => exhausts ⟨?_, ?_⟩⟩
      · exact (drops_iff _ _).mpr ⟨pending, member, out.1, gone⟩
      · exact out.1 ▸ out
  · by_cases given : ∃ pending ∈ inner.pending,
        pending.expired inner.transport readings.now = none
    · obtain ⟨pending, member, gone⟩ := given
      exact polled_lost sound member gone held succeeds
    · have kept : ∀ pending ∈ inner.pending,
          pending.expired inner.transport readings.now ≠ none :=
        fun pending member gone => given ⟨pending, member, gone⟩
      by_cases ready : inner.state = .ready
      · apply polled_served steady sound ready _ (fun live => absurd ⟨ready, live⟩ held) succeeds
        exact fun pending member gone => absurd gone (kept pending member)
      · exact polled_idle steady sound ready kept succeeds

end Polled

end Poll

end Focsq.Turn
