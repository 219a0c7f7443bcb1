import Focsq.Verif.TurnPoll

/-!
# Deadlines after a poll

`poll` answers how long to wait for the next of the times that `next_deadline` considers. A timer
that is due but that the poll does not reset makes this the shortest wait of a millisecond; and the
end of the allocation, which a poll acts on, is not among the times considered.
-/

namespace Focsq.Turn

/-- A deadline that is set is ahead. -/
theorem reached_false_iff {deadline : Option Nat} {now : Nat} :
    reached deadline now = false ↔ ∀ time ∈ deadline, now < time := by
  cases deadline with
  | none => exact ⟨fun _ _ member => absurd member (Option.not_mem_none _), fun _ => rfl⟩
  | some time =>
    rw [reached, Option.any_some, decide_eq_false_iff_not, Nat.not_le]
    exact ⟨fun ahead _ member => Option.mem_some_iff.mp member ▸ ahead, fun all => all time rfl⟩

/-- A renewed timer is ahead. -/
theorem reached_renewed {timer : Option Nat} {now interval : Nat} (positive : 0 < interval) :
    reached (renewed timer now interval) now = false := by
  unfold renewed
  split
  · exact decide_eq_false (by omega)
  · rename_i early
    exact Bool.eq_false_of_not_eq_true early

/-- A request that is not given up is attempted later. -/
theorem expired_ahead {transport : TurnControlTransport} {now : Nat} {pending next : Pending}
    (kept : pending.expired transport now = some next) (spaced : 0 < pending.rto) :
    now < next.nextAttempt := by
  unfold Pending.expired at kept
  split at kept
  · rename_i waits
    cases kept
    exact waits
  · split at kept
    · cases kept
    · cases kept
      have positive : 0 < min (pending.rto * 2) maxRto := by
        unfold maxRto millis
        omega
      show now < now + min (pending.rto * 2) maxRto
      omega

section Slots

variable {inner : Inner} {now : Nat} {operation : Operation}

/-- An operation without a pending request is not pending. -/
theorem free_of_none (now : Nat)
    (missing : inner.pending.find? (·.operation == operation) = none) :
    inner.hasOperation operation = false ∧ inner.drops now operation = false := by
  have others : ∀ request ∈ inner.pending, request.operation ≠ operation :=
    fun request member same => List.find?_eq_none.mp missing request member (beq_iff_eq.mpr same)
  exact ⟨hasOperation_false.mpr others, dropped_none others⟩

/-- An operation that is not pending has no pending request. -/
theorem none_of_free (free : inner.hasOperation operation = false) :
    inner.pending.find? (·.operation == operation) = none := by
  rw [← Option.not_isSome_iff_eq_none, ← hasOperation_iff, free]
  exact nofun

/-- An operation with a pending request is given up with it. -/
theorem held_of_some (now : Nat) (once : (inner.pending.map Pending.operation).Nodup)
    {pending : Pending}
    (found : inner.pending.find? (·.operation == operation) = some pending) :
    inner.hasOperation operation = true ∧
      (inner.drops now operation = true ↔ pending.expired inner.transport now = none) := by
  have member := List.mem_of_find?_eq_some found
  have kind : pending.operation = operation := beq_iff_eq.mp (List.find?_some
    (p := fun pending : Pending => pending.operation == operation) found)
  constructor
  · rw [hasOperation_slot, Inner.slot, found]
    rfl
  · rw [drops_iff]
    constructor
    · rintro ⟨other, among, same, gone⟩
      have alone := Vec.find?_key once among
      rw [same, found] at alone
      cases alone
      exact gone
    · exact fun gone => ⟨pending, member, kind, gone⟩

/-- The loop leaves an operation alone that is not pending. -/
theorem expiredSlot_free (missing : inner.pending.find? (·.operation == operation) = none) :
    inner.expiredSlot now operation = (none, inner.timer operation) := by
  rw [Inner.expiredSlot, missing, (free_of_none now missing).2]
  rfl

/-- The loop leaves the timer alone of an operation whose request is not given up. -/
theorem expiredSlot_kept (once : (inner.pending.map Pending.operation).Nodup)
    {pending next : Pending}
    (found : inner.pending.find? (·.operation == operation) = some pending)
    (kept : pending.expired inner.transport now = some next) :
    inner.expiredSlot now operation = (some next.nextAttempt, inner.timer operation) := by
  have stays : ¬inner.drops now operation = true := by
    rw [(held_of_some _ once found).2, kept]
    exact nofun
  rw [Inner.expiredSlot, found, Option.bind_some, kept, if_neg stays]
  rfl

/-- The loop sets the timer of an operation whose request is given up. -/
theorem expiredSlot_gone (once : (inner.pending.map Pending.operation).Nodup) {pending : Pending}
    (found : inner.pending.find? (·.operation == operation) = some pending)
    (gone : pending.expired inner.transport now = none) :
    inner.expiredSlot now operation = (none, some (inner.retryAt now operation)) := by
  rw [Inner.expiredSlot, found, Option.bind_some, gone,
    if_pos ((held_of_some _ once found).2.mpr gone)]
  rfl

/-- What an operation waits for is ahead when its attempt and its timer are. -/
theorem times_ahead {slot : Option Nat × Option Nat} :
    (∀ time ∈ times slot, now < time) ↔
      (∀ attempt ∈ slot.1, now < attempt) ∧ reached slot.2 now = false := by
  rw [reached_false_iff]
  simp only [times, List.mem_append, Option.mem_toList]
  constructor
  · exact fun all => ⟨fun time attempt => all time (.inl attempt),
      fun time set => all time (.inr set)⟩
  · rintro ⟨attempts, timer⟩ time (attempt | set)
    · exact attempts time attempt
    · exact timer time set

/-- What an operation waits for after the loop is ahead when its timer is, as long as its request
is not given up. -/
theorem expiredSlot_ahead (once : (inner.pending.map Pending.operation).Nodup)
    (spaced : ∀ pending ∈ inner.pending, 0 < pending.rto)
    (stays : inner.drops now operation = false) :
    (∀ time ∈ times (inner.expiredSlot now operation), now < time) ↔
      reached (inner.timer operation) now = false := by
  rw [times_ahead]
  cases found : inner.pending.find? (·.operation == operation) with
  | none =>
    rw [expiredSlot_free found]
    exact and_iff_right nofun
  | some pending =>
    cases fate : pending.expired inner.transport now with
    | none =>
      rw [(held_of_some _ once found).2.mpr fate] at stays
      cases stays
    | some next =>
      rw [expiredSlot_kept once found fate]
      have ahead := expired_ahead fate (spaced pending (List.mem_of_find?_eq_some found))
      exact and_iff_right (fun attempt same => Option.mem_some_iff.mp same ▸ ahead)

variable {readings : Readings}

/-- What an operation that was not pending waits for after a poll. -/
theorem polledSlot_free (missing : inner.pending.find? (·.operation == operation) = none) :
    inner.startedSlot readings operation (inner.expiredSlot readings.now operation) =
      if inner.due readings.now operation (inner.timer operation) then
        (some ((readings.draw operation).started + inner.transactionTimeout), none)
      else (none, inner.timer operation) := by
  rw [Inner.startedSlot, expiredSlot_free missing, Option.isNone_none, Bool.and_true]

/-- What an operation whose request is not given up waits for after a poll. -/
theorem polledSlot_kept (once : (inner.pending.map Pending.operation).Nodup)
    {pending next : Pending}
    (found : inner.pending.find? (·.operation == operation) = some pending)
    (kept : pending.expired inner.transport readings.now = some next) :
    inner.startedSlot readings operation (inner.expiredSlot readings.now operation) =
      (some next.nextAttempt, inner.timer operation) := by
  rw [Inner.startedSlot, expiredSlot_kept once found kept, Option.isNone_some, Bool.and_false,
    if_neg Bool.false_ne_true]

/-- What an operation whose request is given up waits for after a poll. -/
theorem polledSlot_gone (once : (inner.pending.map Pending.operation).Nodup) {pending : Pending}
    (found : inner.pending.find? (·.operation == operation) = some pending)
    (gone : pending.expired inner.transport readings.now = none) :
    inner.startedSlot readings operation (inner.expiredSlot readings.now operation) =
      if inner.renews readings.now operation then
        (some ((readings.draw operation).started + inner.transactionTimeout), none)
      else (none, some (inner.retryAt readings.now operation)) := by
  have early : reached (some (inner.retryAt readings.now operation)) readings.now = false :=
    decide_eq_false (Nat.not_le.mpr (lt_retryAt inner readings.now operation))
  rw [Inner.startedSlot, expiredSlot_gone once found gone, Option.isNone_none, Bool.and_true,
    Inner.due, early, Bool.or_false]

/-- What an operation waits for after a poll is ahead, unless its timer is due and its request is
pending and not given up. -/
theorem polledSlot_ahead (once : (inner.pending.map Pending.operation).Nodup)
    (spaced : ∀ pending ∈ inner.pending, 0 < pending.rto)
    (clock : readings.now ≤ (readings.draw operation).started) :
    (∀ time ∈ times (inner.startedSlot readings operation
        (inner.expiredSlot readings.now operation)), readings.now < time) ↔
      (reached (inner.timer operation) readings.now = true →
        inner.hasOperation operation = true → inner.drops readings.now operation = true) := by
  have sent : ∀ attempt ∈ some ((readings.draw operation).started + inner.transactionTimeout),
      readings.now < attempt := by
    have timeout : 0 < inner.transactionTimeout := by
      unfold Inner.transactionTimeout
      cases inner.transport <;> decide
    intro attempt same
    rw [← Option.mem_some_iff.mp same]
    omega
  rw [times_ahead]
  cases found : inner.pending.find? (·.operation == operation) with
  | none =>
    have free := (free_of_none readings.now found).1
    rw [polledSlot_free found, free]
    refine ⟨fun _ _ never => (Bool.false_ne_true never).elim, fun _ => ?_⟩
    split
    · exact ⟨sent, rfl⟩
    · rename_i idle
      rw [Inner.due, Bool.or_eq_true, not_or, Bool.not_eq_true] at idle
      refine ⟨(fun _ never => by cases never), ?_⟩
      exact Bool.eq_false_of_not_eq_true idle.2
  | some pending =>
    obtain ⟨has, given⟩ := held_of_some readings.now once found
    rw [has]
    cases fate : pending.expired inner.transport readings.now with
    | some next =>
      have stays : ¬inner.drops readings.now operation = true := by
        rw [given, fate]
        exact Option.some_ne_none next
      have ahead := expired_ahead fate (spaced pending (List.mem_of_find?_eq_some found))
      rw [polledSlot_kept once found fate]
      constructor
      · rintro ⟨_, early⟩ due _
        rw [early] at due
        cases due
      · intro idle
        refine ⟨fun attempt same => Option.mem_some_iff.mp same ▸ ahead, ?_⟩
        exact Bool.eq_false_of_not_eq_true (fun due => stays (idle due rfl))
    | none =>
      rw [polledSlot_gone once found fate]
      refine ⟨fun _ _ _ => given.mpr fate, fun _ => ?_⟩
      split
      · exact ⟨sent, rfl⟩
      · refine ⟨(fun _ never => by cases never), ?_⟩
        exact decide_eq_false (Nat.not_le.mpr (lt_retryAt inner _ operation))

end Slots

/-- When a poll leaves no timer behind that is due: when the allocation is lost, or when all timers
that are due belong to operations that can be started. -/
def Inner.KeepsUp (inner : Inner) (now : Nat) : Prop :=
  if inner.state = .ready then
    inner.live now = true →
      if inner.exhausts now then reached inner.allocationRefresh now = false
      else
        ∀ operation, reached (inner.timer operation) now = true →
          inner.hasOperation operation = true → inner.drops now operation = true
  else
    (∃ operation, inner.drops now operation = true) ∨
      (∀ operation, reached (inner.timer operation) now = false) ∧
        reached inner.maintenanceRefresh now = false ∧ reached inner.keepalive now = false

section Poll

variable {digests : Digests} {limited : Prop} {profile : CsqttTurnProfile} {inner : Inner}
  {readings : Readings}

/-- A poll that keeps up leaves all deadlines ahead, and no other poll does. -/
theorem ahead_iff (steady : Steady digests limited profile inner)
    (positive : 0 < profile.maintenanceRefresh ∧ 0 < profile.keepaliveInterval)
    (clock : ∀ operation, readings.now ≤ (readings.draw operation).started) {after : Inner}
    (once : (after.pending.map Pending.operation).Nodup) (outcome : Polled inner readings after) :
    (∀ deadline ∈ after.deadlines, readings.now < deadline) ↔ inner.KeepsUp readings.now := by
  have apart : (∀ deadline ∈ after.deadlines, readings.now < deadline) ↔
      (∀ operation, ∀ time ∈ times (after.slot operation), readings.now < time) ∧
        reached after.maintenanceRefresh readings.now = false ∧
          reached after.keepalive readings.now = false := by
    simp only [mem_deadlines once, reached_false_iff, Option.mem_def]
    constructor
    · intro all
      exact ⟨fun operation time member => all time (.inl ⟨operation, member⟩),
        fun time set => all time (.inr (.inl set)), fun time set => all time (.inr (.inr set))⟩
    · rintro ⟨slots, maintenance, keepalive⟩ deadline (⟨operation, member⟩ | set | set)
      · exact slots operation deadline member
      · exact maintenance deadline set
      · exact keepalive deadline set
  unfold Inner.KeepsUp
  cases outcome with
  | idle unready kept state maintenance keepalive slots =>
    have none : ¬∃ operation, inner.drops readings.now operation = true := by
      rintro ⟨operation, given⟩
      rw [kept operation] at given
      cases given
    rw [if_neg unready, apart, maintenance, keepalive, or_iff_right none]
    apply and_congr_left'
    apply forall_congr'
    intro operation
    rw [slots, expiredSlot_ahead steady.once steady.spaced (kept operation)]
  | lost why stilled refresh =>
    rw [stilled.deadlines, refresh]
    constructor
    · intro _
      rcases why with ⟨unready, given⟩ | ⟨ready, dead⟩
      · rw [if_neg unready]
        exact .inl given
      · rw [if_pos ready]
        intro live
        rw [dead] at live
        cases live
    · intro _ deadline member
      cases member
  | wornOut ready live exhausts stilled refresh =>
    rw [stilled.deadlines, if_pos ready, if_pos exhausts, ← refresh, reached_false_iff]
    simp only [Option.mem_toList, Option.mem_def]
    exact ⟨fun all _ => all, fun all => all live⟩
  | served ready live fresh state expires maintenance keepalive slots =>
    have renewals := positive
    rw [← steady.profile] at renewals
    rw [if_pos ready, if_neg fresh, apart, maintenance, keepalive,
      reached_renewed renewals.1, reached_renewed renewals.2]
    simp only [slots, polledSlot_ahead steady.once steady.spaced (clock _)]
    exact ⟨fun all _ => all.1, fun all => ⟨all live, trivial, trivial⟩⟩

/-- What is waited for ends with the next deadline, but not within a millisecond. -/
theorem waits_le_iff (after : Inner) {now limit : Nat} (room : now + millis 1 ≤ limit) :
    (∃ wait, after.waits now = some wait ∧ now + wait ≤ limit) ↔
      ∃ deadline ∈ after.deadlines, deadline ≤ limit := by
  unfold Inner.waits
  rw [nextDeadline_eq]
  constructor
  · rintro ⟨wait, waited, inside⟩
    obtain ⟨deadline, first, rfl⟩ := Option.map_eq_some_iff.mp waited
    refine ⟨deadline, (List.min?_eq_some_iff.mp first).1, ?_⟩
    have bound := Nat.le_max_left (deadline - now) (millis 1)
    omega
  · rintro ⟨deadline, member, inside⟩
    cases first : after.deadlines.min? with
    | none =>
      rw [List.min?_eq_none_iff.mp first] at member
      cases member
    | some least =>
      have earlier := (List.min?_eq_some_iff.mp first).2 deadline member
      refine ⟨_, rfl, ?_⟩
      show now + max (least - now) (millis 1) ≤ limit
      rcases Nat.le_total (least - now) (millis 1) with short | long
      · rw [Nat.max_eq_right short]
        exact room
      · rw [Nat.max_eq_left long]
        omega

/-- The times of the next polls, told before a poll that keeps the allocation alive. -/
inductive Inner.Alarm (inner : Inner) (readings : Readings) : Nat → Prop where
  /-- The next attempt of a pending request that is not due. -/
  | waits {pending : Pending} (among : pending ∈ inner.pending)
      (early : readings.now < pending.nextAttempt) : inner.Alarm readings pending.nextAttempt
  /-- The next attempt of a pending request that is sent again. -/
  | again {pending : Pending} (among : pending ∈ inner.pending)
      (due : ¬readings.now < pending.nextAttempt)
      (young : ¬(maxTransmissions ≤ pending.transmissions ∨ inner.transport = .stream)) :
      inner.Alarm readings (readings.now + min (pending.rto * 2) maxRto)
  /-- The first attempt of an operation that is due and not pending. -/
  | starts {operation : Operation} (free : inner.hasOperation operation = false)
      (due : inner.due readings.now operation (inner.timer operation) = true) :
      inner.Alarm readings ((readings.draw operation).started + inner.transactionTimeout)
  /-- The timer of an operation that is neither due nor pending. -/
  | stays {operation : Operation} {time : Nat} (free : inner.hasOperation operation = false)
      (early : inner.due readings.now operation (inner.timer operation) = false)
      (set : inner.timer operation = some time) : inner.Alarm readings time
  /-- The timer of an operation that is pending and not given up. -/
  | holds {operation : Operation} {time : Nat} (held : inner.hasOperation operation = true)
      (kept : inner.drops readings.now operation = false)
      (set : inner.timer operation = some time) : inner.Alarm readings time
  /-- The first attempt of an operation that is given up, and renewed together with the others. -/
  | renews {operation : Operation} (gone : inner.drops readings.now operation = true)
      (due : inner.renews readings.now operation = true) :
      inner.Alarm readings ((readings.draw operation).started + inner.transactionTimeout)
  /-- The next attempt of an operation that is given up. -/
  | retries {operation : Operation} (gone : inner.drops readings.now operation = true)
      (early : inner.renews readings.now operation = false) :
      inner.Alarm readings (inner.retryAt readings.now operation)
  /-- The next renewal of permission and channel. -/
  | maintenance {time : Nat} (set : renewed inner.maintenanceRefresh readings.now
      inner.profile.maintenanceRefresh = some time) : inner.Alarm readings time
  /-- The next keepalive. -/
  | keepalive {time : Nat} (set : renewed inner.keepalive readings.now
      inner.profile.keepaliveInterval = some time) : inner.Alarm readings time

/-- The first time of a slot is one of its times. -/
theorem mem_times_first {slot : Option Nat × Option Nat} {time : Nat} (set : slot.1 = some time) :
    time ∈ times slot := by
  rw [times, set]
  exact List.mem_cons_self

/-- The second time of a slot is one of its times. -/
theorem mem_times_second {slot : Option Nat × Option Nat} {time : Nat} (set : slot.2 = some time) :
    time ∈ times slot := by
  rw [times, set]
  exact List.mem_append_right _ List.mem_cons_self

/-- The next attempt of a request that the poll keeps was told before. -/
theorem alarm_kept {pending next : Pending} {readings : Readings} (among : pending ∈ inner.pending)
    (fate : pending.expired inner.transport readings.now = some next) :
    inner.Alarm readings next.nextAttempt := by
  unfold Pending.expired at fate
  split at fate
  · rename_i early
    cases fate
    exact .waits among early
  · rename_i due
    split at fate
    · cases fate
    · rename_i young
      cases fate
      exact .again among due young

/-- The times of an operation after the poll were told before. -/
theorem alarm_of_slot (once : (inner.pending.map Pending.operation).Nodup) {time : Nat}
    {operation : Operation}
    (member : time ∈ times (inner.startedSlot readings operation
      (inner.expiredSlot readings.now operation))) :
    inner.Alarm readings time := by
  cases found : inner.pending.find? (·.operation == operation) with
  | none =>
    obtain ⟨free, _⟩ := free_of_none readings.now found
    rw [polledSlot_free found] at member
    split at member
    · rename_i due
      rw [List.mem_singleton.mp member]
      exact .starts free due
    · rename_i early
      exact .stays free (Bool.eq_false_of_not_eq_true early) (Option.mem_toList.mp member)
  | some pending =>
    obtain ⟨held, given⟩ := held_of_some readings.now once found
    cases fate : pending.expired inner.transport readings.now with
    | none =>
      rw [polledSlot_gone once found fate] at member
      split at member
      · rename_i due
        rw [List.mem_singleton.mp member]
        exact .renews (given.mpr fate) due
      · rename_i early
        rw [List.mem_singleton.mp member]
        exact .retries (given.mpr fate) (Bool.eq_false_of_not_eq_true early)
    | some next =>
      rw [polledSlot_kept once found fate] at member
      cases List.mem_append.mp member with
      | inl attempt =>
        rw [List.mem_singleton.mp attempt]
        exact alarm_kept (List.mem_of_find?_eq_some found) fate
      | inr set =>
        have kept : inner.drops readings.now operation = false := by
          apply Bool.eq_false_of_not_eq_true
          rw [given, fate]
          exact nofun
        exact .holds held kept (Option.mem_toList.mp set)

/-- A client that is kept alive waits for the alarms told before. -/
theorem alarm_iff (once : (inner.pending.map Pending.operation).Nodup) (time : Nat) :
    (∃ operation, time ∈ times (inner.startedSlot readings operation
        (inner.expiredSlot readings.now operation))) ∨
      renewed inner.maintenanceRefresh readings.now inner.profile.maintenanceRefresh = some time ∨
      renewed inner.keepalive readings.now inner.profile.keepaliveInterval = some time ↔
    inner.Alarm readings time := by
  constructor
  · rintro (⟨operation, member⟩ | maintenance | keepalive)
    · exact alarm_of_slot once member
    · exact .maintenance maintenance
    · exact .keepalive keepalive
  · intro alarm
    cases alarm with
    | @waits pending among early =>
      have fate : pending.expired inner.transport readings.now = some pending := if_pos early
      refine .inl ⟨pending.operation, ?_⟩
      rw [polledSlot_kept once (Vec.find?_key once among) fate]
      exact mem_times_first rfl
    | @again pending among due young =>
      have fate : pending.expired inner.transport readings.now =
          some (pending.resent readings.now) := (if_neg due).trans (if_neg young)
      refine .inl ⟨pending.operation, ?_⟩
      rw [polledSlot_kept once (Vec.find?_key once among) fate]
      exact mem_times_first rfl
    | @starts operation free due =>
      refine .inl ⟨operation, ?_⟩
      rw [polledSlot_free (none_of_free free), if_pos due]
      exact mem_times_first rfl
    | @stays operation _ free early set =>
      refine .inl ⟨operation, ?_⟩
      rw [polledSlot_free (none_of_free free), early, if_neg Bool.false_ne_true]
      exact mem_times_second set
    | @holds operation _ held kept set =>
      obtain ⟨pending, found⟩ := Option.isSome_iff_exists.mp ((hasOperation_iff _ _).mp held)
      have stays : pending.expired inner.transport readings.now ≠ none := by
        rw [Ne, ← (held_of_some _ once found).2, kept]
        exact nofun
      obtain ⟨next, fate⟩ := Option.ne_none_iff_exists'.mp stays
      refine .inl ⟨operation, ?_⟩
      rw [polledSlot_kept once found fate]
      exact mem_times_second set
    | @renews operation gone due =>
      obtain ⟨pending, among, rfl, fate⟩ := (drops_iff _ _).mp gone
      refine .inl ⟨pending.operation, ?_⟩
      rw [polledSlot_gone once (Vec.find?_key once among) fate, if_pos due]
      exact mem_times_first rfl
    | @retries operation gone early =>
      obtain ⟨pending, among, rfl, fate⟩ := (drops_iff _ _).mp gone
      refine .inl ⟨pending.operation, ?_⟩
      rw [polledSlot_gone once (Vec.find?_key once among) fate, early, if_neg Bool.false_ne_true]
      exact mem_times_second rfl
    | maintenance set => exact .inr (.inl set)
    | keepalive set => exact .inr (.inr set)

/-- When the end of the allocation is noticed: when the client is polled again by then for another
reason, or when the poll loses the allocation. -/
def Inner.Notices (inner : Inner) (readings : Readings) : Prop :=
  inner.state = .ready → inner.live readings.now = true → ¬inner.exhausts readings.now →
    ∃ time expires, inner.Alarm readings time ∧ inner.allocationExpiresAt = some expires ∧
      time ≤ max (readings.now + millis 1) expires

/-- A poll that leaves the client ready waits for the end of the allocation at most exactly when
another time comes before. -/
theorem notices_iff (sound : Sound False ⟨none, inner⟩)
    (steady : Steady digests limited profile inner) {after : Inner}
    (once : (after.pending.map Pending.operation).Nodup)
    (wanted : after.state = .ready → after.shuttingDown = false)
    (outcome : Polled inner readings after) :
    (after.state = .ready → after.shuttingDown = false → ∃ wait expires,
      after.waits readings.now = some wait ∧ after.allocationExpiresAt = some expires ∧
        readings.now + wait ≤ max (readings.now + millis 1) expires) ↔
      inner.Notices readings := by
  unfold Inner.Notices
  cases outcome with
  | idle unready kept state maintenance keepalive slots =>
    exact ⟨fun _ ready => absurd ready unready, fun _ ready => absurd ready state⟩
  | lost why stilled refresh =>
    refine ⟨fun _ ready live => ?_, fun _ ready => absurd ready stilled.state⟩
    rcases why with ⟨unready, _⟩ | ⟨_, dead⟩
    · exact absurd ready unready
    · rw [dead] at live
      cases live
  | wornOut ready live exhausts stilled refresh =>
    exact ⟨fun _ _ _ fresh => absurd exhausts fresh, fun _ ready => absurd ready stilled.state⟩
  | served ready live fresh state expires maintenance keepalive slots =>
    obtain ⟨deadline, set⟩ := Option.isSome_iff_exists.mp (sound.ready ready).2.1
    have alarms : ∀ time, time ∈ after.deadlines ↔ inner.Alarm readings time := by
      intro time
      rw [mem_deadlines once, maintenance, keepalive, ← alarm_iff steady.once]
      simp only [slots]
    have noticed := waits_le_iff after (Nat.le_max_left (readings.now + millis 1) deadline)
    rw [expires, set]
    constructor
    · intro late _ _ _
      obtain ⟨wait, _, waited, ⟨⟩, inside⟩ := late state (wanted state)
      obtain ⟨time, member, before⟩ := noticed.mp ⟨wait, waited, inside⟩
      exact ⟨time, _, (alarms time).mp member, rfl, before⟩
    · intro notices _ _
      obtain ⟨time, _, alarm, ⟨⟩, before⟩ := notices ready live fresh
      obtain ⟨wait, waited, inside⟩ := noticed.mpr ⟨time, (alarms time).mpr alarm, before⟩
      exact ⟨wait, _, waited, rfl, inside⟩

end Poll

section Run

variable (digests : Digests) (server : SocketAddr) (username password : List UInt8)
  (peer : SocketAddr) (profile : CsqttTurnProfile) (transport : TurnControlTransport)
  (start : Inner)

/-- What a poll does in a state that a client can get into. -/
theorem polled_run (created : Inner.create server username password peer profile transport =
      .ok start) (calls : List Call) (readings : Readings) :
    let before := Mealy.final (Inner.call digests) start calls
    let after := (before.poll digests readings).2
    before.destroyed = false → ∀ time, (before.poll digests readings).1 = .ok time →
      Sound False ⟨none, before⟩ ∧ Steady digests False profile before ∧
        Sound False ⟨none, after⟩ ∧ Steady digests False profile after ∧
        time = after.waits readings.now ∧ Polled before readings after := by
  intro before after alive time succeeds
  obtain ⟨valid, steady⟩ : Valid False before ∧ Steady digests False profile before :=
    steady_run created calls (fun never => never.elim)
  cases valid with
  | inr gone => exact absurd (gone.destroyed.symm.trans alive) nofun
  | inl sound =>
    have kept := sound_call digests before (.poll readings) sound (fun never => never.elim) nofun
    obtain ⟨waits, outcome⟩ := polled steady sound (Prod.ext succeeds rfl)
    exact ⟨sound, steady, kept, steady.poll readings, waits, outcome⟩

/-- Exactly the polls that keep up leave all deadlines ahead, in every state that a client can get
into. -/
theorem poll_ahead (created : Inner.create server username password peer .pjnathCompat transport =
      .ok start) (calls : List Call) (readings : Readings)
    (clock : ∀ operation, readings.now ≤ (readings.draw operation).started) :
    let before := Mealy.final (Inner.call digests) start calls
    let after := (before.poll digests readings).2
    before.destroyed = false → ∀ time, (before.poll digests readings).1 = .ok time →
      ((∀ deadline ∈ after.deadlines, readings.now < deadline) ↔
        before.KeepsUp readings.now) := by
  intro before after alive time succeeds
  obtain ⟨_, steady, _, next, _, outcome⟩ := polled_run digests server username password peer
    .pjnathCompat transport start created calls readings alive time succeeds
  exact ahead_iff steady (by decide) clock next.once outcome

/-- The client of `user` keeps up at the first keepalive. -/
theorem userClient_ahead :
    (Mealy.final (Inner.call runDigests) userClient allocatedRun).KeepsUp (seconds 10) ∧
      ((Mealy.final (Inner.call runDigests) userClient allocatedRun).poll runDigests
        (readingsAt (seconds 10) 0)).2.deadlines.all (seconds 10 < ·) = true := by
  have exactly := poll_ahead runDigests userClient.server userClient.username userClient.password
    userClient.peer userClient.transport userClient rfl allocatedRun (readingsAt (seconds 10) 0)
    (fun _ => Nat.le_refl _)
  have ready : (Mealy.final (Inner.call runDigests) userClient allocatedRun).state = .ready ∧
      (Mealy.final (Inner.call runDigests) userClient allocatedRun).destroyed = false ∧
      (Mealy.final (Inner.call runDigests) userClient allocatedRun).pending = [] ∧
      ((Mealy.final (Inner.call runDigests) userClient allocatedRun).poll runDigests
        (readingsAt (seconds 10) 0)).1 = .ok (some (seconds 10)) := by
    decide +kernel
  generalize Mealy.final (Inner.call runDigests) userClient allocatedRun = client at *
  obtain ⟨state, alive, idle, polls⟩ := ready
  have keeps : client.KeepsUp (seconds 10) := by
    have kept : client.drops (seconds 10) .channel = false := by
      rw [Inner.drops, idle]
      rfl
    unfold Inner.KeepsUp
    rw [if_pos state]
    intro _
    rw [if_neg (fun exhausts => Bool.false_ne_true (kept.symm.trans exhausts.1))]
    intro operation _ held
    rw [Inner.hasOperation, idle] at held
    cases held
  have ahead := (exactly alive (some (seconds 10)) polls).mpr keeps
  refine ⟨keeps, List.all_eq_true.mpr fun deadline among => ?_⟩
  exact decide_eq_true (ahead deadline among)

/-- A client that is shut down a second before the refresh of its allocation keeps its timer. -/
theorem shutdown_behind :
    ¬∀ (digests : Digests) (server : SocketAddr) (username password : List UInt8)
      (peer : SocketAddr) (transport : TurnControlTransport) (start : Inner),
        Inner.create server username password peer .pjnathCompat transport = .ok start →
          ∀ (calls : List Call) (readings : Readings),
            (∀ operation, readings.now ≤ (readings.draw operation).started) →
              (Mealy.final (Inner.call digests) start calls).destroyed = false →
                ∀ time, ((Mealy.final (Inner.call digests) start calls).poll digests
                  readings).1 = .ok time →
                    ∀ deadline ∈ ((Mealy.final (Inner.call digests) start calls).poll digests
                      readings).2.deadlines, readings.now < deadline := by
  intro always
  have exactly := always runDigests userClient.server userClient.username userClient.password
    userClient.peer userClient.transport userClient rfl
    (allocatedRun ++ [.gracefulShutdown (readingsAt (seconds 299) 1)])
    (readingsAt (seconds 300) 0) (fun _ => Nat.le_refl _)
  have closed : (Mealy.final (Inner.call runDigests) userClient
        (allocatedRun ++ [.gracefulShutdown (readingsAt (seconds 299) 1)])).destroyed = false ∧
      ((Mealy.final (Inner.call runDigests) userClient
        (allocatedRun ++ [.gracefulShutdown (readingsAt (seconds 299) 1)])).poll runDigests
          (readingsAt (seconds 300) 0)).1 = .ok (some (millis 1)) ∧
      seconds 300 ∈ ((Mealy.final (Inner.call runDigests) userClient
        (allocatedRun ++ [.gracefulShutdown (readingsAt (seconds 299) 1)])).poll runDigests
          (readingsAt (seconds 300) 0)).2.deadlines := by
    decide +kernel
  exact Nat.lt_irrefl _ (exactly closed.1 (some (millis 1)) closed.2.1 _ closed.2.2)

/-- Exactly the polls that notice the end of the allocation do so in time, in every state that a
client can get into. -/
theorem poll_notices (created : Inner.create server username password peer profile transport =
      .ok start) (calls : List Call) (readings : Readings) :
    let before := Mealy.final (Inner.call digests) start calls
    let after := (before.poll digests readings).2
    before.destroyed = false → ∀ time, (before.poll digests readings).1 = .ok time →
      ((after.state = .ready → after.shuttingDown = false → ∃ wait expires,
          time = some wait ∧ after.allocationExpiresAt = some expires ∧
            readings.now + wait ≤ max (readings.now + millis 1) expires) ↔
        before.Notices readings) := by
  intro before after alive time succeeds
  obtain ⟨sound, steady, kept, next, rfl, outcome⟩ := polled_run digests server username password
    peer profile transport start created calls readings alive time succeeds
  exact notices_iff sound steady next.once
    (fun ready => Bool.eq_false_of_not_eq_true (fun closing => kept.closing closing ready)) outcome

end Run

/-- The client of `user` notices the end of its allocation at the first keepalive. -/
theorem userClient_notices :
    ∃ wait expires, some (seconds 10) = some wait ∧
      ((Mealy.final (Inner.call runDigests) userClient allocatedRun).poll runDigests
        (readingsAt (seconds 10) 0)).2.allocationExpiresAt = some expires ∧
      seconds 10 + wait ≤ max (seconds 10 + millis 1) expires := by
  have exactly := poll_notices runDigests userClient.server userClient.username
    userClient.password userClient.peer userClient.profile userClient.transport userClient rfl
    allocatedRun (readingsAt (seconds 10) 0)
  have ready : (Mealy.final (Inner.call runDigests) userClient allocatedRun).destroyed = false ∧
      (Mealy.final (Inner.call runDigests) userClient allocatedRun).allocationExpiresAt =
        some (seconds 600) ∧
      renewed (Mealy.final (Inner.call runDigests) userClient allocatedRun).keepalive (seconds 10)
        (Mealy.final (Inner.call runDigests) userClient
          allocatedRun).profile.keepaliveInterval = some (seconds 20) ∧
      ((Mealy.final (Inner.call runDigests) userClient allocatedRun).poll runDigests
        (readingsAt (seconds 10) 0)).1 = .ok (some (seconds 10)) ∧
      ((Mealy.final (Inner.call runDigests) userClient allocatedRun).poll runDigests
        (readingsAt (seconds 10) 0)).2.state = .ready ∧
      ((Mealy.final (Inner.call runDigests) userClient allocatedRun).poll runDigests
        (readingsAt (seconds 10) 0)).2.shuttingDown = false := by
    decide +kernel
  generalize Mealy.final (Inner.call runDigests) userClient allocatedRun = client at *
  obtain ⟨alive, expires, keepalive, polls, state, wanted⟩ := ready
  have notices : client.Notices (readingsAt (seconds 10) 0) :=
    fun _ _ _ => ⟨seconds 20, seconds 600, .keepalive keepalive, expires, by decide⟩
  exact (exactly alive (some (seconds 10)) polls).mpr notices state wanted

/-- The Allocate response with a lifetime of 15 seconds. -/
def briefResponse : List UInt8 :=
  Bytes.be 36 0x0103002c2112a442101112131415161718191a1b001600080001e2425e12a443000d0004 ++
    Bytes.be 28 0x0000000f00080014abbe055f2b6d171e4ef7486fa4c9d653cbcffd5b

/-- The digests of what is built and checked with it. -/
def briefDigests : Digests :=
  { runDigests with
    hmac := fun key data =>
      if key = userKey ∧ data =
          Bytes.be 36 0x0103002c2112a442101112131415161718191a1b001600080001e2425e12a443000d0004 ++
            Bytes.be 4 0x0000000f then
        .ofList (Bytes.be 20 0xabbe055f2b6d171e4ef7486fa4c9d653cbcffd5b)
      else runDigests.hmac key data }

/-- The client gets an allocation for 15 seconds, and is polled when it is refreshed. -/
def briefRun : List Call :=
  challenged ++ [.inputStun (readingsAt 0 0) briefResponse, .poll (readingsAt (millis 7500) 1)]

/-- A client on a stream whose refresh is not answered waits beyond the end of its allocation: it
is polled at the keepalive after 10 seconds, and then when the refresh is given up after 19.5. -/
theorem briefAllocation_late :
    ¬∀ (digests : Digests) (server : SocketAddr) (username password : List UInt8)
      (peer : SocketAddr) (transport : TurnControlTransport) (start : Inner),
        Inner.create server username password peer .pjnathCompat transport = .ok start →
          ∀ (calls : List Call) (readings : Readings),
            (Mealy.final (Inner.call digests) start calls).destroyed = false →
              ∀ time, ((Mealy.final (Inner.call digests) start calls).poll digests
                readings).1 = .ok time →
                  ((Mealy.final (Inner.call digests) start calls).poll digests readings).2.state =
                    .ready →
                  ((Mealy.final (Inner.call digests) start calls).poll digests
                    readings).2.shuttingDown = false →
                    ∃ wait expires, time = some wait ∧
                      ((Mealy.final (Inner.call digests) start calls).poll digests
                        readings).2.allocationExpiresAt = some expires ∧
                      readings.now + wait ≤ max (readings.now + millis 1) expires := by
  intro always
  have exactly := always briefDigests userClient.server userClient.username userClient.password
    userClient.peer .stream { userClient with transport := .stream } rfl briefRun
    (readingsAt (seconds 10) 2)
  have late : (Mealy.final (Inner.call briefDigests) { userClient with transport := .stream }
        briefRun).destroyed = false ∧
      ((Mealy.final (Inner.call briefDigests) { userClient with transport := .stream }
        briefRun).poll briefDigests (readingsAt (seconds 10) 2)).1 = .ok (some (millis 9500)) ∧
      ((Mealy.final (Inner.call briefDigests) { userClient with transport := .stream }
        briefRun).poll briefDigests (readingsAt (seconds 10) 2)).2.state = .ready ∧
      ((Mealy.final (Inner.call briefDigests) { userClient with transport := .stream }
        briefRun).poll briefDigests (readingsAt (seconds 10) 2)).2.shuttingDown = false ∧
      ((Mealy.final (Inner.call briefDigests) { userClient with transport := .stream }
        briefRun).poll briefDigests (readingsAt (seconds 10) 2)).2.allocationExpiresAt =
          some (seconds 15) := by
    decide +kernel
  obtain ⟨wait, expires, waited, set, inside⟩ :=
    exactly late.1 (some (millis 9500)) late.2.1 late.2.2.1 late.2.2.2.1
  rw [late.2.2.2.2] at set
  cases set
  cases waited
  revert inside
  decide

end Focsq.Turn
