import Focsq.Backend.Retransmission
import Focsq.Verif.TurnPoll

/-!
# How often a request is sent again

A request that fails can take all the others with it, but never leaves more of them behind than
there were. So the loop ends, and its index is one of a pending request whenever it is used. Nothing
but the loop counts the transmissions of a pending request, and a new one begins with its first.
-/

namespace Focsq.Turn

open Checked

section Frames

variable (inner : Inner)

/-- An event leaves the pending requests alone. -/
@[simp] theorem pushEvent_pending (event : NativeEvent) :
    (inner.pushEvent event).pending = inner.pending := by
  rw [pushEvent_eq]

/-- A queued packet leaves the pending requests alone. -/
@[simp] theorem queuePacket_pending (packet : List UInt8) :
    (inner.queuePacket packet).pending = inner.pending := by
  rw [queuePacket_eq]

/-- A new state leaves the pending requests alone. -/
@[simp] theorem setState_pending (state : TurnState) :
    (inner.setState state).pending = inner.pending := by
  rw [setState_eq]

/-- A retry leaves the pending requests alone. -/
@[simp] theorem scheduleMaintenanceRetry_pending (operation : Operation) (now : Nat) :
    (inner.scheduleMaintenanceRetry operation now).2.pending = inner.pending := by
  rw [scheduleMaintenanceRetry_eq]

/-- Nothing is pending when the allocation is lost. -/
@[simp] theorem destroyAllocation_pending (operation : Operation) (status stunCode : Int) :
    (inner.destroyAllocation operation status stunCode).pending = [] := by
  unfold Inner.destroyAllocation
  dsimp only
  split <;> rw [setState_pending] <;> rfl

/-- A request that fails leaves the others pending, or takes them along. -/
theorem completeFailure_pending (operation : Operation) (status stunCode : Int) (now : Nat) :
    (inner.completeFailure operation status stunCode now).pending = inner.pending ∨
      (inner.completeFailure operation status stunCode now).pending = [] := by
  unfold Inner.completeFailure
  split
  · dsimp only
    split
    · rw [scheduleMaintenanceRetry_pending, Inner.complete, pushEvent_pending]
      exact .inl rfl
    · rw [Inner.destroyAfterChannelRebindExhausted, setState_pending, pushEvent_pending]
      exact .inr rfl
  · exact .inr (destroyAllocation_pending _ _ _ _)

/-- Losing the allocation does not change how packets are sent. -/
theorem destroyAllocation_transport (operation : Operation) (status stunCode : Int) :
    (inner.destroyAllocation operation status stunCode).transport = inner.transport := by
  unfold Inner.destroyAllocation
  dsimp only
  split <;> rw [setState_eq, Inner.dropAllocation, Inner.complete, pushEvent_eq]

/-- A request that fails does not change how packets are sent. -/
theorem completeFailure_transport (operation : Operation) (status stunCode : Int) (now : Nat) :
    (inner.completeFailure operation status stunCode now).transport = inner.transport := by
  unfold Inner.completeFailure
  split
  · dsimp only
    split
    · rw [scheduleMaintenanceRetry_eq, Inner.complete, pushEvent_eq]
    · rw [Inner.destroyAfterChannelRebindExhausted, setState_eq, pushEvent_eq, Inner.dropChannel,
        scheduleMaintenanceRetry_eq, Inner.complete, pushEvent_eq]
  · exact destroyAllocation_transport _ _ _ _

end Frames

section Turns

/-- Whether a pending request is queued again. -/
def Pending.isResent (transport : TurnControlTransport) (now : Nat) (pending : Pending) : Bool :=
  decide (pending.nextAttempt ≤ now) && decide (pending.transmissions < maxTransmissions) &&
    decide (transport ≠ .stream)

variable {loop : Expiring} {now : Nat} {pending : Pending} {before after : List Pending}

/-- Whether a request is queued again, and what becomes of it. -/
theorem Pending.resent_or_not (transport : TurnControlTransport) (now : Nat) (pending : Pending) :
    (pending.isResent transport now = false ∧
        (pending.expired transport now = some pending ∨ pending.expired transport now = none)) ∨
      (pending.isResent transport now = true ∧
        pending.expired transport now = some (pending.resent now) ∧
        pending.transmissions < maxTransmissions) := by
  unfold Pending.isResent Pending.expired
  by_cases waits : now < pending.nextAttempt
  · rw [if_pos waits, decide_eq_false (Nat.not_le.mpr waits)]
    exact .inl ⟨rfl, .inl rfl⟩
  rw [if_neg waits, decide_eq_true (Nat.le_of_not_lt waits)]
  by_cases old : maxTransmissions ≤ pending.transmissions
  · rw [if_pos (.inl old), decide_eq_false (Nat.not_lt.mpr old)]
    exact .inl ⟨rfl, .inr rfl⟩
  rw [decide_eq_true (Nat.lt_of_not_le old)]
  by_cases stream : transport = .stream
  · rw [if_pos (.inr stream), decide_eq_false (not_not.mpr stream)]
    exact .inl ⟨rfl, .inr rfl⟩
  · rw [if_neg (fun either => either.elim old stream), decide_eq_true stream]
    exact .inr ⟨rfl, rfl, Nat.lt_of_not_le old⟩

/-- The client after it has given up the request at an index. -/
def Inner.givenUp (inner : Inner) (now index : Nat) (pending : Pending) : Inner :=
  ({ inner with pending := inner.pending.eraseIdx index }.removeQueuedTransaction
    pending.transaction).completeFailure pending.operation resultTimeout 0 now

/-- The client after it has queued the request at an index again. -/
def Inner.sentAgain (inner : Inner) (now index : Nat) (pending : Pending) : Inner :=
  { inner.queuePacket pending.packet with pending := inner.pending.set index (pending.resent now) }

/-- There is a request at an index that is in range. -/
theorem index_eq_ok {values : List Pending} {position : Nat}
    (there : values[position]? = some pending) : Checked.index values position = .ok pending := by
  rw [Checked.index, there]

/-- Giving up the request at the index does not panic. -/
theorem giveUp_ok (there : loop.inner.pending[loop.index]? = some pending) :
    loop.giveUp now = .ok { loop with inner := loop.inner.givenUp now loop.index pending } := by
  rw [Expiring.giveUp, Inner.removePending, index_eq_ok there]
  rfl

/-- Sending the request at the index again does not panic. -/
theorem sendAgain_ok (there : loop.inner.pending[loop.index]? = some pending)
    (few : pending.transmissions < maxTransmissions) :
    loop.sendAgain now =
      .ok ⟨loop.index + 1, loop.inner.sentAgain now loop.index pending,
        loop.sent ++ [pending]⟩ := by
  have still : (loop.inner.queuePacket pending.packet).pending[loop.index]? = some pending := by
    rw [queuePacket_pending]
    exact there
  have counted : Checked.add 8 pending.transmissions 1 = .ok (pending.transmissions + 1) := by
    have bound : pending.transmissions + 1 < 2 ^ 8 := Nat.lt_of_lt_of_le
      (Nat.succ_lt_succ few) (by decide)
    rw [Checked.add, if_pos bound]
  rw [Expiring.sendAgain, index_eq_ok there]
  show (do
    let pending ← Checked.index (loop.inner.queuePacket pending.packet).pending loop.index
    _ : Except Panic Expiring) = _
  rw [index_eq_ok still]
  show (do
    let transmissions ← Checked.add 8 pending.transmissions 1
    _ : Except Panic Expiring) = _
  rw [counted, Inner.sentAgain, ← queuePacket_pending loop.inner pending.packet]
  rfl

/-- What a turn of the loop does with the request at its index. -/
inductive Fate (loop next : Expiring) (now : Nat) (before : List Pending) (pending : Pending)
    (after : List Pending) : Prop where
  /-- It waits or is queued again, and the loop goes on behind it. -/
  | kept (left : Pending) (expired : pending.expired loop.inner.transport now = some left)
      (index : next.index = (before ++ [left]).length)
      (requests : next.inner.pending = (before ++ [left]) ++ after)
      (sent : next.sent = loop.sent ++ [pending].filter (Pending.isResent loop.inner.transport now))
  /-- It is given up, and perhaps all the others with it. -/
  | dropped (expired : pending.expired loop.inner.transport now = none)
      (index : next.index = before.length)
      (requests : next.inner.pending = before ++ after ∨ next.inner.pending = [])
      (sent : next.sent = loop.sent)

/-- A turn of the loop. -/
structure Advances (loop next : Expiring) (now : Nat) (before : List Pending) (pending : Pending)
    (after : List Pending) : Prop where
  /-- It is a turn of `expireLoop`. -/
  step : ∀ fuel, loop.inner.expireLoop now (fuel + 1) loop.index =
    next.inner.expireLoop now fuel next.index
  /-- Packets are sent in the same way. -/
  transport : next.inner.transport = loop.inner.transport
  /-- What becomes of the request. -/
  fate : Fate loop next now before pending after

/-- A request that is given up is taken out, perhaps with all the others. -/
theorem givenUp_pending {inner : Inner} (among : inner.pending = before ++ pending :: after) :
    (inner.givenUp now before.length pending).pending = before ++ after ∨
      (inner.givenUp now before.length pending).pending = [] := by
  refine (completeFailure_pending _ _ _ _ _).imp_left fun kept => kept.trans ?_
  show inner.pending.eraseIdx before.length = before ++ after
  rw [among, List.eraseIdx_append_of_length_le (Nat.le_refl _), Nat.sub_self]
  rfl

/-- A turn with a pending request at the index does not panic. -/
theorem body_advances (among : loop.inner.pending = before ++ pending :: after)
    (here : loop.index = before.length) :
    ∃ next, loop.body now = .ok next ∧ Advances loop next now before pending after := by
  have there : loop.inner.pending[loop.index]? = some pending := here ▸ getElem?_among among
  have body : loop.body now = if now < pending.nextAttempt then
      .ok { loop with index := loop.index + 1 }
    else if maxTransmissions ≤ pending.transmissions then loop.giveUp now
    else if loop.inner.transport = .stream then loop.giveUp now
    else loop.sendAgain now := by
    rw [Expiring.body, index_eq_ok there]
    rfl
  rw [body]
  by_cases waits : now < pending.nextAttempt
  · rw [if_pos waits]
    refine ⟨_, rfl, fun fuel => ?_, rfl, .kept pending (if_pos waits) ?_ ?_ ?_⟩
    · rw [Inner.expireLoop, there]
      exact if_pos waits
    · rw [List.length_append, ← here]
      rfl
    · rw [among, List.append_assoc]
      rfl
    · have still : pending.isResent loop.inner.transport now = false := by
        rw [Pending.isResent, decide_eq_false (Nat.not_le.mpr waits), Bool.false_and,
          Bool.false_and]
      rw [List.filter_cons_of_neg (by rw [still]; exact Bool.false_ne_true)]
      exact (List.append_nil _).symm
  rw [if_neg waits]
  have givesUp (old : maxTransmissions ≤ pending.transmissions ∨ loop.inner.transport = .stream) :
      Advances loop { loop with inner := loop.inner.givenUp now loop.index pending } now before
        pending after := by
    refine ⟨fun fuel => ?_, completeFailure_transport _ _ _ _ _,
      .dropped ?_ here (here ▸ givenUp_pending among) rfl⟩
    · rw [Inner.expireLoop, there]
      dsimp only
      rw [if_neg waits, if_pos old]
      rfl
    · rw [Pending.expired, if_neg waits, if_pos old]
  by_cases old : maxTransmissions ≤ pending.transmissions
  · rw [if_pos old]
    exact ⟨_, giveUp_ok there, givesUp (.inl old)⟩
  rw [if_neg old]
  by_cases stream : loop.inner.transport = .stream
  · rw [if_pos stream]
    exact ⟨_, giveUp_ok there, givesUp (.inr stream)⟩
  rw [if_neg stream]
  have young : ¬(maxTransmissions ≤ pending.transmissions ∨ loop.inner.transport = .stream) :=
    fun either => either.elim old stream
  refine ⟨_, sendAgain_ok there (Nat.lt_of_not_le old), fun fuel => ?_, ?_,
    .kept (pending.resent now) ?_ ?_ ?_ ?_⟩
  · rw [Inner.expireLoop, there]
    dsimp only
    rw [if_neg waits, if_neg young, queuePacket_pending]
    rfl
  · rw [Inner.sentAgain, queuePacket_eq]
  · rw [Pending.expired, if_neg waits, if_neg young]
  · rw [List.length_append, ← here]
    rfl
  · show loop.inner.pending.set loop.index _ = _
    rw [among, here, List.set_append_right _ _ (Nat.le_refl _), Nat.sub_self, List.append_assoc]
    rfl
  · have again : pending.isResent loop.inner.transport now = true := by
      rw [Pending.isResent, decide_eq_true (Nat.le_of_not_lt waits),
        decide_eq_true (Nat.lt_of_not_le old), decide_eq_true stream]
      rfl
    rw [List.filter_cons_of_pos again]
    rfl

end Turns

section Loop

variable {now : Nat}

/-- What a loop over some requests comes to. -/
structure Ended (start last : Expiring) (now : Nat) (before rest : List Pending) : Prop where
  /-- There is enough fuel. -/
  ends : ∀ fuel > rest.length, Loops.run (Expiring.turn now) fuel start = some (.ok last)
  /-- It is what `expireLoop` comes to. -/
  same : last.inner = start.inner.expireLoop now rest.length start.index
  /-- Packets are sent in the same way. -/
  transport : last.inner.transport = start.inner.transport
  /-- Each request that is due is queued again at most once. -/
  sent : ∃ more, last.sent = start.sent ++ more ∧
    more.Sublist (rest.filter (Pending.isResent start.inner.transport now)) ∧
    (last.inner.pending = [] ∨
      last.inner.pending = before ++ rest.filterMap (Pending.expired start.inner.transport now) ∧
        more = rest.filter (Pending.isResent start.inner.transport now))

/-- A loop behind the last request is left. -/
theorem run_turn_end {loop : Expiring} {fuel : Nat}
    (behind : loop.inner.pending.length ≤ loop.index) (some : 0 < fuel) : Loops.run (Expiring.turn now) fuel loop = .some (.ok loop) := by
  obtain ⟨fuel, rfl⟩ := Nat.exists_eq_succ_of_ne_zero (Nat.ne_of_gt some)
  rw [Loops.run, Expiring.turn, if_neg (Nat.not_lt.mpr behind)]

/-- The loop ends without a panic. -/
theorem run_turn (rest : List Pending) : ∀ (loop : Expiring) (before : List Pending),
    loop.inner.pending = before ++ rest → loop.index = before.length →
    ∃ last, Ended loop last now before rest := by
  induction rest with
  | nil =>
    intro loop before among here
    have behind : loop.inner.pending.length ≤ loop.index := by
      rw [among, List.append_nil, here]
    refine ⟨loop, fun fuel some => run_turn_end behind (Nat.zero_lt_of_lt some), rfl, rfl, [],
      (List.append_nil _).symm, List.nil_sublist _, .inr ⟨among, rfl⟩⟩
  | cons pending rest ih =>
    intro loop before among here
    obtain ⟨next, body, advances⟩ : ∃ next, loop.body now = .ok next ∧
        Advances loop next now before pending rest := body_advances among here
    have inside : loop.index < loop.inner.pending.length := by
      rw [among, here, List.length_append, List.length_cons]
      omega
    -- The first turn, and what is left of the fuel.
    have first {last : Expiring} (ends : ∀ fuel > rest.length,
        Loops.run (Expiring.turn now) fuel next = some (.ok last)) :
        ∀ fuel > (pending :: rest).length,
          Loops.run (Expiring.turn now) fuel loop = some (.ok last) := by
      intro fuel enough
      rw [List.length_cons] at enough
      obtain ⟨fuel, rfl⟩ := Nat.exists_eq_succ_of_ne_zero (Nat.ne_of_gt (Nat.zero_lt_of_lt enough))
      rw [Loops.run, Expiring.turn, if_pos inside, body]
      exact ends fuel (Nat.lt_of_succ_lt_succ enough)
    cases advances.fate with
    | kept left expired index requests sent =>
      obtain ⟨last, ends, same, transport, more, noted, once, whole⟩ :=
        ih next (before ++ [left]) requests index
      rw [advances.transport] at transport once whole
      refine ⟨last, first ends, same.trans (advances.step rest.length).symm, transport,
        [pending].filter (Pending.isResent loop.inner.transport now) ++ more, ?_, ?_, ?_⟩
      · rw [noted, sent, List.append_assoc]
      · have cut : (pending :: rest).filter (Pending.isResent loop.inner.transport now) =
            [pending].filter (Pending.isResent loop.inner.transport now) ++
              rest.filter (Pending.isResent loop.inner.transport now) :=
          List.filter_append [pending] rest
        rw [cut]
        exact (List.Sublist.refl _).append once
      · refine whole.imp_right fun both => ⟨?_, ?_⟩
        · rw [both.1, List.filterMap_cons_some expired, List.append_assoc]
          rfl
        · rw [both.2, ← List.filter_append, List.singleton_append]
    | dropped expired index requests sent =>
      have still : pending.isResent loop.inner.transport now = false := by
        rcases pending.resent_or_not loop.inner.transport now with ⟨still, _⟩ | ⟨_, resent, _⟩
        · exact still
        · rw [expired] at resent
          cases resent
      rcases requests with kept | none
      · obtain ⟨last, ends, same, transport, more, noted, once, whole⟩ := ih next before kept index
        rw [advances.transport] at transport once whole
        refine ⟨last, first ends, same.trans (advances.step rest.length).symm, transport, more,
          ?_, ?_, ?_⟩
        · rw [noted, sent]
        · rw [List.filter_cons_of_neg (by rw [still]; exact Bool.false_ne_true)]
          exact once
        · rw [List.filterMap_cons_none expired,
            List.filter_cons_of_neg (by rw [still]; exact Bool.false_ne_true)]
          exact whole
      · have behind : next.inner.pending.length ≤ next.index := by
          rw [none]
          exact Nat.zero_le _
        refine ⟨next, first fun fuel enough => run_turn_end behind (Nat.zero_lt_of_lt enough), ?_,
          advances.transport, [], sent.trans (List.append_nil _).symm, List.nil_sublist _,
          .inl none⟩
        rw [List.length_cons, advances.step]
        exact (expireLoop_end _ _ behind).symm

/-- The requests that are queued again when old ones are given up. -/
def Inner.retransmitted (inner : Inner) (now : Nat) : List Pending :=
  match inner.runExpiring now (inner.pending.length + 1) with
  | some (.ok last) => last.sent
  | _ => []

/-- `expire_transactions` ends without a panic, and queues each request that is due at most once. -/
theorem runExpiring_ended (inner : Inner) (now : Nat) :
    ∃ last, (∀ fuel > inner.pending.length, inner.runExpiring now fuel = some (.ok last)) ∧
      last.inner = inner.expireTransactions now ∧ last.sent = inner.retransmitted now := by
  obtain ⟨last, ended⟩ := run_turn inner.pending ⟨0, inner, []⟩ [] rfl rfl
  refine ⟨last, ended.ends, ended.same, ?_⟩
  rw [Inner.retransmitted, Inner.runExpiring, ended.ends _ (Nat.lt_succ_self _)]

/-- What is queued again, and what is left pending. -/
theorem retransmitted_spec (inner : Inner) (now : Nat) :
    (inner.expireTransactions now).transport = inner.transport ∧
      (inner.retransmitted now).Sublist
        (inner.pending.filter (Pending.isResent inner.transport now)) ∧
      ((inner.expireTransactions now).pending = [] ∨
        (inner.expireTransactions now).pending =
            inner.pending.filterMap (Pending.expired inner.transport now) ∧
          inner.retransmitted now =
            inner.pending.filter (Pending.isResent inner.transport now)) := by
  obtain ⟨last, ended⟩ := run_turn inner.pending ⟨0, inner, []⟩ [] rfl rfl
  have noted : inner.retransmitted now = last.sent := by
    rw [Inner.retransmitted, Inner.runExpiring, ended.ends _ (Nat.lt_succ_self _)]
  have same : last.inner = inner.expireTransactions now := ended.same
  obtain ⟨more, sent, once, whole⟩ := ended.sent
  rw [noted, ← same, sent]
  exact ⟨ended.transport, once, whole⟩

end Loop

end Focsq.Turn
