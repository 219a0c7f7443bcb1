import Mathlib.Data.List.Perm.Subperm
import Focsq.Lib.Costs
import Focsq.Verif.Retransmission

/-!
# Retransmissions over a run

A pending request has been sent some times and can be sent again only so often. Nothing but the
retransmission loop counts that up, and a request that is new has been sent once. So the
retransmissions that are left to the pending requests of a transaction pay for those of the loop.
-/

namespace Focsq.Turn

section Adds

/-- Whether a request has just been sent for the first time, with what its call draws. -/
def Pending.IsNew (draw : Operation → Draw) (pending : Pending) : Prop :=
  pending.transmissions = 1 ∧ pending.transaction = (draw pending.operation).transaction

/-- Some requests are not pending any more, and others are new. -/
structure Adds (draw : Operation → Draw) (inner next : Inner) : Prop where
  /-- Packets are sent in the same way. -/
  transport : next.transport = inner.transport
  /-- What is pending. -/
  pending : ∃ kept added, next.pending = kept ++ added ∧ kept.Sublist inner.pending ∧
    ∀ pending ∈ added, pending.IsNew draw

variable {digests : Digests} {draw : Operation → Draw} {inner next last : Inner}

/-- Requests may only be dropped. -/
theorem Adds.narrowed (transport : next.transport = inner.transport)
    (pending : next.pending.Sublist inner.pending) : Adds draw inner next :=
  ⟨transport, next.pending, [], (List.append_nil _).symm, pending, nofun⟩

/-- The same requests may be pending. -/
theorem Adds.same (transport : next.transport = inner.transport)
    (pending : next.pending = inner.pending) : Adds draw inner next :=
  .narrowed transport (pending ▸ List.Sublist.refl _)

/-- Nothing may be pending. -/
theorem Adds.none (transport : next.transport = inner.transport) (pending : next.pending = []) :
    Adds draw inner next :=
  .narrowed transport (pending ▸ List.nil_sublist _)

/-- Nothing may happen. -/
theorem Adds.refl (inner : Inner) : Adds draw inner inner := .same rfl rfl

/-- One after the other. -/
theorem Adds.trans (first : Adds draw inner next) (second : Adds draw next last) :
    Adds draw inner last := by
  obtain ⟨transport, kept, added, split, old, new⟩ := first
  obtain ⟨following, still, more, both, among, newer⟩ := second
  rw [split] at among
  obtain ⟨older, newest, rfl, left, right⟩ := List.sublist_append_iff.mp among
  refine ⟨following.trans transport, older, newest ++ more, ?_, left.trans old, ?_⟩
  · rw [both, List.append_assoc]
  · intro pending member
    rcases List.mem_append.mp member with early | late
    · exact new pending (right.subset early)
    · exact newer pending late

/-- One or the other. -/
theorem Adds.ite {condition : Prop} [Decidable condition] (one : Adds draw inner next)
    (other : Adds draw inner last) : Adds draw inner (if condition then next else last) := by
  split
  · exact one
  · exact other

/-- An event adds nothing. -/
theorem Adds.pushEvent (adds : Adds draw inner next) (event : NativeEvent) :
    Adds draw inner (next.pushEvent event) :=
  adds.trans (.same (by rw [pushEvent_eq]) (pushEvent_pending _ _))

/-- A new state adds nothing. -/
theorem Adds.setState (adds : Adds draw inner next) (state : TurnState) :
    Adds draw inner (next.setState state) :=
  adds.trans (.same (by rw [setState_eq]) (setState_pending _ _))

/-- A queued packet adds nothing. -/
theorem Adds.queuePacket (adds : Adds draw inner next) (packet : List UInt8) :
    Adds draw inner (next.queuePacket packet) :=
  adds.trans (.same (by rw [queuePacket_eq]) (queuePacket_pending _ _))

/-- Losing the allocation adds nothing. -/
theorem Adds.destroyAllocation (adds : Adds draw inner next) (operation : Operation)
    (status stunCode : Int) : Adds draw inner (next.destroyAllocation operation status stunCode) :=
  adds.trans (.none (destroyAllocation_transport _ _ _ _) (destroyAllocation_pending _ _ _ _))

/-- A request that fails adds nothing. -/
theorem Adds.completeFailure (adds : Adds draw inner next) (operation : Operation)
    (status stunCode : Int) (now : Nat) :
    Adds draw inner (next.completeFailure operation status stunCode now) := by
  have transport := completeFailure_transport next operation status stunCode now
  rcases completeFailure_pending next operation status stunCode now with kept | none
  · exact adds.trans (.same transport kept)
  · exact adds.trans (.none transport none)

/-- A request that is sent is new, or there is one of its kind already. -/
theorem startOperation_adds {operation : Operation} {authenticated : Bool} {nonceRetries : Nat}
    (started : inner.startOperation digests (draw operation) operation authenticated nonceRetries =
      .ok next) : Adds draw inner next := by
  unfold Inner.startOperation at started
  split at started
  · split at started
    · cases started
      exact (Adds.refl inner).queuePacket _
    · cases started
      exact .refl _
  · split at started
    · cases started
    · cases built : inner.buildRequest digests operation (draw operation).transaction
          authenticated with
      | error failure =>
        rw [built] at started
        cases started
      | ok packet =>
        rw [built] at started
        cases started
        refine .trans ((Adds.refl inner).queuePacket packet)
          ⟨rfl, _, _, rfl, List.Sublist.refl _, ?_⟩
        intro pending member
        cases List.mem_singleton.mp member
        exact ⟨rfl, rfl⟩

/-- A request that is sent is new, or cannot be sent. -/
theorem start_adds (inner : Inner) (readings : Readings) (operation : Operation)
    (authenticated : Bool) :
    Adds readings.draw inner (inner.start digests readings operation authenticated).2 := by
  unfold Inner.start
  split
  · exact .refl _
  · rename_i next started
    exact startOperation_adds started

/-- One part after the other. -/
theorem andThen_adds {α β : Type} {first : Except Failure α × Inner}
    {second : α → Inner → Except Failure β × Inner} (left : Adds draw inner first.2)
    (right : ∀ value, Adds draw first.2 (second value first.2).2) :
    Adds draw inner (andThen first second).2 := by
  obtain ⟨result, middle⟩ := first
  cases result with
  | error failure => exact left
  | ok value => exact left.trans (right value)

end Adds

section Calls

variable {digests : Digests} {inner : Inner} {readings : Readings}

/-- An Allocate response may add the request to give the allocation back. -/
theorem allocated_adds (relay : SocketAddr) (returned : Option UInt32) (now : Nat) :
    Adds readings.draw inner
      (inner.allocated digests (readings.draw .deallocate) relay returned now).2 := by
  have granted : Adds readings.draw inner (inner.grantedBy now relay returned) := by
    refine .pushEvent ?_ _
    exact .same rfl rfl
  unfold Inner.allocated
  dsimp only
  split
  · have deallocating := granted.setState .deallocating
    split
    · exact deallocating
    · rename_i next started
      exact deallocating.trans (startOperation_adds started)
  · exact (granted.setState _).pushEvent _

/-- A positive response adds at most the request to give the allocation back. -/
theorem completeSuccess_adds (operation : Operation) (message : Stun.Message) :
    Adds readings.draw inner (inner.completeSuccess digests readings operation message).2 := by
  cases operation with
  | allocate =>
    dsimp only [Inner.completeSuccess]
    split
    · exact .refl _
    · split
      · exact .refl _
      · exact allocated_adds _ _ _
  | refresh =>
    dsimp only [Inner.completeSuccess]
    split
    · exact .refl _
    · refine .pushEvent ?_ _
      exact .same rfl rfl
  | deallocate =>
    dsimp only [Inner.completeSuccess]
    split
    · exact .refl _
    · refine .setState (.pushEvent ?_ _) _
      exact .same rfl rfl
  | permission =>
    dsimp only [Inner.completeSuccess]
    refine .pushEvent ?_ _
    exact .same rfl rfl
  | channel =>
    dsimp only [Inner.completeSuccess]
    refine .pushEvent (.pushEvent ?_ _) _
    exact .same rfl rfl

/-- An error response adds at most the request that was refused, with new credentials. -/
theorem answerError_adds (pending : Pending) (message : Stun.Message) :
    Adds readings.draw inner (inner.answerError digests readings pending message) := by
  have noted (method : UInt32) (status stunCode : Int) :
      Adds readings.draw inner (inner.responseError method status stunCode) :=
    .pushEvent (.refl _) _
  unfold Inner.answerError
  dsimp only
  split
  · exact (noted _ _ _).completeFailure _ _ _ _
  · split
    · exact (noted _ _ _).destroyAllocation _ _ _
    · split
      · exact (noted _ _ _).completeFailure _ _ _ _
      · rename_i realm nonce renewed
        have renewal : Adds readings.draw inner (inner.setAuth digests realm nonce) := .same rfl rfl
        split
        · rename_i next started
          exact renewal.trans (startOperation_adds started)
        · exact .completeFailure (renewal.pushEvent _) _ _ _ _

/-- A response to a request adds at most another one. -/
theorem answer_adds (pending : Pending) (message : Stun.Message) :
    Adds readings.draw inner (inner.answer digests readings pending message).2 := by
  unfold Inner.answer
  split
  · exact .completeFailure (.refl _) _ _ _ _
  · split
    · exact answerError_adds _ _
    · have completed : Adds readings.draw inner
          (inner.completeSuccess digests readings pending.operation message).2 :=
        completeSuccess_adds _ _
      split
      · rename_i next success
        rw [success] at completed
        exact completed
      · rename_i failure next refused
        rw [refused] at completed
        exact completed.completeFailure _ _ _ _

/-- A datagram takes out the request that it answers, and adds at most another one. -/
theorem inputStun_adds (packet : List UInt8) :
    Adds readings.draw inner (inner.inputStun digests readings packet).2 := by
  unfold Inner.inputStun
  split
  · exact .refl _
  · rename_i message decoded
    split
    · exact .refl _
    · split
      · exact .refl _
      · split
        · exact .refl _
        · rename_i pending found
          split
          · dsimp only
            split
            · exact .pushEvent (.refl _) _
            · exact .refl _
          · have taken : Adds readings.draw inner ({ inner with
                pending := inner.pending.eraseP (·.matches message) }.removeQueuedTransaction
                  message.transaction) := .narrowed rfl List.eraseP_sublist
            exact taken.trans (answer_adds _ _)

/-- What is due may be added. -/
theorem startDue_adds (operation : Operation) (due : Bool) :
    Adds readings.draw inner (inner.startDue digests readings operation due).2 := by
  unfold Inner.startDue
  split
  · have cleared : Adds readings.draw inner (inner.clearTimer operation) := by
      cases operation <;> exact .same rfl rfl
    exact andThen_adds (cleared.trans (start_adds _ _ _ _)) fun _ => .refl _
  · exact .refl _

/-- A keepalive adds nothing. -/
theorem renewKeepalive_adds {draw : Operation → Draw} (now : Nat) (controlStarted : Bool) :
    Adds draw inner (inner.renewKeepalive now controlStarted) := by
  have renewed : Adds draw inner
      { inner with keepalive := some (now + inner.profile.keepaliveInterval) } := .same rfl rfl
  unfold Inner.renewKeepalive
  dsimp only
  split
  · exact renewed
  · unfold Inner.queueKeepalive
    split
    · exact renewed
    · exact renewed.queuePacket _

/-- Keeping the allocation alive adds at most what is due. -/
theorem maintain_adds : Adds readings.draw inner (inner.maintain digests readings).2 := by
  have renewed (inner : Inner) (due : Bool) : Adds readings.draw inner
      (if due then inner.renewMaintenance readings.now else inner) :=
    .ite (.same rfl rfl) (.refl _)
  unfold Inner.maintain
  refine andThen_adds (startDue_adds _ _) fun refreshed => ?_
  refine (renewed _ (reached inner.maintenanceRefresh readings.now)).trans ?_
  refine andThen_adds (startDue_adds _ _) fun permitted => ?_
  refine andThen_adds (startDue_adds _ _) fun bound => ?_
  exact .ite (renewKeepalive_adds _ _) (.refl _)

/-- Asking for the allocation adds at most that. -/
theorem startAllocation_adds :
    Adds readings.draw inner (inner.startAllocation digests readings).2 := by
  unfold Inner.startAllocation
  split
  · exact .refl _
  · split
    · exact .refl _
    · exact (Adds.setState (.refl _) _).trans (start_adds _ _ _ _)

/-- Giving the allocation back adds at most that. -/
theorem gracefulShutdown_adds :
    Adds readings.draw inner (inner.gracefulShutdown digests readings).2 := by
  unfold Inner.gracefulShutdown
  split
  · exact .refl _
  · dsimp only
    split
    · have left : Adds readings.draw inner
          ({ inner.quiet with pending := [] }.setState .deallocating) := by
        refine .setState ?_ _
        exact .none rfl rfl
      exact left.trans (start_adds _ _ _ _)
    · split
      · exact .none rfl rfl
      · exact .same rfl rfl

/-- What a poll leaves pending of what the loop does. -/
theorem poll_adds (alive : inner.destroyed = false) :
    Adds readings.draw (inner.expireTransactions readings.now) (inner.poll digests readings).2 := by
  unfold Inner.poll
  rw [alive, if_neg Bool.false_ne_true]
  dsimp only
  refine andThen_adds ?_ fun _ => .refl _
  generalize inner.expireTransactions readings.now = expired
  have ended : Adds readings.draw expired
      (if !expired.shuttingDown && expired.state == .ready &&
          reached expired.allocationExpiresAt readings.now then
        expired.destroyAllocation .refresh resultTimeout 0 else expired) :=
    .ite (.destroyAllocation (.refl _) _ _ _) (.refl _)
  refine ended.trans ?_
  generalize (if !expired.shuttingDown && expired.state == .ready &&
      reached expired.allocationExpiresAt readings.now then
    expired.destroyAllocation .refresh resultTimeout 0 else expired) = kept
  split
  · exact maintain_adds
  · exact .refl _

/-- Binding the channel adds at most that. -/
theorem startChannel_adds :
    Adds readings.draw inner (inner.startChannel digests readings).2 := by
  unfold Inner.startChannel
  split
  · exact .refl _
  · exact start_adds _ _ _ _

/-- Asking for the permission adds at most that. -/
theorem startPermission_adds :
    Adds readings.draw inner (inner.startPermission digests readings).2 := by
  unfold Inner.startPermission
  split
  · exact .refl _
  · exact start_adds _ _ _ _

end Calls

section Step

/-- What a call draws from. -/
def Call.readings : Call → Option Readings
  | .startAllocation readings => some readings
  | .startChannel readings => some readings
  | .startPermission readings => some readings
  | .inputStun readings _ => some readings
  | .poll readings => some readings
  | .pullControl => none
  | .pullEvent => none
  | .gracefulShutdown readings => some readings
  | .forceDestroy _ => none

/-- The requests that the retransmission loop queues again in a call. -/
def Inner.retransmits (inner : Inner) : Call → List Pending
  | .poll readings => if inner.destroyed then [] else inner.retransmitted readings.now
  | _ => []

/-- The client after the retransmission loop of a call. -/
def Inner.looped (inner : Inner) : Call → Inner
  | .poll readings => if inner.destroyed then inner else inner.expireTransactions readings.now
  | _ => inner

variable {digests : Digests} {inner : Inner} {call : Call}

/-- Besides running the loop, a call adds at most requests that it draws. -/
theorem call_adds {readings : Readings} (reads : call.readings = some readings) :
    Adds readings.draw (inner.looped call) (inner.call digests call).1 := by
  cases call with
  | startAllocation other =>
    cases reads
    exact startAllocation_adds
  | startChannel other =>
    cases reads
    exact startChannel_adds
  | startPermission other =>
    cases reads
    exact startPermission_adds
  | inputStun other packet =>
    cases reads
    exact inputStun_adds packet
  | poll other =>
    cases reads
    rw [Inner.looped]
    split
    · rename_i destroyed
      have still : (inner.call digests (.poll readings)).1 = inner := by
        show (inner.poll digests readings).2 = inner
        rw [Inner.poll, if_pos destroyed]
      rw [still]
      exact .refl _
    · rename_i alive
      exact poll_adds (Bool.eq_false_of_not_eq_true alive)
  | gracefulShutdown other =>
    cases reads
    exact gracefulShutdown_adds
  | _ => cases reads

/-- A call that does not draw adds nothing. -/
theorem call_silent (draw : Operation → Draw) (reads : call.readings = none) :
    Adds draw (inner.looped call) (inner.call digests call).1 ∧
      (inner.call digests call).1.pending.Sublist (inner.looped call).pending := by
  have narrowed {next : Inner} (transport : next.transport = inner.transport)
      (pending : next.pending.Sublist inner.pending) :
      Adds draw inner next ∧ next.pending.Sublist inner.pending :=
    ⟨.narrowed transport pending, pending⟩
  cases call with
  | pullControl =>
    show Adds draw inner inner.pullControl.2 ∧ _
    unfold Inner.looped Inner.call Inner.pullControl
    split
    · exact narrowed rfl (List.Sublist.refl _)
    · exact narrowed rfl (List.Sublist.refl _)
  | pullEvent => exact narrowed rfl (List.Sublist.refl _)
  | forceDestroy status =>
    show Adds draw inner (inner.forceDestroy status) ∧
      (inner.forceDestroy status).pending.Sublist inner.pending
    unfold Inner.forceDestroy
    split
    · exact narrowed rfl (List.Sublist.refl _)
    · refine narrowed ?_ ?_
      · rw [pushEvent_eq, setState_eq]
      · rw [pushEvent_pending, setState_pending]
        exact List.nil_sublist _
  | _ => cases reads

/-- The loop of a call does not change how packets are sent. -/
theorem looped_transport : (inner.looped call).transport = inner.transport := by
  cases call with
  | poll readings =>
    rw [Inner.looped]
    split
    · rfl
    · exact (retransmitted_spec inner readings.now).1
  | _ => rfl

/-- No call changes how packets are sent. -/
theorem call_transport : (inner.call digests call).1.transport = inner.transport := by
  cases reads : call.readings with
  | none => exact (call_silent (fun _ => ⟨.ofList [], 0⟩) reads).1.transport.trans looped_transport
  | some readings => exact (call_adds reads).transport.trans looped_transport

end Step

section Counts

/-- How often a transaction can be sent again. -/
def left (transaction : Bytes.Octets 12) : List Pending → Nat
  | [] => 0
  | pending :: rest =>
    (if pending.transaction = transaction then maxTransmissions - pending.transmissions else 0) +
      left transaction rest

/-- Whether a request is of a transaction. -/
def Pending.isOf (transaction : Bytes.Octets 12) (pending : Pending) : Bool :=
  decide (pending.transaction = transaction)

/-- How many requests of a transaction there are. -/
def sends (transaction : Bytes.Octets 12) (pending : List Pending) : Nat :=
  pending.countP (Pending.isOf transaction)

/-- The operations. -/
def Operation.all : List Operation := [.allocate, .refresh, .deallocate, .permission, .channel]

/-- For how many operations a transaction is drawn. -/
def drawn (draw : Operation → Draw) (transaction : Bytes.Octets 12) : Nat :=
  Operation.all.countP fun operation => decide ((draw operation).transaction = transaction)

/-- How often a call draws a transaction. -/
def Call.draws (transaction : Bytes.Octets 12) (call : Call) : Nat :=
  match call.readings with
  | none => 0
  | some readings => drawn readings.draw transaction

variable (transaction : Bytes.Octets 12)

/-- One request more. -/
theorem sends_cons (pending : Pending) (rest : List Pending) :
    sends transaction (pending :: rest) =
      (if pending.transaction = transaction then 1 else 0) + sends transaction rest := by
  rw [sends, List.countP_cons, Pending.isOf, Nat.add_comm, ← sends]
  simp only [decide_eq_true_eq]

/-- What is left to two lists of requests. -/
theorem left_append (first second : List Pending) :
    left transaction (first ++ second) = left transaction first + left transaction second := by
  induction first with
  | nil => exact (Nat.zero_add _).symm
  | cons pending rest ih => rw [List.cons_append, left, left, ih, Nat.add_assoc]

/-- Less is left to fewer requests. -/
theorem left_le_of_sublist {first second : List Pending} (sublist : first.Sublist second) :
    left transaction first ≤ left transaction second := by
  induction sublist with
  | slnil => exact Nat.le_refl _
  | cons pending _ ih => exact Nat.le_trans ih (Nat.le_add_left _ _)
  | cons_cons pending _ ih => exact Nat.add_le_add_left ih _

/-- Sending a request again takes one off what is left to it. -/
theorem left_expired (transport : TurnControlTransport) (now : Nat) (pending : List Pending) :
    sends transaction (pending.filter (Pending.isResent transport now)) +
        left transaction (pending.filterMap (Pending.expired transport now)) ≤
      left transaction pending := by
  induction pending with
  | nil => exact Nat.le_refl _
  | cons pending rest ih =>
    rcases pending.resent_or_not transport now with ⟨still, waits | gone⟩ | ⟨again, resent, few⟩
    · rw [List.filter_cons_of_neg (by rw [still]; exact Bool.false_ne_true),
        List.filterMap_cons_some waits, left, left]
      omega
    · rw [List.filter_cons_of_neg (by rw [still]; exact Bool.false_ne_true),
        List.filterMap_cons_none gone, left]
      omega
    · rw [List.filter_cons_of_pos again, List.filterMap_cons_some resent, left, left,
        sends_cons]
      have same : (pending.resent now).transaction = pending.transaction := rfl
      have more : (pending.resent now).transmissions = pending.transmissions + 1 := rfl
      rw [same, more]
      by_cases equal : pending.transaction = transaction
      · rw [if_pos equal, if_pos equal, if_pos equal]
        omega
      · rw [if_neg equal, if_neg equal, if_neg equal]
        omega

/-- A new request can be sent again six times. -/
theorem left_new {draw : Operation → Draw} {added : List Pending}
    (new : ∀ pending ∈ added, pending.IsNew draw) (once : (added.map Pending.operation).Nodup) :
    left transaction added ≤ (maxTransmissions - 1) * drawn draw transaction := by
  have each (pending : List Pending) (new : ∀ request ∈ pending, request.IsNew draw) :
      left transaction pending = (maxTransmissions - 1) * sends transaction pending := by
    induction pending with
    | nil => rfl
    | cons request rest ih =>
      obtain ⟨first, others⟩ := List.forall_mem_cons.mp new
      rw [left, ih others, sends_cons, first.1, Nat.mul_add]
      by_cases equal : request.transaction = transaction
      · rw [if_pos equal, if_pos equal, Nat.mul_one]
      · rw [if_neg equal, if_neg equal, Nat.mul_zero]
  -- Each of them is drawn for an operation of its own.
  have among : (added.filter (Pending.isOf transaction)).map Pending.operation ⊆
      Operation.all.filter fun operation => decide ((draw operation).transaction = transaction) := by
    intro operation member
    obtain ⟨pending, matching, rfl⟩ := List.mem_map.mp member
    obtain ⟨there, equal⟩ := List.mem_filter.mp matching
    refine List.mem_filter.mpr ⟨?_, ?_⟩
    · cases pending.operation <;> decide
    · rw [← (new pending there).2]
      exact equal
  have part : (added.filter (Pending.isOf transaction)).Sublist added := List.filter_sublist
  have few := ((once.sublist (part.map Pending.operation)).subperm among).length_le
  rw [List.length_map, ← List.countP_eq_length_filter, ← List.countP_eq_length_filter] at few
  rw [each added new, sends]
  exact Nat.mul_le_mul_left _ few

end Counts

section Run

variable {digests : Digests} {profile : CsqttTurnProfile} {inner : Inner} {call : Call}

/-- How often the retransmission loop of a call queues requests of a transaction again. -/
def Inner.resends (transaction : Bytes.Octets 12) (inner : Inner) (call : Call) : Nat :=
  sends transaction (inner.retransmits call)

/-- How often a request can be sent again, counting from its first transmission. -/
def maxRetransmissions : Nat := maxTransmissions - 1

/-- The loop is paid for by what is left to the pending requests. -/
theorem looped_left (transaction : Bytes.Octets 12) (inner : Inner) (call : Call) :
    inner.resends transaction call + left transaction (inner.looped call).pending ≤
      left transaction inner.pending := by
  have free : sends transaction [] + left transaction inner.pending ≤
      left transaction inner.pending := Nat.le_of_eq (Nat.zero_add _)
  cases call with
  | poll readings =>
    rw [Inner.resends, Inner.retransmits, Inner.looped]
    split
    · exact free
    · obtain ⟨_, once, nothing | ⟨expired, all⟩⟩ := retransmitted_spec inner readings.now
      · have few : sends transaction (inner.retransmitted readings.now) ≤ sends transaction
            (inner.pending.filter (Pending.isResent inner.transport readings.now)) :=
          once.countP_le
        have paid := left_expired transaction inner.transport readings.now inner.pending
        rw [nothing]
        exact Nat.le_trans (Nat.add_le_add few (Nat.zero_le _)) paid
      · rw [expired, all]
        exact left_expired _ _ _ _
  | _ => exact free

/-- A call leaves the pending requests less to be sent again by what it sends again, but for those
that it draws. -/
theorem call_left (transaction : Bytes.Octets 12)
    (once : ((inner.call digests call).1.pending.map Pending.operation).Nodup) :
    inner.resends transaction call + left transaction (inner.call digests call).1.pending ≤
      left transaction inner.pending + maxRetransmissions * call.draws transaction := by
  have looped := looped_left transaction inner call
  cases reads : call.readings with
  | none =>
    have fewer : left transaction (inner.call digests call).1.pending ≤
        left transaction (inner.looped call).pending :=
      left_le_of_sublist _ (call_silent (fun _ => ⟨.ofList [], 0⟩) reads).2
    omega
  | some readings =>
    have adds : Adds readings.draw (inner.looped call) (inner.call digests call).1 :=
      call_adds reads
    obtain ⟨_, kept, added, split, old, new⟩ := adds
    rw [split, List.map_append] at once
    have fewer := left_le_of_sublist transaction old
    have few : left transaction added ≤ maxRetransmissions * call.draws transaction := by
      rw [Call.draws, reads]
      exact left_new _ new (List.nodup_append.mp once).2.1
    rw [split, left_append]
    omega

/-- Nothing is sent again on a stream. -/
theorem resends_stream (transaction : Bytes.Octets 12) (stream : inner.transport = .stream) :
    inner.resends transaction call = 0 := by
  have paid (now : Nat) : inner.retransmitted now = [] := by
    refine List.eq_nil_of_subset_nil fun pending member => ?_
    have among := (retransmitted_spec inner now).2.1.subset member
    have again := (List.mem_filter.mp among).2
    rw [Pending.isResent, stream, Bool.and_eq_true, decide_eq_true_eq] at again
    exact absurd rfl again.2
  cases call with
  | poll readings =>
    rw [Inner.resends, Inner.retransmits, paid, ite_self]
    rfl
  | _ => rfl

/-- A request that is due and not sent again is not pending any more. -/
theorem expired_gone {now : Nat} {pending : Pending}
    (once : (inner.pending.map Pending.operation).Nodup) (member : pending ∈ inner.pending)
    (due : pending.nextAttempt ≤ now) (given : pending ∉ inner.retransmitted now) :
    (inner.expireTransactions now).hasOperation pending.operation = false := by
  rw [hasOperation_false]
  intro other among
  obtain ⟨_, _, nothing | ⟨expired, all⟩⟩ := retransmitted_spec inner now
  · rw [nothing] at among
    cases among
  · rw [expired] at among
    obtain ⟨request, there, becomes⟩ := List.mem_filterMap.mp among
    intro same
    have kind : request.operation = pending.operation :=
      (expired_operation becomes).symm.trans same
    cases List.inj_on_of_nodup_map once there member kind
    rcases pending.resent_or_not inner.transport now with ⟨still, waits | gone⟩ | ⟨again, _, _⟩
    · rw [Pending.expired, if_neg (Nat.not_lt.mpr due)] at waits
      split at waits
      · cases waits
      · have grown : pending.transmissions + 1 = pending.transmissions :=
          congrArg Pending.transmissions (Option.some.inj waits)
        omega
    · rw [gone] at becomes
      cases becomes
    · exact given (all ▸ List.mem_filter.mpr ⟨member, again⟩)

/-- Nothing is pending in a new client, which sends as it is told to. -/
theorem created_idle {server peer : SocketAddr} {username password : List UInt8}
    {transport : TurnControlTransport} {start : Inner}
    (created : Inner.create server username password peer profile transport = .ok start) :
    start.pending = [] ∧ start.transport = transport := by
  unfold Inner.create at created
  dsimp only at created
  split at created
  · cases created
  · split at created
    · cases created
    · cases created
      exact ⟨rfl, rfl⟩

/-- The retransmission loop ends, whatever its failures do to the requests it goes through, and
sends each of them again at most once. Over a run it sends a transaction again at most six times for
each request that draws it, and never on a stream; a request that is due and not sent again is given
up. -/
theorem retransmissions_bounded :
    (∀ (inner : Inner) (now : Nat), ∃ last,
      (∀ fuel > inner.pending.length, inner.runExpiring now fuel = some (.ok last)) ∧
        last.inner = inner.expireTransactions now ∧ last.sent = inner.retransmitted now ∧
        last.sent.Sublist inner.pending) ∧
    ∀ (digests : Digests) (server : SocketAddr) (username password : List UInt8)
      (peer : SocketAddr) (profile : CsqttTurnProfile) (transport : TurnControlTransport)
      (start : Inner),
      Inner.create server username password peer profile transport = .ok start →
        ∀ calls : List Call,
          let resent := fun transaction =>
            Mealy.cost (Inner.call digests) (Inner.resends transaction) start calls
          let reached := Mealy.final (Inner.call digests) start calls
          (∀ transaction, resent transaction ≤
            6 * (calls.map (Call.draws transaction)).sum) ∧
          (transport = .stream → ∀ transaction, resent transaction = 0) ∧
          ∀ now, ∀ pending ∈ reached.pending, pending.nextAttempt ≤ now →
            pending ∉ reached.retransmitted now →
              (reached.expireTransactions now).hasOperation pending.operation = false := by
  constructor
  · intro inner now
    obtain ⟨last, ends, same, sent⟩ := runExpiring_ended inner now
    refine ⟨last, ends, same, sent, ?_⟩
    rw [sent]
    exact (retransmitted_spec inner now).2.1.trans List.filter_sublist
  intro digests server username password peer profile transport start created calls resent reached
  have sound : Valid False start ∧ Steady digests False profile start :=
    steady_run created [] nofun
  have keeps (inner : Inner) (call : Call)
      (both : Valid False inner ∧ Steady digests False profile inner) :
      Valid False (inner.call digests call).1 ∧
        Steady digests False profile (inner.call digests call).1 :=
    ⟨valid_call digests inner call both.1 nofun, steady_call call both.1 both.2 nofun⟩
  refine ⟨fun transaction => ?_, fun stream transaction => ?_, ?_⟩
  · have paid := Mealy.cost_le (Inner.resends transaction)
      (fun _ call => maxRetransmissions * call.draws transaction)
      (fun inner => left transaction inner.pending) _ keeps
      (fun inner call both => call_left transaction (keeps inner call both).2.once)
      start calls sound
    have six : maxRetransmissions = 6 := rfl
    rw [Mealy.cost_eq_sum, (created_idle created).1, six, left, Nat.zero_add] at paid
    exact Nat.le_trans (Nat.le_add_right _ _) paid
  · refine Mealy.cost_eq_zero (fun inner => inner.transport = .stream)
      (fun inner call same => call_transport.trans same)
      (fun inner call same => resends_stream transaction same) start calls ?_
    rw [← stream]
    exact (created_idle created).2
  · intro now pending member due given
    have steady : Steady digests False profile reached := (steady_run created calls nofun).2
    exact expired_gone steady.once member due given

end Run

/-- The identifier of an Allocate request. -/
def allocateTransaction : Bytes.Octets 12 := .ofList (Bytes.be 12 0x000102030405060708090a0b)

/-- An Allocate request that is never answered. -/
def unanswered : List Call :=
  [.startAllocation ⟨0, fun operation =>
      ⟨if operation = .allocate then allocateTransaction else .ofList [], 0⟩⟩,
    .poll (readingsAt (millis 200) 1), .poll (readingsAt (millis 600) 1),
    .poll (readingsAt (millis 1400) 1), .poll (readingsAt (millis 3000) 1),
    .poll (readingsAt (millis 4600) 1), .poll (readingsAt (millis 6200) 1),
    .poll (readingsAt (millis 7800) 1)]

/-- It is sent again six times before it is given up. -/
theorem unanswered_resent :
    Mealy.cost (Inner.call runDigests) (Inner.resends allocateTransaction) userClient
        (unanswered.take 7) = 6 ∧
      Mealy.cost (Inner.call runDigests) (Inner.resends allocateTransaction) userClient unanswered ≤
        6 ∧
      (Mealy.final (Inner.call runDigests) userClient unanswered).state = .destroying := by
  have bounded := (retransmissions_bounded.2 runDigests userClient.server userClient.username
    userClient.password userClient.peer userClient.profile userClient.transport userClient rfl
    unanswered).1 allocateTransaction
  have drawn : (unanswered.map (Call.draws allocateTransaction)).sum = 1 := by decide +kernel
  rw [drawn] at bounded
  exact ⟨by decide +kernel, bounded, by decide +kernel⟩

end Focsq.Turn
