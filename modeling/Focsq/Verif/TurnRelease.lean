import Focsq.Verif.TurnInvariant

/-!
# The TURN client gives its allocation back

The responses a client takes for answers say how long its allocation lasts; this is followed here
from the responses alone. As long as the allocation lasts, the client remembers it, and shutting
down sends a Refresh request of lifetime zero.
-/

namespace Focsq.Turn

open Stun

/-- The time a call reads, if it reads the clock. -/
def Call.time : Call → Option Nat
  | .startAllocation readings => some readings.now
  | .startChannel readings => some readings.now
  | .startPermission readings => some readings.now
  | .inputStun readings _ => some readings.now
  | .poll readings => some readings.now
  | .pullControl => none
  | .pullEvent => none
  | .gracefulShutdown readings => some readings.now
  | .forceDestroy _ => none

/-- Nanoseconds of the lifetime a response grants. -/
def lifetimeOf (message : Message) : Nat :=
  seconds ((attributeU32 message attrLifetime).getD requestedAllocationLifetimeSecs).toNat

/-- Which responses are about an allocation. -/
structure Terms where
  /-- Whether a positive Allocate response makes one. -/
  grants : Inner → Message → Bool
  /-- Whether an error response to an operation ends it. -/
  ends : Operation → UInt16 → Bool

/-- An Allocate response that the client can use: with a relayed address of the right family and a
lifetime. -/
def Inner.usable (inner : Inner) (message : Message) : Bool :=
  (inner.relayedAddress message).toOption.isSome &&
    (attributeU32 message attrLifetime).getD requestedAllocationLifetimeSecs != 0

/-- Every usable Allocate response makes an allocation, and the errors after which it is to be
made anew end it. -/
def usualTerms : Terms where
  grants := Inner.usable
  ends := requiresAllocationRecreate

section Lease

variable (digests : Digests) (terms : Terms)

/-- The end of the allocation after an answer. -/
def leaseAnswered (inner : Inner) (now : Nat) (pending : Pending) (message : Message)
    (lease : Option Nat) : Option Nat :=
  if message.class = .error then
    if terms.ends pending.operation ((errorCode message).getD 0) then none else lease
  else if pending.authenticated = true then
    match pending.operation with
    | .allocate => if terms.grants inner message then some (now + lifetimeOf message) else lease
    | .refresh =>
      if lifetimeOf message = 0 then lease else lease.map (fun _ => now + lifetimeOf message)
    | .deallocate => if (attributeU32 message attrLifetime).getD 0 = 0 then none else lease
    | .permission => lease
    | .channel => lease
  else lease

/-- The end of the allocation after a call, as far as the responses tell it. It is gone once its
time is over. -/
def leaseAfter (inner : Inner) (lease : Option Nat) (call : Call) : Option Nat :=
  let lease := lease.filter (fun deadline => call.time.all (fun now => now < deadline))
  match call with
  | .inputStun readings packet =>
    match inner.answered digests packet with
    | none => lease
    | some (pending, message) => leaseAnswered terms inner readings.now pending message lease
  | .forceDestroy _ => none
  | _ => lease

/-- The end of the allocation after a run. -/
def leaseOf (inner : Inner) (lease : Option Nat) : List Call → Option Nat
  | [] => lease
  | call :: rest =>
    leaseOf (inner.call digests call).1 (leaseAfter digests terms inner lease call) rest

/-- The last packet that is queued is a Refresh request of lifetime zero to the server. -/
def GivesBack (inner : Inner) (transaction : Bytes.Octets 12) : Prop :=
  ∃ control message, inner.controls.getLast? = some control ∧
    control.destination = inner.server ∧ Message.decode control.packet = .ok message ∧
      message.class = .request ∧ message.method = 4 ∧ message.transaction = transaction ∧
        attributeU32 message attrLifetime = some 0

/-- The client answers the end of a run well: an allocation that lasts is given back by a shutdown
that comes first, and one that is granted after a shutdown is given back at once. -/
def Releases (start : Inner) (calls : List Call) : Prop :=
  let inner := Mealy.final (Inner.call digests) start calls
  ((leaseOf digests terms start none calls).isSome →
    (∀ readings, .gracefulShutdown readings ∉ calls) →
      ∀ readings, GivesBack (inner.gracefulShutdown digests readings).2
        (readings.draw .deallocate).transaction) ∧
  ∀ readings packet pending message,
    inner.answered digests packet = some (pending, message) → message.class = .success →
      pending.operation = .allocate → pending.authenticated = true →
        terms.grants inner message = true →
          (∃ readings, .gracefulShutdown readings ∈ calls) →
            GivesBack (inner.inputStun digests readings packet).2
              (readings.draw .deallocate).transaction

end Lease

section Moves

variable {digests : Digests} {occasion : Occasion}

/-- The client remembers an allocation that lasts up to some time, or is shutting down. -/
def Remembers (inner : Inner) (deadline : Nat) : Prop :=
  inner.shuttingDown = true ∨ (inner.allocationExpiresAt = some deadline ∧
    (inner.state = .ready ∨ inner.state = .destroying))

/-- No move makes the client forget an allocation that lasts, as long as the answer is not about
it. -/
theorem remembers_moves {before after : Stage} {deadline : Nat}
    (move : Moves digests occasion before after) (sound : Sound True before)
    (lasts : occasion.now < deadline)
    (success : ∀ operation message, occasion.answer = some (operation, message) →
      message.class = .success → operation ≠ .allocate ∧ operation ≠ .refresh)
    (error : ∀ operation message code, occasion.answer = some (operation, message) →
      message.class = .error → errorCode message = some code →
        requiresAllocationRecreate operation code = false)
    (remembers : Remembers before.inner deadline) : Remembers after.inner deadline := by
  cases move with
  | note event =>
    rw [pushEvent_eq]
    exact remembers
  | send packet =>
    rw [queuePacket_eq]
    exact remembers
  | unqueue controls => exact remembers
  | take front pending rest among => exact remembers
  | again front pending next rest among operation authenticated => exact remembers
  | ask operation next cleared phase ready missing =>
    cases cleared with
    | inl same => exact same ▸ remembers
    | inr cleared =>
      rw [cleared]
      cases operation <;> exact remembers
  | begin null =>
    rw [setState_eq]
    refine remembers.imp id (fun kept => ?_)
    rw [null] at kept
    exact absurd kept.2 (by decide)
  | place pending => exact remembers
  | stuck operation authenticated cannot => exact remembers
  | renew operation authenticated realm nonce realmFits nonceFits => exact remembers
  | putOff operation authenticated phase live retried =>
    rw [scheduleMaintenanceRetry_eq]
    exact remembers
  | @lose hand inner operation held why =>
    rw [setState_eq]
    refine .inl ?_
    cases remembers with
    | inl closing => exact closing
    | inr kept =>
      exfalso
      obtain ⟨expires, state⟩ := kept
      have live : inner.live occasion.now = true := by
        unfold Inner.live
        rw [expires, Option.any_some, decide_eq_true_eq]
        exact lasts
      -- a request in hand belongs to the state, so the client is ready
      have phase : hand.isSome = true → operation.phase = inner.state := by
        intro present
        obtain ⟨request, rfl⟩ := Option.isSome_iff_exists.mp present
        rw [← held request rfl]
        exact sound.phase request List.mem_cons_self
      have ready : hand.isSome = true → inner.state = .ready := by
        intro present
        refine state.resolve_right (fun lost => ?_)
        have belongs := phase present
        rw [lost] at belongs
        cases operation <;> cases belongs
      rcases why with ⟨rfl, present | leaving⟩ | ⟨rfl, present⟩ | ⟨present, ended⟩ | ⟨message, code,
        answer, failed, found, recreate⟩
      · have belongs := phase present
        rw [ready present] at belongs
        cases belongs
      · rw [leaving] at state
        exact state.elim nofun nofun
      · have belongs := phase present
        rw [ready present] at belongs
        cases belongs
      · exact ended ⟨present.elim ready id, live⟩
      · rw [error operation message code answer failed found] at recreate
        cases recreate
  | exhaust authenticated =>
    rw [Inner.destroyAfterChannelRebindExhausted, setState_eq, pushEvent_eq,
      scheduleMaintenanceRetry_eq]
    exact remembers.imp id (fun kept => ⟨kept.1, .inr rfl⟩)
  | granted message relay answer accepted wanted =>
    exact absurd rfl (success _ message answer accepted).1
  | grantedLate message relay answer accepted closing =>
    exact absurd rfl (success _ message answer accepted).1
  | extended message authenticated answer accepted =>
    exact absurd rfl (success _ message answer accepted).2
  | @clear inner authenticated =>
    exact .inl (sound.leaving (sound.phase _ List.mem_cons_self).symm)
  | @settle inner authenticated =>
    rw [setState_eq]
    exact .inl (sound.leaving (sound.phase _ List.mem_cons_self).symm)
  | permitted authenticated => exact remembers
  | bound authenticated =>
    rw [Inner.boundChannel, pushEvent_eq]
    exact remembers
  | rearm time => exact remembers
  | rouse time => exact remembers
  | leave closes held =>
    rw [setState_eq]
    exact .inl rfl
  | close closes idle other => exact .inl rfl
  | closeEarly closes early => exact .inl rfl

/-- Any number of moves. -/
theorem remembers_moved {before after : Stage} {deadline : Nat}
    (moved : Moved digests occasion before after) (delivered : occasion.size ≤ deliveredMax)
    (sound : Sound True before) (lasts : occasion.now < deadline)
    (success : ∀ operation message, occasion.answer = some (operation, message) →
      message.class = .success → operation ≠ .allocate ∧ operation ≠ .refresh)
    (error : ∀ operation message code, occasion.answer = some (operation, message) →
      message.class = .error → errorCode message = some code →
        requiresAllocationRecreate operation code = false)
    (remembers : Remembers before.inner deadline) : Remembers after.inner deadline := by
  induction moved with
  | refl => exact remembers
  | tail moved move ih =>
    exact remembers_moves move (sound_moved moved (fun _ => delivered) sound) lasts success error ih

/-- The state after a run of moves is closed when it was closed before. -/
theorem moved_closing {before after : Stage} (moved : Moved digests occasion before after)
    (closing : before.inner.shuttingDown = true) : after.inner.shuttingDown = true := by
  induction moved with
  | refl => exact closing
  | tail moved move ih =>
    cases (moves_kept move).2.2 with
    | inl same => exact same.trans ih
    | inr closed => exact closed.2

/-- Moves of a call that is no shutdown do not close the client. -/
theorem moved_open {before after : Stage} (moved : Moved digests occasion before after)
    (other : occasion.closes = false) (wanted : before.inner.shuttingDown = false) :
    after.inner.shuttingDown = false := by
  induction moved with
  | refl => exact wanted
  | tail moved move ih =>
    cases (moves_kept move).2.2 with
    | inl same => exact same.trans ih
    | inr closed => exact absurd (closed.1.symm.trans other) nofun

end Moves

section Deallocate

variable (digests : Digests)

/-- A number of 32 bits is read from the first field of its type. -/
theorem attributeU32_messageOf (kind : UInt16) (transaction : Bytes.Octets 12)
    (fields before after : List Field) (type : UInt16) (value : UInt32)
    (shape : fields = before ++ (type, Bytes.be 4 value.toNat) :: after)
    (readable : ∀ field ∈ fields, Readable field) (others : ∀ field ∈ before, field.1 ≠ type) :
    attributeU32 (messageOf kind transaction fields) type = some value := by
  subst shape
  unfold attributeU32
  rw [attribute_messageOf kind transaction before after type _ readable others]
  dsimp only
  rw [Bytes.length_be, if_pos rfl, Bytes.uint32_be]

/-- A request to give the allocation back is read as a Refresh request of lifetime zero. -/
theorem deallocate_decodes {inner : Inner} {transaction : Bytes.Octets 12} {packet : List UInt8}
    (known : inner.known = true)
    (built : inner.buildRequest digests .deallocate transaction true = .ok packet) :
    ∃ message, Message.decode packet = .ok message ∧ message.class = .request ∧
      message.method = 4 ∧ message.transaction = transaction ∧
        attributeU32 message attrLifetime = some 0 := by
  unfold Inner.known at known
  rw [Bool.and_eq_true, Option.isSome_iff_exists] at known
  obtain ⟨_, key, keyed⟩ := known
  rw [buildRequest_eq digests inner .deallocate transaction true key (fun _ => keyed)] at built
  dsimp only at built
  rw [if_pos rfl] at built
  have plain := requestFields_open inner .deallocate transaction true
  have request := messageOf_request .deallocate transaction (closedFields digests
    Operation.deallocate.method.toUInt16 transaction (signedFields digests (some key)
      Operation.deallocate.method.toUInt16 transaction
        (inner.requestFields .deallocate transaction true)))
  have readable := closedFields_readable digests Operation.deallocate.method.toUInt16 transaction _
    plain (some key)
  split at built
  · cases built
  · rename_i fits
    cases built
    have short := Nat.le_of_not_lt fits
    refine ⟨_, decode_framed _ transaction _ (by decide) (by decide) (readable short) short,
      request.1, ?_, rfl, ?_⟩
    · rw [← UInt16.toNat_inj]
      have method := congrArg UInt32.toNat request.2
      rw [UInt16.toNat_toUInt32] at method
      exact method
    · exact attributeU32_messageOf _ transaction _ [] _ attrLifetime 0 rfl (readable short) nofun

/-- The packet that was queued is the last one. -/
theorem queuePacket_last (inner : Inner) (packet : List UInt8) :
    (inner.queuePacket packet).controls.getLast? =
      some { packet, destination := inner.server } := by
  unfold Inner.queuePacket
  dsimp only
  rw [List.getLast?_concat]
  split
  · rw [pushEvent_eq]
  · rfl

/-- A client with the request to give the allocation back in hand sends it. -/
theorem startOperation_givesBack {inner : Inner}
    (sound : Sound True ⟨some (.deallocate, true), inner⟩) (draw : Draw) :
    ∃ next, inner.startOperation digests draw .deallocate true 0 = .ok next ∧
      GivesBack next draw.transaction := by
  have known : inner.known = true := sound.known (.inl ⟨_, List.mem_cons_self, rfl⟩)
  have missing : inner.pending.find? (fun pending => pending.operation == .deallocate) = none := by
    have fresh := sound.fresh
    rw [← Bool.not_eq_true, hasOperation_iff, Option.not_isSome_iff_eq_none] at fresh
    exact fresh
  obtain ⟨packet, built⟩ := buildRequest_ok digests inner .deallocate draw.transaction true
    (fun _ => known) sound.username (sound.realm trivial) (sound.nonce trivial)
  obtain ⟨message, decoded, request, method, transaction, lifetime⟩ :=
    deallocate_decodes digests known built
  unfold Inner.startOperation
  rw [missing]
  dsimp only
  rw [if_neg, built]
  · refine ⟨_, rfl, { packet, destination := inner.server }, message, ?_, ?_, decoded, request,
      method, transaction, lifetime⟩
    · exact queuePacket_last inner packet
    · show inner.server = (inner.queuePacket packet).server
      rw [queuePacket_eq]
  · unfold Inner.known at known
    rw [Bool.and_eq_true, Bool.and_eq_true] at known
    simp [Option.isSome_iff_ne_none.mp known.1.1, Option.isSome_iff_ne_none.mp known.1.2,
      Option.isSome_iff_ne_none.mp known.2]

/-- A shutdown gives an allocation back that the client remembers. -/
theorem gracefulShutdown_givesBack {inner : Inner} (sound : Sound True ⟨none, inner⟩)
    (wanted : inner.shuttingDown = false) {deadline : Nat} (remembers : Remembers inner deadline)
    (readings : Readings) :
    GivesBack (inner.gracefulShutdown digests readings).2
      (readings.draw .deallocate).transaction := by
  have kept := remembers.resolve_left (fun closing => absurd (wanted.symm.trans closing) nofun)
  have held : inner.state = .ready ∨
      (inner.state = .destroying ∧ inner.allocationExpiresAt.isSome = true) := by
    refine kept.2.imp id (fun lost => ⟨lost, ?_⟩)
    rw [kept.1]
    rfl
  have quiet : inner.quiet.state = .ready ∨
      (inner.quiet.state = .destroying ∧ inner.quiet.allocationExpiresAt.isSome = true) := held
  have leave : Moves digests ⟨readings.now, none, 0, true⟩ ⟨none, inner⟩
      ⟨some (.deallocate, true), { inner.quiet with pending := [] }.setState .deallocating⟩ :=
    .leave rfl held
  have left := sound_moves leave (fun _ => Nat.zero_le _) sound
  obtain ⟨next, started, gives⟩ :=
    startOperation_givesBack digests left (readings.draw .deallocate)
  have alive : inner.destroyed = false := sound.undestroyed
  unfold Inner.gracefulShutdown
  rw [alive, wanted, Bool.or_false, if_neg Bool.false_ne_true]
  dsimp only
  rw [if_pos quiet]
  unfold Inner.start
  rw [started]
  exact gives

/-- The allocation that is wanted makes the client ready. -/
theorem allocated_wanted (inner : Inner) (draw : Draw) (relay : SocketAddr)
    (returned : Option UInt32) (now : Nat) (wanted : inner.shuttingDown = false) :
    inner.allocated digests draw relay returned now =
      (.ok (), ((inner.grantedBy now relay returned).setState .ready).complete .allocate 0 0) := by
  unfold Inner.allocated
  dsimp only
  rw [if_neg]
  · rfl
  · rw [pushEvent_eq]
    exact Bool.not_eq_true _ ▸ wanted

/-- The allocation that is not wanted any more is given back. -/
theorem allocated_late (inner : Inner) (draw : Draw) (relay : SocketAddr)
    (returned : Option UInt32) (now : Nat) (closing : inner.shuttingDown = true) {next : Inner}
    (started : ((inner.grantedBy now relay returned).setState .deallocating).startOperation digests
      draw .deallocate true 0 = .ok next) :
    inner.allocated digests draw relay returned now = (.ok (), next) := by
  unfold Inner.grantedBy at started
  unfold Inner.allocated
  dsimp only
  rw [if_pos, started]
  rw [pushEvent_eq]
  exact closing

section Answers

variable {inner : Inner} {packet : List UInt8} {pending : Pending} {message : Message}
  (answered : inner.answered digests packet = some (pending, message))
  (success : message.class = .success) (authenticated : pending.authenticated = true)
  (readings : Readings)

include answered success authenticated

/-- A positive response to an authenticated request that is in order. -/
theorem inputStun_completed {next : Inner} (completed : (inner.without message).completeSuccess
      digests readings pending.operation message = (.ok (), next)) :
    (inner.inputStun digests readings packet).2 = next := by
  rw [(inputStun_answered digests answered readings).2.2.2]
  unfold Inner.answer
  rw [if_neg (fun plain => plain.2 authenticated), if_neg (by rw [success]; exact nofun),
    completed]

/-- A positive response to an authenticated request that is malformed. -/
theorem inputStun_malformed {failure : Failure} {next : Inner}
    (malformed : (inner.without message).completeSuccess digests readings pending.operation
      message = (.error failure, next)) :
    (inner.inputStun digests readings packet).2 =
      next.completeFailure pending.operation resultProtocol 0 readings.now := by
  rw [(inputStun_answered digests answered readings).2.2.2]
  unfold Inner.answer
  rw [if_neg (fun plain => plain.2 authenticated), if_neg (by rw [success]; exact nofun),
    malformed]

/-- A usable Allocate response is remembered, or the allocation is given back at once. -/
theorem inputStun_granted (sound : Sound True ⟨none, inner⟩)
    (operation : pending.operation = .allocate) (usable : inner.usable message = true) :
    (inner.shuttingDown = false ∧
      (inner.inputStun digests readings packet).2.allocationExpiresAt =
        some (readings.now + lifetimeOf message) ∧
      (inner.inputStun digests readings packet).2.state = .ready) ∨
    (inner.shuttingDown = true ∧
      GivesBack (inner.inputStun digests readings packet).2
        (readings.draw .deallocate).transaction) := by
  have found := (inputStun_answered digests answered readings).2.2.1
  have held : Sound True ⟨some (.allocate, true), inner.without message⟩ := by
    have taken : Moved digests ⟨readings.now, none, 0, false⟩ ⟨none, inner⟩
        ⟨some (pending.operation, pending.authenticated), inner.without message⟩ :=
      moved_without digests found
    rw [operation, authenticated] at taken
    exact sound_moved taken (fun _ => Nat.zero_le _) sound
  unfold Inner.usable at usable
  rw [Bool.and_eq_true, bne_iff_ne] at usable
  obtain ⟨relay, address⟩ : ∃ relay, inner.relayedAddress message = .ok relay := by
    cases address : inner.relayedAddress message with
    | ok relay => exact ⟨relay, rfl⟩
    | error failure =>
      rw [address] at usable
      exact absurd usable.1 nofun
  have completed : (inner.without message).completeSuccess digests readings pending.operation
      message = (inner.without message).allocated digests (readings.draw .deallocate) relay
        (attributeU32 message attrLifetime) readings.now := by
    have same : (inner.without message).relayedAddress message = .ok relay := address
    rw [operation]
    unfold Inner.completeSuccess
    dsimp only
    rw [same]
    dsimp only
    rw [if_neg (by simpa using usable.2)]
  cases closing : inner.shuttingDown with
  | false =>
    left
    have wanted : (inner.without message).shuttingDown = false := closing
    rw [allocated_wanted digests _ _ _ _ _ wanted] at completed
    rw [inputStun_completed digests answered success authenticated readings completed,
      Inner.complete, pushEvent_eq, setState_eq, Inner.grantedBy, pushEvent_eq]
    exact ⟨rfl, rfl, rfl⟩
  | true =>
    right
    have unwanted : (inner.without message).shuttingDown = true := closing
    obtain ⟨next, started, gives⟩ := startOperation_givesBack digests
      (held.grantedLate readings.now relay (attributeU32 message attrLifetime) closing)
      (readings.draw .deallocate)
    rw [allocated_late digests _ _ _ _ _ unwanted started] at completed
    rw [inputStun_completed digests answered success authenticated readings completed]
    exact ⟨rfl, gives⟩

/-- A Refresh response with a lifetime is remembered. -/
theorem inputStun_extended (operation : pending.operation = .refresh)
    (lasts : lifetimeOf message ≠ 0) :
    (inner.inputStun digests readings packet).2.allocationExpiresAt =
        some (readings.now + lifetimeOf message) ∧
      (inner.inputStun digests readings packet).2.state = inner.state ∧
      (inner.inputStun digests readings packet).2.shuttingDown = inner.shuttingDown := by
  have nonzero : ¬((attributeU32 message attrLifetime).getD requestedAllocationLifetimeSecs ==
      0) = true := by
    intro zero
    apply lasts
    unfold lifetimeOf
    rw [beq_iff_eq.mp zero]
    rfl
  have completed : (inner.without message).completeSuccess digests readings pending.operation
      message = (.ok (), ((inner.without message).extendAllocation readings.now
        (attributeU32 message attrLifetime)).complete .refresh 0 0) := by
    rw [operation]
    unfold Inner.completeSuccess
    dsimp only
    rw [if_neg nonzero]
  rw [inputStun_completed digests answered success authenticated readings completed,
    Inner.complete, pushEvent_eq]
  exact ⟨rfl, rfl, rfl⟩

end Answers

/-- A time that is left over was left before, and lasts beyond the call. -/
theorem mem_lasting {lease : Option Nat} {time : Option Nat} {deadline : Nat}
    (member : deadline ∈ lease.filter (fun deadline => time.all (fun now => now < deadline))) :
    deadline ∈ lease ∧ ∀ now ∈ time, now < deadline := by
  rw [Option.mem_def, Option.filter_eq_some_iff] at member
  refine ⟨member.1, ?_⟩
  rintro now ⟨⟩
  exact of_decide_eq_true member.2

/-- A call that takes no response for an answer does not make the client forget. -/
theorem remembers_call {inner : Inner} {call : Call} {deadline : Nat}
    (sound : Sound True ⟨none, inner⟩) (delivered : call.Delivered) (pulls : call ≠ .pullEvent)
    (kept : ∀ status, call ≠ .forceDestroy status)
    (answer : (call.occasion digests inner).answer = none)
    (lasts : (call.occasion digests inner).now < deadline) (remembers : Remembers inner deadline) :
    Remembers (inner.call digests call).1 deadline := by
  apply remembers_moved (moved_call digests inner call pulls kept) _ sound lasts _ _ remembers
  · cases call with
    | inputStun readings packet => exact delivered
    | _ => exact Nat.zero_le _
  · intro operation message some
    rw [answer] at some
    cases some
  · intro operation message code some
    rw [answer] at some
    cases some

/-- An Allocate response that the client cannot use is malformed. -/
theorem completeSuccess_unusable (inner : Inner) (readings : Readings) (message : Message)
    (unusable : inner.usable message = false) :
    ∃ failure, inner.completeSuccess digests readings .allocate message =
      (.error failure, inner) := by
  unfold Inner.usable at unusable
  unfold Inner.completeSuccess
  dsimp only
  cases address : inner.relayedAddress message with
  | error failure => exact ⟨failure, rfl⟩
  | ok relay =>
    dsimp only
    rw [address, Except.toOption, Option.isSome_some, Bool.true_and] at unusable
    have zero : ((attributeU32 message attrLifetime).getD requestedAllocationLifetimeSecs == 0) =
        true := by
      rw [bne, Bool.not_eq_false'] at unusable
      exact unusable
    rw [if_pos zero]
    exact ⟨_, rfl⟩

/-- A Refresh response without a lifetime is malformed. -/
theorem completeSuccess_over (inner : Inner) (readings : Readings) (message : Message)
    (ended : lifetimeOf message = 0) :
    ∃ failure, inner.completeSuccess digests readings .refresh message =
      (.error failure, inner) := by
  unfold Inner.completeSuccess
  dsimp only
  rw [if_pos]
  · exact ⟨_, rfl⟩
  · rw [beq_iff_eq, ← UInt32.toNat_inj]
    unfold lifetimeOf seconds at ended
    exact (Nat.mul_eq_zero.mp ended).resolve_right (by decide)

/-- A positive response that does not extend the allocation does not make the client forget. -/
theorem remembers_success {inner : Inner} {packet : List UInt8} {pending : Pending}
    {message : Message} {deadline : Nat} (readings : Readings)
    (answered : inner.answered digests packet = some (pending, message))
    (success : message.class = .success) (sound : Sound True ⟨none, inner⟩)
    (delivered : packet.length ≤ deliveredMax)
    (other : pending.authenticated = true → (pending.operation = .allocate →
      inner.usable message = false) ∧ (pending.operation = .refresh → lifetimeOf message = 0))
    (lasts : readings.now < deadline) (remembers : Remembers inner deadline) :
    Remembers (inner.inputStun digests readings packet).2 deadline := by
  obtain ⟨decoded, _, found, same⟩ := inputStun_answered digests answered readings
  have taken : Moved digests ⟨readings.now, none, packet.length, false⟩ ⟨none, inner⟩
      ⟨some (pending.operation, pending.authenticated), inner.without message⟩ :=
    moved_without digests found
  have failed : ∀ status code, Remembers
      ((inner.without message).completeFailure pending.operation status code readings.now)
        deadline := by
    intro status code
    have moved := taken.trans (moved_completeFailure (inner.without message) pending.operation
      status code (.inl ⟨_, rfl⟩))
    exact remembers_moved moved delivered sound lasts nofun nofun remembers
  cases authenticated : pending.authenticated with
  | false =>
    rw [same]
    unfold Inner.answer
    rw [if_pos ⟨success, by rw [authenticated]; exact Bool.false_ne_true⟩]
    exact failed _ _
  | true =>
    by_cases asked : pending.operation = .allocate ∨ pending.operation = .refresh
    · have malformed : ∃ failure, (inner.without message).completeSuccess digests readings
          pending.operation message = (.error failure, inner.without message) := by
        cases asked with
        | inl allocate =>
          rw [allocate]
          exact completeSuccess_unusable digests _ readings message
            ((other authenticated).1 allocate)
        | inr refresh =>
          rw [refresh]
          exact completeSuccess_over digests _ readings message ((other authenticated).2 refresh)
      obtain ⟨failure, malformed⟩ := malformed
      rw [inputStun_malformed digests answered success authenticated readings malformed]
      exact failed _ _
    · rw [not_or] at asked
      have reply : (Call.occasion digests inner (.inputStun readings packet)).answer =
          some (pending.operation, message) := by
        show (inner.answered digests packet).map _ = _
        rw [answered]
        rfl
      apply remembers_moved (moved_inputStun digests inner readings packet) delivered sound lasts _
        _ remembers
      · intro operation response some _
        rw [reply] at some
        cases some
        exact asked
      · intro operation response code some error
        rw [reply] at some
        cases some
        rw [success] at error
        cases error

/-- An error response that does not end the allocation does not make the client forget. -/
theorem remembers_error {inner : Inner} {packet : List UInt8} {pending : Pending}
    {message : Message} {deadline : Nat} (readings : Readings)
    (answered : inner.answered digests packet = some (pending, message))
    (error : message.class = .error) (sound : Sound True ⟨none, inner⟩)
    (delivered : packet.length ≤ deliveredMax)
    (kept : requiresAllocationRecreate pending.operation ((errorCode message).getD 0) = false)
    (lasts : readings.now < deadline) (remembers : Remembers inner deadline) :
    Remembers (inner.inputStun digests readings packet).2 deadline := by
  have reply : (Call.occasion digests inner (.inputStun readings packet)).answer =
      some (pending.operation, message) := by
    show (inner.answered digests packet).map _ = _
    rw [answered]
    rfl
  apply remembers_moved (moved_inputStun digests inner readings packet) delivered sound lasts _ _
    remembers
  · intro operation response some success
    rw [reply] at some
    cases some
    rw [error] at success
    cases success
  · intro operation response code some _ found
    rw [reply] at some
    cases some
    rw [found] at kept
    exact kept

/-- What is remembered of the allocation after an answer is what the client remembers. -/
theorem remembers_answered {inner : Inner} {packet : List UInt8} {pending : Pending}
    {message : Message} {lease : Option Nat} {deadline : Nat} (readings : Readings)
    (answered : inner.answered digests packet = some (pending, message))
    (sound : Sound True ⟨none, inner⟩) (delivered : packet.length ≤ deliveredMax)
    (held : ∀ time ∈ lease, Remembers inner time ∧ readings.now < time)
    (member : deadline ∈ leaseAnswered usualTerms inner readings.now pending message lease) :
    Remembers (inner.inputStun digests readings packet).2 deadline := by
  have response := (inputStun_answered digests answered readings).2.1
  unfold leaseAnswered at member
  by_cases error : message.class = .error
  · rw [if_pos error] at member
    split at member
    · cases member
    · rename_i kept
      have still := held deadline member
      exact remembers_error digests readings answered error sound delivered
        (Bool.eq_false_of_not_eq_true kept) still.2 still.1
  · rw [if_neg error] at member
    have success := response.resolve_right error
    have unchanged := fun other still =>
      have lasts := held deadline still
      remembers_success digests readings answered success sound delivered other lasts.2 lasts.1
    have unasked (allocates : pending.operation ≠ .allocate)
        (refreshes : pending.operation ≠ .refresh) (still : deadline ∈ lease) :=
      unchanged (fun _ => ⟨fun allocate => absurd allocate allocates,
        fun refresh => absurd refresh refreshes⟩) still
    by_cases authenticated : pending.authenticated = true
    · rw [if_pos authenticated] at member
      cases operation : pending.operation with
      | allocate =>
        rw [operation] at member
        dsimp only at member
        split at member
        · rename_i usable
          cases member
          cases inputStun_granted digests answered success authenticated readings sound operation
              usable with
          | inl granted => exact .inr ⟨granted.2.1, .inl granted.2.2⟩
          | inr late =>
            exact .inl (moved_closing (moved_inputStun digests inner readings packet) late.1)
        · rename_i unusable
          refine unchanged (fun _ => ⟨fun _ => ?_, fun refresh => ?_⟩) member
          · exact Bool.eq_false_of_not_eq_true unusable
          · exact absurd (operation.symm.trans refresh) nofun
      | refresh =>
        rw [operation] at member
        dsimp only at member
        split at member
        · rename_i ended
          refine unchanged (fun _ => ⟨fun allocate => ?_, fun _ => ended⟩) member
          exact absurd (operation.symm.trans allocate) nofun
        · rename_i lasts
          obtain ⟨before, still, rfl⟩ := Option.map_eq_some_iff.mp member
          have extended := inputStun_extended digests answered success authenticated readings
            operation lasts
          unfold Remembers
          rw [extended.1, extended.2.1, extended.2.2]
          exact (held before still).1.imp_right (fun kept => ⟨rfl, kept.2⟩)
      | deallocate =>
        have neither : pending.operation ≠ .allocate ∧ pending.operation ≠ .refresh := by
          rw [operation]
          exact ⟨nofun, nofun⟩
        rw [operation] at member
        dsimp only at member
        split at member
        · cases member
        · exact unasked neither.1 neither.2 member
      | permission | channel =>
        have neither : pending.operation ≠ .allocate ∧ pending.operation ≠ .refresh := by
          rw [operation]
          exact ⟨nofun, nofun⟩
        rw [operation] at member
        exact unasked neither.1 neither.2 member
    · rw [if_neg authenticated] at member
      exact unchanged (fun authentic => absurd authentic authenticated) member

/-- What is remembered of the allocation after a call, as far as the responses tell it, is what the
client remembers. -/
theorem remembers_lease (inner : Inner) (lease : Option Nat) (call : Call)
    (sound : Sound True ⟨none, inner⟩) (delivered : call.Delivered)
    (held : ∀ deadline ∈ lease, Remembers inner deadline) :
    ∀ deadline ∈ leaseAfter digests usualTerms inner lease call,
      Remembers (inner.call digests call).1 deadline := by
  intro deadline member
  -- calls that read the clock and take in nothing
  have quiet : ∀ (readings : Readings), call.time = some readings.now →
      (call.occasion digests inner).now = readings.now →
      (call.occasion digests inner).answer = none → call ≠ .pullEvent →
      (∀ status, call ≠ .forceDestroy status) →
      deadline ∈ lease.filter (fun deadline => call.time.all (fun now => now < deadline)) →
      Remembers (inner.call digests call).1 deadline := by
    intro readings time clock answer pulls kept lasting
    obtain ⟨before, lasts⟩ := mem_lasting lasting
    have later := lasts readings.now time
    exact remembers_call digests sound delivered pulls kept answer (clock.symm ▸ later)
      (held deadline before)
  cases call with
  | startAllocation readings => exact quiet readings rfl rfl rfl nofun nofun member
  | startChannel readings => exact quiet readings rfl rfl rfl nofun nofun member
  | startPermission readings => exact quiet readings rfl rfl rfl nofun nofun member
  | poll readings => exact quiet readings rfl rfl rfl nofun nofun member
  | gracefulShutdown readings => exact quiet readings rfl rfl rfl nofun nofun member
  | pullControl =>
    have before := held deadline (mem_lasting member).1
    show Remembers inner.pullControl.2 deadline
    unfold Inner.pullControl
    split
    · exact before
    · exact before
  | pullEvent => exact held deadline (mem_lasting member).1
  | forceDestroy status => cases member
  | inputStun readings packet =>
    show Remembers (inner.inputStun digests readings packet).2 deadline
    unfold leaseAfter at member
    dsimp only at member
    cases answered : inner.answered digests packet with
    | none =>
      rw [answered] at member
      apply quiet readings rfl rfl _ nofun nofun member
      show (inner.answered digests packet).map _ = none
      rw [answered]
      rfl
    | some answer =>
      obtain ⟨pending, message⟩ := answer
      rw [answered] at member
      refine remembers_answered digests readings answered sound delivered (fun time still => ?_)
        member
      exact ⟨held time (mem_lasting still).1, (mem_lasting still).2 readings.now rfl⟩

/-- Nothing is taken for an answer by a client that was torn down. -/
theorem leaseAfter_gone {inner : Inner} (gone : Gone inner) (terms : Terms) (call : Call) :
    leaseAfter digests terms inner none call = none := by
  cases call with
  | inputStun readings packet =>
    have nothing : inner.answered digests packet = none := by
      unfold Inner.answered
      rw [gone.pending]
      split
      · rfl
      · split
        · rfl
        · split <;> rfl
    unfold leaseAfter
    dsimp only
    rw [nothing]
    rfl
  | _ => rfl

/-- What the responses of a run tell of the allocation, the client remembers. -/
theorem remembers_run (inner : Inner) (lease : Option Nat) (calls : List Call)
    (delivered : ∀ call ∈ calls, call.Delivered)
    (held : (Sound True ⟨none, inner⟩ ∧ ∀ deadline ∈ lease, Remembers inner deadline) ∨
      (Gone inner ∧ lease = none)) (deadline : Nat)
    (lasts : deadline ∈ leaseOf digests usualTerms inner lease calls) :
    Sound True ⟨none, Mealy.final (Inner.call digests) inner calls⟩ ∧
      Remembers (Mealy.final (Inner.call digests) inner calls) deadline := by
  induction calls generalizing inner lease with
  | nil =>
    cases held with
    | inl sound => exact ⟨sound.1, sound.2 deadline lasts⟩
    | inr gone =>
      rw [gone.2] at lasts
      cases lasts
  | cons call rest ih =>
    have here := delivered call List.mem_cons_self
    apply ih (inner.call digests call).1 (leaseAfter digests usualTerms inner lease call)
      (fun later member => delivered later (List.mem_cons_of_mem _ member)) _ lasts
    cases held with
    | inr gone =>
      right
      rw [gone.2]
      exact ⟨gone_call digests inner call gone.1, leaseAfter_gone digests gone.1 _ call⟩
    | inl sound =>
      by_cases destroys : ∃ status, call = .forceDestroy status
      · obtain ⟨status, rfl⟩ := destroys
        exact .inr ⟨gone_forceDestroy sound.1 status, rfl⟩
      · left
        constructor
        · exact sound_call digests inner call sound.1 (fun _ => here)
            (fun status same => destroys ⟨status, same⟩)
        · exact remembers_lease digests inner lease call sound.1 here sound.2

/-- Only a shutdown shuts the client down. -/
theorem wanted_run (inner : Inner) (calls : List Call) (wanted : inner.shuttingDown = false)
    (none : ∀ readings, .gracefulShutdown readings ∉ calls) :
    (Mealy.final (Inner.call digests) inner calls).shuttingDown = false := by
  induction calls generalizing inner with
  | nil => exact wanted
  | cons call rest ih =>
    apply ih
    · by_cases destroys : ∃ status, call = .forceDestroy status
      · obtain ⟨status, rfl⟩ := destroys
        show (inner.forceDestroy status).shuttingDown = false
        unfold Inner.forceDestroy
        split
        · exact wanted
        · rw [pushEvent_eq, setState_eq]
          exact wanted
      · by_cases pulls : call = .pullEvent
        · subst pulls
          exact wanted
        · apply moved_open (moved_call digests inner call pulls
            (fun status same => destroys ⟨status, same⟩)) _ wanted
          cases call with
          | gracefulShutdown readings => exact absurd List.mem_cons_self (none readings)
          | _ => rfl
    · exact fun readings member => none readings (List.mem_cons_of_mem _ member)

/-- A client that is shut down stays so. -/
theorem closing_call (inner : Inner) (call : Call) (closing : inner.shuttingDown = true) :
    (inner.call digests call).1.shuttingDown = true := by
  by_cases destroys : ∃ status, call = .forceDestroy status
  · obtain ⟨status, rfl⟩ := destroys
    show (inner.forceDestroy status).shuttingDown = true
    unfold Inner.forceDestroy
    split
    · exact closing
    · rw [pushEvent_eq, setState_eq]
      exact closing
  · by_cases pulls : call = .pullEvent
    · subst pulls
      exact closing
    · exact moved_closing (moved_call digests inner call pulls
        (fun status same => destroys ⟨status, same⟩)) closing

/-- A shutdown shuts the client down, unless it was torn down. -/
theorem gracefulShutdown_closes (inner : Inner) (readings : Readings)
    (alive : inner.destroyed = false) :
    (inner.gracefulShutdown digests readings).2.shuttingDown = true := by
  unfold Inner.gracefulShutdown
  rw [alive, Bool.false_or]
  split
  · rename_i closing
    exact closing
  · dsimp only
    split
    · have moved : Moved digests ⟨readings.now, none, 0, true⟩ ⟨some (.deallocate, true),
          { inner.quiet with pending := [] }.setState .deallocating⟩ _ :=
        moved_start _ readings .deallocate true
      apply moved_closing moved
      rw [setState_eq]
      rfl
    · split
      · rfl
      · rfl

/-- After a shutdown the client is shut down or was torn down. -/
theorem closing_run (inner : Inner) (calls : List Call) (valid : Valid True inner)
    (delivered : ∀ call ∈ calls, call.Delivered)
    (shut : inner.shuttingDown = true ∨ ∃ readings, .gracefulShutdown readings ∈ calls) :
    (Mealy.final (Inner.call digests) inner calls).shuttingDown = true ∨
      Gone (Mealy.final (Inner.call digests) inner calls) := by
  induction calls generalizing inner with
  | nil =>
    cases shut with
    | inl closing => exact .inl closing
    | inr called =>
      obtain ⟨readings, member⟩ := called
      cases member
  | cons call rest ih =>
    cases valid with
    | inr gone => exact .inr (gone_run digests inner (call :: rest) gone)
    | inl sound =>
      apply ih
      · exact valid_call digests inner call (.inl sound)
          (fun _ => delivered call List.mem_cons_self)
      · exact fun later member => delivered later (List.mem_cons_of_mem _ member)
      · cases shut with
        | inl closing => exact .inl (closing_call digests inner call closing)
        | inr called =>
          obtain ⟨readings, member⟩ := called
          cases List.mem_cons.mp member with
          | inl here =>
            subst here
            exact .inl (gracefulShutdown_closes digests inner readings sound.undestroyed)
          | inr later => exact .inr ⟨readings, later⟩

/-- No allocation is leaked: as long as the responses say that it lasts, the first shutdown gives it
back, and an allocation that is granted after a shutdown is given back at once. -/
theorem releases_run (server : SocketAddr) (username password : List UInt8) (peer : SocketAddr)
    (profile : CsqttTurnProfile) (transport : TurnControlTransport) (start : Inner)
    (created : Inner.create server username password peer profile transport = .ok start)
    (calls : List Call) (delivered : ∀ call ∈ calls, call.Delivered) :
    Releases digests usualTerms start calls := by
  have fresh : Sound True ⟨none, start⟩ := sound_create created
  constructor
  · intro lasts first readings
    obtain ⟨deadline, lease⟩ := Option.isSome_iff_exists.mp lasts
    have kept := remembers_run digests start none calls delivered (.inl ⟨fresh, nofun⟩) deadline
      lease
    have wanted := wanted_run digests start calls (create_wanted created) first
    exact gracefulShutdown_givesBack digests kept.1 wanted kept.2 readings
  · intro readings packet pending message answered success allocate authenticated usable shut
    have closed := closing_run digests start calls (.inl fresh) delivered (.inr shut)
    cases valid_run digests start calls (.inl fresh) delivered with
    | inr gone =>
      have found := (inputStun_answered digests answered readings).2.2.1
      rw [gone.pending] at found
      cases found
    | inl sound =>
      have closing := closed.resolve_right
        (fun gone => absurd (sound.undestroyed.symm.trans gone.destroyed) nofun)
      cases inputStun_granted digests answered success authenticated readings sound allocate
          usable with
      | inl wanted => exact absurd (wanted.1.symm.trans closing) nofun
      | inr late => exact late.2

end Deallocate

/-- In every run of every client, allocations are given back, by these terms. -/
def NeverLeaks (terms : Terms) : Prop :=
  ∀ (digests : Digests) (server : SocketAddr) (username password : List UInt8) (peer : SocketAddr)
    (profile : CsqttTurnProfile) (transport : TurnControlTransport) (start : Inner)
    (calls : List Call),
      Inner.create server username password peer profile transport = .ok start →
        (∀ call ∈ calls, call.Delivered) → Releases digests terms start calls

/-- Terms by which every positive Allocate response makes an allocation. -/
def openTerms : Terms := { usualTerms with grants := fun _ _ => true }

/-- Terms by which only an allocation mismatch ends the allocation. -/
def strictTerms : Terms := { usualTerms with ends := fun _ code => code == 437 }

/-- Terms by which every positive Allocate response makes an allocation, and only an allocation
mismatch ends it. -/
def bareTerms : Terms := { strictTerms with grants := fun _ _ => true }

/-- The client of `user` gets its allocation, and the binding of the channel is refused. -/
def refusedRun : List Call :=
  allocatedRun ++
    [.startChannel (readingsAt 0 0x202122232425262728292a2b),
      .inputStun (readingsAt 0 0)
        (Bytes.be 28 0x011900082112a442202122232425262728292a2b0009000400000400)]

/-- The digests of a response without any attributes but MESSAGE-INTEGRITY. -/
def emptyDigests : Digests where
  md5 := runDigests.md5
  hmac := fun key data =>
    if key = userKey ∧ data = Bytes.be 20 0x010300182112a442101112131415161718191a1b then
      .ofList (Bytes.be 20 0x93a9c94fcf7dc1542d26933f7abe193b8be5c208)
    else runDigests.hmac key data
  crc32 := runDigests.crc32

/-- The client of `user` gets an Allocate response without an address. -/
def emptyRun : List Call :=
  challenged ++
    [.inputStun (readingsAt 0 0)
      (Bytes.be 20 0x010300182112a442101112131415161718191a1b ++
        Bytes.be 24 0x0008001493a9c94fcf7dc1542d26933f7abe193b8be5c208)]

/-- A shutdown that queues nothing gives nothing back. -/
theorem not_givesBack {inner : Inner} {transaction : Bytes.Octets 12}
    (nothing : inner.controls = []) : ¬GivesBack inner transaction := by
  rintro ⟨control, message, last, _⟩
  rw [nothing] at last
  cases last

/-- A refused binding of the channel and an Allocate response without an address each leave an
allocation behind that is not given back. -/
theorem refusedRun_leaks :
    ¬NeverLeaks bareTerms ∧ ¬NeverLeaks strictTerms ∧ ¬NeverLeaks openTerms := by
  have first : ∀ readings, .gracefulShutdown readings ∉ refusedRun := by
    intro readings member
    simp [refusedRun, allocatedRun, challenged] at member
  have quiet : ((Mealy.final (Inner.call runDigests) userClient refusedRun).gracefulShutdown
      runDigests (readingsAt 1 0)).2.controls = [] := by decide +kernel
  have delivered : ∀ call ∈ refusedRun, call.Delivered := by decide +kernel
  refine ⟨?_, ?_, ?_⟩
  · intro never
    have lasts : (leaseOf runDigests bareTerms userClient none refusedRun).isSome := by
      decide +kernel
    have released := never runDigests userClient.server userClient.username userClient.password
      userClient.peer userClient.profile userClient.transport userClient refusedRun rfl delivered
    exact not_givesBack quiet (released.1 lasts first (readingsAt 1 0))
  · intro never
    have lasts : (leaseOf runDigests strictTerms userClient none refusedRun).isSome := by
      decide +kernel
    have released := never runDigests userClient.server userClient.username userClient.password
      userClient.peer userClient.profile userClient.transport userClient refusedRun rfl delivered
    exact not_givesBack quiet (released.1 lasts first (readingsAt 1 0))
  · intro never
    have lasts : (leaseOf emptyDigests openTerms userClient none emptyRun).isSome := by
      decide +kernel
    have quietly : ((Mealy.final (Inner.call emptyDigests) userClient emptyRun).gracefulShutdown
        emptyDigests (readingsAt 1 0)).2.controls = [] := by decide +kernel
    have released := never emptyDigests userClient.server userClient.username userClient.password
      userClient.peer userClient.profile userClient.transport userClient emptyRun rfl
      (by decide +kernel)
    refine not_givesBack quietly (released.1 lasts ?_ (readingsAt 1 0))
    intro readings member
    simp [emptyRun, challenged] at member

/-- The client of `user` gives its allocation back, by a shutdown or at once. -/
theorem userClient_releases :
    GivesBack ((Mealy.final (Inner.call runDigests) userClient allocatedRun).gracefulShutdown
      runDigests (readingsAt 1 7)).2 (.ofList (Bytes.be 12 7)) ∧
    GivesBack ((Mealy.final (Inner.call runDigests) userClient
      (challenged ++ [.gracefulShutdown (readingsAt 0 0)])).inputStun runDigests
        (readingsAt 0 8) coveredResponse).2 (.ofList (Bytes.be 12 8)) := by
  have release := fun calls delivered => releases_run runDigests userClient.server
    userClient.username userClient.password userClient.peer userClient.profile
    userClient.transport userClient rfl calls delivered
  constructor
  · have released := release allocatedRun (by decide +kernel)
    apply released.1 (by decide +kernel) _ (readingsAt 1 7)
    intro readings member
    simp [allocatedRun, challenged] at member
  · have released := release (challenged ++ [.gracefulShutdown (readingsAt 0 0)])
      (by decide +kernel)
    have checked : ((Mealy.final (Inner.call runDigests) userClient
        (challenged ++ [.gracefulShutdown (readingsAt 0 0)])).answered runDigests
          coveredResponse).any (fun answer => answer.2.class == .success &&
            answer.1.operation == .allocate && answer.1.authenticated &&
              usualTerms.grants (Mealy.final (Inner.call runDigests) userClient
                (challenged ++ [.gracefulShutdown (readingsAt 0 0)])) answer.2) = true := by
      decide +kernel
    obtain ⟨answer, answered, good⟩ := (Option.any_eq_true _ _).mp checked
    simp only [Bool.and_eq_true, beq_iff_eq] at good
    exact released.2 (readingsAt 0 8) coveredResponse answer.1 answer.2 answered good.1.1.1
      good.1.1.2 good.1.2 good.2 ⟨readingsAt 0 0, List.mem_append_right _ List.mem_cons_self⟩

end Focsq.Turn
