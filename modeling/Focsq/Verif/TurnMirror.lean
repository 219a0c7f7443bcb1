import Focsq.Backend.TurnDriver
import Focsq.Verif.TurnInvariant

/-!
# What the driver knows of the TURN client

The driver learns the state and the channel of the client from its events. Taking the events in one
after another leads from what the driver saw last to what there is to be seen, unless an event was
dropped; a dropped event leaves a note behind, and the driver gives up when it finds it.
-/

namespace Focsq.Turn

/-- What can be seen of the client: its state, and the channel that data can be sent on. -/
structure Sight where
  /-- The state. -/
  state : TurnState
  /-- The channel. -/
  channel : Option UInt16
  deriving DecidableEq

/-- What is seen after an event. -/
def Sight.see (sight : Sight) (event : NativeEvent) : Sight :=
  match event.kind with
  | .state => ⟨event.state, if event.state = .ready then sight.channel else none⟩
  | .channelBound => ⟨sight.state, some event.channel⟩
  | _ => sight

/-- The channel of the client, as long as it is ready. -/
def Inner.usableChannel (inner : Inner) : Option UInt16 :=
  if inner.state = .ready then inner.channel else none

/-- What there is to be seen of the client. -/
def Inner.sight (inner : Inner) : Sight := ⟨inner.state, inner.usableChannel⟩

/-- There is a note of a dropped event. -/
def Overflowed (events : List NativeEvent) : Prop := ∃ event ∈ events, event.kind = .eventOverflow

/-- Whether there is such a note can be decided. -/
instance decidableOverflowed (events : List NativeEvent) : Decidable (Overflowed events) :=
  inferInstanceAs (Decidable (∃ event ∈ events, event.kind = .eventOverflow))

/-- The event of the bound channel. -/
def Inner.channelEvent (inner : Inner) : NativeEvent :=
  { kind := .channelBound, channel := channelNumber, address := .fromSocketAddr inner.peer }

/-- The events tell what there is to be seen to whoever saw `sight` before. -/
structure Tells (excused : Prop) (inner : Inner) (sight : Sight) : Prop where
  /-- They lead to what there is to be seen, unless one was dropped or there is an excuse. -/
  reported : excused ∨ Overflowed inner.events ∨
    inner.events.foldl Sight.see sight = inner.sight
  /-- The only channel that is bound is that of the peer. -/
  announced : ∀ event ∈ inner.events, event.kind = .channelBound → event = inner.channelEvent

section Tells

variable {excused : Prop} {inner : Inner} {sight : Sight}

/-- An event that is not about the state or the channel does not show. -/
theorem see_plain (sight : Sight) (event : NativeEvent) (plain : event.kind ≠ .state)
    (other : event.kind ≠ .channelBound) : sight.see event = sight := by
  unfold Sight.see
  cases kind : event.kind with
  | state => exact absurd kind plain
  | channelBound => exact absurd kind other
  | _ => rfl

/-- An event is appended, unless one is dropped, and a note of that stays. -/
theorem pushEvent_events (inner : Inner) (event : NativeEvent) :
    (inner.pushEvent event).events = inner.events ++ [event] ∨
      Overflowed (inner.pushEvent event).events := by
  unfold Inner.pushEvent
  by_cases full : inner.events.length = eventCapacity
  · rw [if_pos full]
    exact .inr ⟨_, List.mem_append_right _ List.mem_cons_self, rfl⟩
  · rw [if_neg full]
    exact .inl rfl

/-- A note of a dropped event is dropped only for another one. -/
theorem Overflowed.pushEvent (missing : Overflowed inner.events) (event : NativeEvent) :
    Overflowed (inner.pushEvent event).events := by
  cases pushEvent_events inner event with
  | inr noted => exact noted
  | inl appended =>
    obtain ⟨note, member, kind⟩ := missing
    rw [appended]
    exact ⟨note, List.mem_append_left _ member, kind⟩

/-- The events of a client after one more: it may be among them. -/
theorem mem_pushEvent {event other : NativeEvent}
    (member : other ∈ (inner.pushEvent event).events) :
    other ∈ inner.events ∨ other = event ∨ other.kind = .eventOverflow := by
  unfold Inner.pushEvent at member
  by_cases full : inner.events.length = eventCapacity
  · rw [if_pos full] at member
    cases List.mem_append.mp member with
    | inl old => exact .inl (List.mem_of_mem_tail old)
    | inr new =>
      rw [List.mem_singleton.mp new]
      exact .inr (.inr rfl)
  · rw [if_neg full] at member
    cases List.mem_append.mp member with
    | inl old => exact .inl old
    | inr new => exact .inr (.inl (List.mem_singleton.mp new))

/-- Fields that cannot be seen may change. -/
theorem Tells.kept (tells : Tells excused inner sight) {next : Inner}
    (events : next.events = inner.events) (peer : next.peer = inner.peer)
    (seen : next.sight = inner.sight) : Tells excused next sight where
  reported := by
    rw [events, seen]
    exact tells.reported
  announced := by
    unfold Inner.channelEvent
    rw [events, peer]
    exact tells.announced

/-- There may be more excuses. -/
theorem Tells.weaken {excused' : Prop} (tells : Tells excused inner sight)
    (excuse : excused → excused') : Tells excused' inner sight :=
  ⟨tells.reported.imp_left excuse, tells.announced⟩

/-- An event shows as much as the client has changed with it. -/
theorem Tells.told (tells : Tells excused inner sight) {next : Inner} (event : NativeEvent)
    (events : next.events = inner.events) (peer : next.peer = inner.peer)
    (seen : next.sight = inner.sight.see event)
    (announced : event.kind = .channelBound → event = inner.channelEvent) :
    Tells excused (next.pushEvent event) sight where
  reported := by
    cases pushEvent_events next event with
    | inr noted => exact .inr (.inl noted)
    | inl appended =>
      rcases tells.reported with excuse | missing | reported
      · exact .inl excuse
      · rw [← events] at missing
        exact .inr (.inl (missing.pushEvent event))
      · right
        right
        have same : (next.pushEvent event).sight = next.sight := by
          rw [pushEvent_eq]
          rfl
        rw [appended, List.foldl_append, events, reported, same, seen]
        rfl
  announced := by
    intro other member kind
    have same : (next.pushEvent event).channelEvent = inner.channelEvent := by
      rw [pushEvent_eq]
      unfold Inner.channelEvent
      rw [show ({ next with events := _ } : Inner).peer = inner.peer from peer]
    rw [same]
    rcases mem_pushEvent member with old | new | note
    · rw [events] at old
      exact tells.announced other old kind
    · rw [new] at kind ⊢
      exact announced kind
    · rw [kind] at note
      cases note

/-- An event that is not about the state or the channel. -/
theorem Tells.noted (tells : Tells excused inner sight) {event : NativeEvent}
    (plain : event.kind ≠ .state) (other : event.kind ≠ .channelBound) :
    Tells excused (inner.pushEvent event) sight := by
  apply tells.told event rfl rfl
  · rw [see_plain _ event plain other]
  · exact fun kind => absurd kind other

/-- A packet that is queued. -/
theorem Tells.queuePacket (tells : Tells excused inner sight) (packet : List UInt8) :
    Tells excused (inner.queuePacket packet) sight := by
  unfold Inner.queuePacket
  dsimp only
  by_cases full : inner.controls.length = controlCapacity
  · rw [if_pos full]
    have dropped : Tells excused { inner with controls := inner.controls.tail } sight :=
      tells.kept rfl rfl rfl
    have noted : Tells excused ({ inner with controls := inner.controls.tail }.pushEvent
        { kind := .controlOverflow, status := resultBufferTooSmall, dropped := 1 }) sight :=
      dropped.noted (fun same => by cases same) (fun same => by cases same)
    exact noted.kept rfl rfl rfl
  · rw [if_neg full]
    exact tells.kept rfl rfl rfl

/-- A channel cannot be used in any other state than ready. -/
theorem usableChannel_none (other : inner.state ≠ .ready) : inner.usableChannel = none :=
  if_neg other

/-- A client that is not ready shows its state only. -/
theorem sight_unready {next : Inner} (state : next.state = inner.state)
    (other : inner.state ≠ .ready) : next.sight = inner.sight := by
  unfold Inner.sight
  rw [usableChannel_none other, usableChannel_none (state ▸ other), state]

/-- A new state is told; the client has no channel when it gets ready. -/
theorem Tells.setState (tells : Tells excused inner sight) {next : Inner} (state : TurnState)
    (events : next.events = inner.events) (peer : next.peer = inner.peer)
    (same : next.state = inner.state)
    (unbound : state = .ready → next.channel = none ∧ inner.state ≠ .ready) :
    Tells excused (next.setState state) sight := by
  unfold Inner.setState
  by_cases stays : next.state = state
  · rw [if_pos stays]
    have other : inner.state ≠ .ready := by
      intro ready
      exact (unbound (stays.symm.trans (same.trans ready))).2 ready
    exact tells.kept events peer (sight_unready same other)
  · rw [if_neg stays]
    refine tells.told _ events peer ?_ (fun kind => by cases kind)
    show Sight.mk state (if state = .ready then next.channel else none) =
      Sight.mk state (if state = .ready then inner.usableChannel else none)
    by_cases ready : state = .ready
    · obtain ⟨none, other⟩ := unbound ready
      rw [none, usableChannel_none other]
    · rw [if_neg ready, if_neg ready]

/-- A state that is not ready is told. -/
theorem Tells.left (tells : Tells excused inner sight) {next : Inner} (state : TurnState)
    (other : state ≠ .ready) (events : next.events = inner.events)
    (peer : next.peer = inner.peer) (same : next.state = inner.state) :
    Tells excused (next.setState state) sight :=
  tells.setState state events peer same (fun ready => absurd ready other)

/-- The relayed address is told. -/
theorem Tells.grantedBy (tells : Tells excused inner sight) (now : Nat) (relay : SocketAddr)
    (returned : Option UInt32) : Tells excused (inner.grantedBy now relay returned) sight := by
  unfold Inner.grantedBy
  apply Tells.noted
  · exact tells.kept rfl rfl rfl
  · exact fun same => by cases same
  · exact fun same => by cases same

/-- The events after one more do not depend on anything else. -/
theorem pushEvent_congr {next : Inner} (event : NativeEvent)
    (events : next.events = inner.events) :
    (next.pushEvent event).events = (inner.pushEvent event).events := by
  unfold Inner.pushEvent
  rw [events]
  split <;> rfl

end Tells

/-- Every move is told. -/
theorem tells_moves {digests : Digests} {occasion : Occasion} {before after : Stage}
    {excused : Prop} {sight : Sight} (move : Moves digests occasion before after)
    (sound : Sound False before)
    (tells : Tells excused before.inner sight) : Tells excused after.inner sight := by
  cases move with
  | note event plain other => exact tells.noted plain other
  | send packet => exact tells.queuePacket packet
  | unqueue controls => exact tells.kept rfl rfl rfl
  | take front pending rest among => exact tells.kept rfl rfl rfl
  | again front pending next rest among operation authenticated => exact tells.kept rfl rfl rfl
  | @ask inner operation next cleared phase ready missing =>
    cases cleared with
    | inl same => exact same ▸ tells
    | inr cleared =>
      subst cleared
      cases operation <;> exact tells.kept rfl rfl rfl
  | begin null => exact tells.left .allocating (by decide) rfl rfl rfl
  | place pending => exact tells.kept rfl rfl rfl
  | stuck operation authenticated cannot => exact tells
  | renew operation authenticated realm nonce realmFits nonceFits => exact tells.kept rfl rfl rfl
  | putOff operation authenticated phase live retried =>
    rw [scheduleMaintenanceRetry_eq]
    exact tells.kept rfl rfl rfl
  | lose operation held why =>
    refine tells.left operation.lost ?_ rfl rfl rfl
    cases operation <;> decide
  | exhaust authenticated =>
    rw [scheduleMaintenanceRetry_eq, Inner.destroyAfterChannelRebindExhausted]
    have noted : Tells excused (Inner.pushEvent _
        { kind := .channelRebindExhausted, status := resultTimeout, state := .destroying }) sight :=
      tells.noted (fun same => by cases same) (fun same => by cases same)
    refine noted.left .destroying (by decide) (pushEvent_congr _ rfl) ?_ ?_
    · rw [pushEvent_eq, pushEvent_eq (Stage.inner _)]
      rfl
    · rw [pushEvent_eq, pushEvent_eq (Stage.inner _)]
      rfl
  | @granted inner message relay answer success wanted =>
    have other : inner.state ≠ .ready := by
      rw [← sound.phase _ List.mem_cons_self]
      decide
    refine (tells.grantedBy occasion.now relay _).setState .ready rfl rfl rfl (fun _ => ?_)
    unfold Inner.grantedBy
    rw [pushEvent_eq]
    exact ⟨sound.unbound other, other⟩
  | grantedLate message relay answer success closing =>
    exact (tells.grantedBy occasion.now relay _).left .deallocating (by decide) rfl rfl rfl
  | extended message authenticated answer success => exact tells.kept rfl rfl rfl
  | clear authenticated => exact tells.kept rfl rfl rfl
  | settle authenticated => exact tells.left .deallocated (by decide) rfl rfl rfl
  | permitted authenticated => exact tells.kept rfl rfl rfl
  | @bound inner authenticated =>
    have ready : .ready = inner.state := sound.phase _ List.mem_cons_self
    refine tells.told inner.channelEvent rfl rfl ?_ (fun _ => rfl)
    show Sight.mk inner.state (if inner.state = .ready then some channelNumber else none) =
      Sight.mk inner.state (some channelNumber)
    rw [if_pos ready.symm]
  | rearm time => exact tells.kept rfl rfl rfl
  | rouse time => exact tells.kept rfl rfl rfl
  | leave closes held => exact tells.left .deallocating (by decide) rfl rfl rfl
  | close closes idle other => exact tells.kept rfl rfl (sight_unready rfl idle)
  | closeEarly closes early =>
    refine tells.kept rfl rfl (sight_unready rfl ?_)
    rw [early]
    decide

section Calls

variable (digests : Digests)

/-- Any number of moves are told. -/
theorem tells_moved {occasion : Occasion} {before after : Stage} {excused : Prop}
    {sight : Sight} (moved : Moved digests occasion before after) (sound : Sound False before)
    (tells : Tells excused before.inner sight) : Tells excused after.inner sight := by
  induction moved with
  | refl => exact tells
  | tail earlier move ih =>
    exact tells_moves move (sound_moved earlier False.elim sound) ih

/-- Tearing the client down is told. -/
theorem Tells.forceDestroy {excused : Prop} {inner : Inner} {sight : Sight}
    (tells : Tells excused inner sight) (status : Int) :
    Tells excused (inner.forceDestroy status) sight := by
  unfold Inner.forceDestroy
  by_cases destroyed : inner.destroyed = true
  · rw [if_pos destroyed]
    exact tells
  · rw [if_neg destroyed]
    apply Tells.noted
    · exact tells.left .destroying (by decide) rfl rfl rfl
    · exact fun same => by cases same
    · exact fun same => by cases same

/-- Every call is told. -/
theorem tells_call (inner : Inner) (call : Call) {excused : Prop} {sight : Sight}
    (valid : Valid False inner) (pulls : call ≠ .pullEvent) (tells : Tells excused inner sight) :
    Tells excused (inner.call digests call).1 sight := by
  cases valid with
  | inr gone =>
    rw [gone_kept digests inner call gone pulls]
    exact tells
  | inl sound =>
    by_cases destroys : ∃ status, call = .forceDestroy status
    · obtain ⟨status, rfl⟩ := destroys
      exact tells.forceDestroy status
    · have moved := moved_call digests inner call pulls (fun status same => destroys ⟨status, same⟩)
      exact tells_moved digests moved sound tells

/-- The peer stays the same. -/
theorem call_peer (inner : Inner) (call : Call) :
    (inner.call digests call).1.peer = inner.peer := by
  by_cases destroys : ∃ status, call = .forceDestroy status
  · obtain ⟨status, rfl⟩ := destroys
    show (inner.forceDestroy status).peer = inner.peer
    unfold Inner.forceDestroy
    by_cases destroyed : inner.destroyed = true
    · rw [if_pos destroyed]
    · rw [if_neg destroyed, pushEvent_eq, setState_eq]
  · by_cases pulls : call = .pullEvent
    · subst pulls
      rfl
    · have moved := moved_call digests inner call pulls (fun status same => destroys ⟨status, same⟩)
      suffices kept : ∀ after : Stage,
          Moved digests (call.occasion digests inner) ⟨none, inner⟩ after →
            after.inner.peer = inner.peer from kept _ moved
      intro after moved
      induction moved with
      | refl => rfl
      | tail _ move ih => exact (moves_kept move).2.1.trans ih

end Calls

/-- Whether an address is the same without flow information and scope. -/
def SocketAddr.plain : SocketAddr → Bool
  | .v4 _ _ => true
  | .v6 _ _ flowinfo scopeId => flowinfo == 0 && scopeId == 0

/-- An address without flow information and scope is told as it is. -/
theorem toSocketAddr_fromSocketAddr (address : SocketAddr) (plain : address.plain = true) :
    (NativeAddress.fromSocketAddr address).toSocketAddr = .ok address := by
  cases address with
  | v4 octets port =>
    have cut : (Bytes.Octets.ofList octets.val : Bytes.Octets 16).val.take 4 = octets.val := by
      show ((octets.val ++ List.replicate 16 0).take 16).take 4 = octets.val
      rw [List.take_take]
      exact List.take_left' octets.property
    show Except.ok (SocketAddr.v4 (.ofList ((Bytes.Octets.ofList octets.val :
      Bytes.Octets 16).val.take 4)) port) = _
    rw [cut]
    congr
    exact Subtype.ext (Bytes.Octets.ofList_val octets.val octets.property)
  | v6 octets port flowinfo scopeId =>
    unfold SocketAddr.plain at plain
    rw [Bool.and_eq_true, beq_iff_eq, beq_iff_eq] at plain
    obtain ⟨rfl, rfl⟩ := plain
    rfl

/-- An address is told as some address. -/
theorem fromSocketAddr_known (address : SocketAddr) :
    ∃ told, (NativeAddress.fromSocketAddr address).toSocketAddr = .ok told := by
  cases address with
  | v4 octets port => exact ⟨_, rfl⟩
  | v6 octets port flowinfo scopeId => exact ⟨_, rfl⟩

/-- What the driver has seen of the client. -/
def DriverShared.sight (shared : DriverShared) : Sight :=
  ⟨shared.snapshot.state, shared.snapshot.channel⟩

/-- The state of a driver that is not told to end. -/
structure Coherent (shared : DriverShared) : Prop where
  /-- It is not told to end. -/
  running : shared.closing = false
  /-- It knows whether it gave up. -/
  terminal : shared.terminalPresent = shared.snapshot.terminal.isSome
  /-- Data is sent on the channel of the snapshot. -/
  channel : shared.channel = shared.snapshot.channel.getD 0

/-- A driver that gives up is coherent. -/
theorem Coherent.fail {shared : DriverShared} (coherent : Coherent shared) (reason : String) :
    Coherent (shared.fail reason) ∧ (shared.fail reason).snapshot.terminal.isSome ∧
      (shared.fail reason).sight = shared.sight := by
  unfold DriverShared.fail
  rw [if_neg (Bool.not_eq_true _ ▸ coherent.running)]
  by_cases first : shared.snapshot.terminal.isNone = true
  · rw [if_pos first]
    exact ⟨⟨coherent.running, rfl, coherent.channel⟩, rfl, rfl⟩
  · rw [if_neg first]
    refine ⟨coherent, ?_, rfl⟩
    cases reason : shared.snapshot.terminal with
    | none =>
      rw [reason] at first
      exact absurd rfl first
    | some reason => rfl

/-- The driver after an event: it is coherent, gives up for good, and has seen the event, unless it
gives up instead. -/
structure Takes (drain next : Drain) (peer : SocketAddr) (event : NativeEvent) : Prop where
  /-- It is coherent. -/
  coherent : Coherent next.shared
  /-- The reason for giving up stays. -/
  stays : drain.shared.snapshot.terminal.isSome → next.shared.snapshot.terminal.isSome
  /-- A dropped event is such a reason. -/
  dropped : event.kind = .eventOverflow → next.shared.snapshot.terminal.isSome
  /-- The event has been seen; otherwise it told another peer. -/
  sees : next.shared.sight = drain.shared.sight.see event ∨
    (next.shared.snapshot.terminal.isSome ∧ event.kind = .channelBound ∧
      event.address.toSocketAddr ≠ .ok peer)

/-- An event that does not show, when the driver keeps what it has seen. -/
theorem takes_plain {drain next : Drain} {peer : SocketAddr} {event : NativeEvent}
    (plain : event.kind ≠ .state) (other : event.kind ≠ .channelBound)
    (coherent : Coherent next.shared)
    (stays : drain.shared.snapshot.terminal.isSome → next.shared.snapshot.terminal.isSome)
    (dropped : event.kind = .eventOverflow → next.shared.snapshot.terminal.isSome)
    (same : next.shared.sight = drain.shared.sight) : Takes drain next peer event where
  coherent := coherent
  stays := stays
  dropped := dropped
  sees := .inl (same.trans (see_plain _ event plain other).symm)

/-- An event for which the driver gives up. -/
theorem takes_fail {drain : Drain} {peer : SocketAddr} {event : NativeEvent} {reason : String}
    (plain : event.kind ≠ .state) (other : event.kind ≠ .channelBound)
    (coherent : Coherent drain.shared) : Takes drain (drain.fail reason) peer event :=
  have failed := coherent.fail reason
  takes_plain plain other failed.1 (fun _ => failed.2.1) (fun _ => failed.2.1) failed.2.2

/-- Completions are not seen. -/
theorem completionMut_kept (snapshot : CoreSnapshot) (method : UInt32)
    (change : Completion → Completion) :
    (snapshot.completionMut method change).state = snapshot.state ∧
      (snapshot.completionMut method change).channel = snapshot.channel ∧
      (snapshot.completionMut method change).terminal = snapshot.terminal := by
  unfold CoreSnapshot.completionMut
  by_cases allocate : method = 3
  · rw [if_pos allocate]
    exact ⟨rfl, rfl, rfl⟩
  · rw [if_neg allocate]
    by_cases refresh : method = 4
    · rw [if_pos refresh]
      exact ⟨rfl, rfl, rfl⟩
    · rw [if_neg refresh]
      by_cases permission : method = 8
      · rw [if_pos permission]
        exact ⟨rfl, rfl, rfl⟩
      · rw [if_neg permission]
        by_cases channel : method = 9
        · rw [if_pos channel]
          exact ⟨rfl, rfl, rfl⟩
        · rw [if_neg channel]
          exact ⟨rfl, rfl, rfl⟩

/-- Counting a completion keeps what was seen. -/
theorem Coherent.completed {shared : DriverShared} (coherent : Coherent shared) (method : UInt32)
    (change : Completion → Completion) :
    Coherent { shared with snapshot := shared.snapshot.completionMut method change } ∧
      DriverShared.sight { shared with snapshot := shared.snapshot.completionMut method change } =
        shared.sight := by
  obtain ⟨state, channel, terminal⟩ := completionMut_kept shared.snapshot method change
  constructor
  · exact ⟨coherent.running, coherent.terminal.trans (congrArg Option.isSome terminal).symm,
      coherent.channel.trans (congrArg (Option.getD · 0) channel).symm⟩
  · unfold DriverShared.sight
    dsimp only
    rw [state, channel]

/-- A completed request. -/
theorem requestComplete_takes {drain : Drain} {peer : SocketAddr} {event : NativeEvent}
    (kind : event.kind = .requestComplete) (coherent : Coherent drain.shared) :
    Takes drain (drain.requestComplete event) peer event := by
  have plain : event.kind ≠ .state := by
    rw [kind]
    decide
  have other : event.kind ≠ .channelBound := by
    rw [kind]
    decide
  have undropped : event.kind ≠ .eventOverflow := by
    rw [kind]
    decide
  have counted := coherent.completed event.method (fun completion =>
    { sequence := completion.sequence + 1, status := event.status, stunCode := event.stunCode })
  have terminal := (completionMut_kept drain.shared.snapshot event.method (fun completion =>
    { sequence := completion.sequence + 1
      status := event.status
      stunCode := event.stunCode })).2.2
  unfold Drain.requestComplete
  dsimp only
  by_cases fails : (event.status ≠ 0 ∨ event.stunCode ≠ 0) ∧ drain.shared.closing = false ∧
      isRetryableMaintenance event.method = false
  · rw [if_pos fails]
    have failed := counted.1.fail ("TURN " ++ methodName event.method ++ " failed: " ++
      nativeStatusText event.status ++ stunSuffix event.stunCode)
    exact takes_plain plain other failed.1 (fun _ => failed.2.1) (fun _ => failed.2.1)
      (failed.2.2.trans counted.2)
  · rw [if_neg fails]
    refine takes_plain plain other counted.1 ?_ (fun same => absurd same undropped) counted.2
    intro given
    show (CoreSnapshot.terminal _).isSome = true
    rw [terminal]
    exact given

/-- A new state. -/
theorem stateEvent_takes {drain : Drain} {peer : SocketAddr} {event : NativeEvent}
    (kind : event.kind = .state) (coherent : Coherent drain.shared) :
    Takes drain (drain.stateEvent event) peer event where
  coherent :=
    { running := coherent.running
      terminal := coherent.terminal
      channel := by
        show (if event.state ≠ .ready then 0 else drain.shared.channel) =
          (if event.state ≠ .ready then none else drain.shared.snapshot.channel).getD 0
        by_cases ready : event.state = .ready
        · rw [if_neg (not_not.mpr ready), if_neg (not_not.mpr ready)]
          exact coherent.channel
        · rw [if_pos ready, if_pos ready]
          rfl }
  stays := id
  dropped := by
    rw [kind]
    exact fun same => by cases same
  sees := by
    left
    unfold Sight.see
    rw [kind]
    show Sight.mk event.state (if event.state ≠ .ready then none else drain.shared.snapshot.channel)
      = Sight.mk event.state (if event.state = .ready then drain.shared.snapshot.channel else none)
    rw [ite_not]

/-- A bound channel. -/
theorem channelBound_takes {drain next : Drain} {peer : SocketAddr} {event : NativeEvent}
    (kind : event.kind = .channelBound) (number : event.channel = channelNumber)
    (coherent : Coherent drain.shared) (taken : drain.channelBound peer event = .ok next) :
    Takes drain next peer event := by
  have undropped : event.kind ≠ .eventOverflow := by
    rw [kind]
    decide
  unfold Drain.channelBound at taken
  cases told : event.address.toSocketAddr with
  | error failure =>
    rw [told] at taken
    cases taken
  | ok eventPeer =>
    rw [told] at taken
    cases taken
    by_cases expected : eventPeer = peer
    · have inRange : ¬¬(0x4000 ≤ event.channel ∧ event.channel ≤ 0x7fff) := by
        rw [number]
        decide
      rw [if_neg (not_not.mpr expected), if_neg inRange]
      exact
        { coherent := ⟨coherent.running, coherent.terminal, rfl⟩
          stays := id
          dropped := fun same => absurd same undropped
          sees := by
            left
            unfold Sight.see
            rw [kind]
            rfl }
    · rw [if_pos expected]
      have failed := coherent.fail ("TURN ChannelBind confirmed unexpected peer " ++ eventPeer.text)
      exact
        { coherent := failed.1
          stays := fun _ => failed.2.1
          dropped := fun _ => failed.2.1
          sees := .inr ⟨failed.2.1, kind, fun same => expected (Except.ok.inj (told ▸ same))⟩ }

/-- The relayed address is taken over. -/
theorem relayAddress_ok {drain next : Drain} {core : Inner} {event : NativeEvent}
    (taken : drain.relayAddress core event = .ok next) :
    ∃ relay, next = { drain with shared := { drain.shared with
      snapshot := { drain.shared.snapshot with relay := some relay } } } := by
  unfold Drain.relayAddress at taken
  cases told : event.address.toSocketAddr with
  | error failure =>
    rw [told] at taken
    cases taken
  | ok relay =>
    cases asked : core.relayAddress with
    | error failure =>
      rw [told, asked] at taken
      cases taken
    | ok queried =>
      rw [told, asked] at taken
      dsimp only [bind, Except.bind] at taken
      by_cases same : queried = relay
      · rw [if_neg (not_not.mpr same)] at taken
        exact ⟨relay, (Except.ok.inj taken).symm⟩
      · rw [if_pos same] at taken
        cases taken

/-- Every event that is taken. -/
theorem take_takes {drain next : Drain} {core : Inner} {peer : SocketAddr} {event : NativeEvent}
    (number : event.kind = .channelBound → event.channel = channelNumber)
    (coherent : Coherent drain.shared) (taken : drain.take core peer event = .ok next) :
    Takes drain next peer event := by
  unfold Drain.take at taken
  cases kind : event.kind with
  | state =>
    rw [kind] at taken
    cases taken
    exact stateEvent_takes kind coherent
  | requestComplete =>
    rw [kind] at taken
    cases taken
    exact requestComplete_takes kind coherent
  | channelBound =>
    rw [kind] at taken
    exact channelBound_takes kind (number kind) coherent taken
  | relayAddress =>
    rw [kind] at taken
    obtain ⟨relay, rfl⟩ := relayAddress_ok taken
    exact takes_plain (by rw [kind]; decide) (by rw [kind]; decide)
      ⟨coherent.running, coherent.terminal, coherent.channel⟩ id
      (by rw [kind]; exact fun same => by cases same) rfl
  | controlOverflow =>
    rw [kind] at taken
    cases taken
    exact takes_fail (by rw [kind]; decide) (by rw [kind]; decide) coherent
  | forcedDestroy =>
    rw [kind] at taken
    dsimp only at taken
    rw [if_neg (Bool.not_eq_true _ ▸ coherent.running)] at taken
    cases taken
    exact takes_fail (by rw [kind]; decide) (by rw [kind]; decide) coherent
  | eventOverflow =>
    rw [kind] at taken
    cases taken
    exact takes_fail (by rw [kind]; decide) (by rw [kind]; decide) coherent
  | stunResponseError =>
    rw [kind] at taken
    cases taken
    exact takes_plain (by rw [kind]; decide) (by rw [kind]; decide) coherent id
      (by rw [kind]; exact fun same => by cases same) rfl
  | channelRebindExhausted =>
    rw [kind] at taken
    cases taken
    exact takes_plain (by rw [kind]; decide) (by rw [kind]; decide) coherent id
      (by rw [kind]; exact fun same => by cases same) rfl

/-- Only the relayed address can fail. -/
theorem take_error {drain : Drain} {core : Inner} {peer : SocketAddr} {event : NativeEvent}
    {failure : Failure}
    (known : event.kind = .channelBound → ∃ told, event.address.toSocketAddr = .ok told)
    (failed : drain.take core peer event = .error failure) : event.kind = .relayAddress := by
  unfold Drain.take at failed
  cases kind : event.kind with
  | relayAddress => rfl
  | channelBound =>
    obtain ⟨told, same⟩ := known kind
    rw [kind] at failed
    dsimp only [Drain.channelBound] at failed
    rw [same] at failed
    cases failed
  | _ =>
    rw [kind] at failed
    cases failed

/-- The driver follows the client, or has given up after something was lost. -/
structure Follows (lost : Prop) (core : Inner) (shared : DriverShared) : Prop where
  /-- It is coherent. -/
  coherent : Coherent shared
  /-- What it has not seen yet is told. -/
  told : Tells (shared.snapshot.terminal.isSome ∧ lost) core shared.sight
  /-- A dropped event is lost. -/
  noticed : Overflowed core.events → lost

section Drain

variable {lost : Prop} {core : Inner} {drain next : Drain} {event : NativeEvent}
  {rest : List NativeEvent}

/-- The first event has been seen, or there is a new excuse for it. -/
theorem Tells.tail {excused excused' : Prop} {sight sight' : Sight}
    (tells : Tells excused core sight) (first : core.events = event :: rest)
    (dropped : event.kind = .eventOverflow → excused') (excuse : excused → excused')
    (sees : excused' ∨ sight' = sight.see event) :
    Tells excused' { core with events := rest } sight' where
  reported := by
    rcases tells.reported with excused | missing | reported
    · exact .inl (excuse excused)
    · obtain ⟨note, member, kind⟩ := missing
      rw [first] at member
      cases List.mem_cons.mp member with
      | inl here => exact .inl (dropped (here ▸ kind))
      | inr later => exact .inr (.inl ⟨note, later, kind⟩)
    · rw [first] at reported
      cases sees with
      | inl excused => exact .inl excused
      | inr sees =>
        rw [sees]
        exact .inr (.inr reported)
  announced := by
    intro other member kind
    refine tells.announced other ?_ kind
    rw [first]
    exact List.mem_cons_of_mem _ member

/-- A dropped event among the others is lost. -/
theorem Follows.later (follows : Follows lost core drain.shared)
    (first : core.events = event :: rest) (missing : Overflowed rest) : lost := by
  obtain ⟨note, member, kind⟩ := missing
  refine follows.noticed ⟨note, ?_, kind⟩
  rw [first]
  exact List.mem_cons_of_mem _ member

/-- The driver follows the client by the next event. -/
theorem Follows.take (follows : Follows lost core drain.shared)
    (plain : core.peer.plain = false → lost) (first : core.events = event :: rest)
    (taken : drain.take { core with events := rest } core.peer event = .ok next) :
    Follows lost { core with events := rest } next.shared := by
  have among : event ∈ core.events := by
    rw [first]
    exact List.mem_cons_self
  have announced := follows.told.announced event among
  have takes := take_takes (fun kind => congrArg NativeEvent.channel (announced kind))
    follows.coherent taken
  refine ⟨takes.coherent, ?_, follows.later first⟩
  apply follows.told.tail first
  · exact fun dropped => ⟨takes.dropped dropped, follows.noticed ⟨event, among, dropped⟩⟩
  · exact fun given => ⟨takes.stays given.1, given.2⟩
  · cases takes.sees with
    | inl sees => exact .inr sees
    | inr other =>
      obtain ⟨given, kind, unequal⟩ := other
      left
      refine ⟨given, plain (Bool.eq_false_of_not_eq_true (fun plain => unequal ?_))⟩
      rw [announced kind]
      exact toSocketAddr_fromSocketAddr core.peer plain

/-- An event that fails need not be seen. -/
theorem Follows.skip (follows : Follows lost core drain.shared) {failure : Failure}
    (first : core.events = event :: rest)
    (failed : drain.take { core with events := rest } core.peer event = .error failure) :
    Follows lost { core with events := rest } drain.shared := by
  have among : event ∈ core.events := by
    rw [first]
    exact List.mem_cons_self
  have kind : event.kind = .relayAddress := by
    refine take_error (fun kind => ?_) failed
    rw [follows.told.announced event among kind]
    exact fromSocketAddr_known core.peer
  refine ⟨follows.coherent, ?_, follows.later first⟩
  apply follows.told.tail first
  · rw [kind]
    exact fun same => by cases same
  · exact id
  · right
    rw [see_plain]
    · rw [kind]
      decide
    · rw [kind]
      decide

/-- The driver follows the client by its events; when the loop ends, it has seen all of them. -/
theorem drainEvents_follows {turns : Nat} {core : Inner} {peer : SocketAddr} {drain : Drain}
    (follows : Follows lost core drain.shared) (same : core.peer = peer)
    (plain : peer.plain = false → lost) (enough : core.events.length = turns) :
    Follows lost (drainEvents peer turns core drain).2.1
        (drainEvents peer turns core drain).2.2.shared ∧
      (∃ events, (drainEvents peer turns core drain).2.1 = { core with events }) ∧
      ((drainEvents peer turns core drain).1 = .ok () →
        (drainEvents peer turns core drain).2.1.events = []) := by
  subst same
  induction turns generalizing core drain with
  | zero => exact ⟨follows, ⟨core.events, rfl⟩, fun _ => List.length_eq_zero_iff.mp enough⟩
  | succ turns ih =>
    cases first : core.events with
    | nil =>
      rw [first] at enough
      cases enough
    | cons event rest =>
      have pulled : core.pullEvent = (some event, { core with events := rest }) := by
        unfold Inner.pullEvent
        rw [first]
        rfl
      unfold drainEvents
      rw [pulled]
      dsimp only
      cases taken : drain.take { core with events := rest } core.peer event with
      | error failure =>
        exact ⟨follows.skip first taken, ⟨rest, rfl⟩, fun same => by cases same⟩
      | ok next =>
        rw [first] at enough
        exact ih (follows.take plain first taken) (Nat.succ.inj enough) plain

end Drain

/-- Sending packets takes them out of the queue, and nothing else. -/
theorem sendControls_kept (server : SocketAddr) (turns : Nat)
    (outcomes : List (Except Failure Unit)) (core : Inner) (shared : DriverShared) :
    (∃ controls, controls <:+ core.controls ∧
      (sendControls server turns outcomes core shared).2.1 = { core with controls }) ∧
      ∃ controlSent,
        (sendControls server turns outcomes core shared).2.2 = { shared with controlSent } := by
  induction turns generalizing outcomes core shared with
  | zero => exact ⟨⟨core.controls, List.suffix_rfl, rfl⟩, ⟨shared.controlSent, rfl⟩⟩
  | succ turns ih =>
    unfold sendControls Inner.pullControl
    cases queued : core.controls with
    | nil =>
      refine ⟨⟨[], List.suffix_rfl, ?_⟩, ⟨shared.controlSent, rfl⟩⟩
      show core = { core with controls := [] }
      rw [← queued]
    | cons control rest =>
      have fewer : rest <:+ control :: rest := List.suffix_cons control rest
      dsimp only
      by_cases large : 1024 < control.packet.length
      · rw [if_pos large]
        exact ⟨⟨rest, fewer, rfl⟩, ⟨shared.controlSent, rfl⟩⟩
      · rw [if_neg large]
        dsimp only
        by_cases other : control.destination ≠ server
        · rw [if_pos other]
          exact ⟨⟨rest, fewer, rfl⟩, ⟨shared.controlSent, rfl⟩⟩
        · rw [if_neg other]
          cases outcomes.headD (.ok ()) with
          | error failure => exact ⟨⟨rest, fewer, rfl⟩, ⟨shared.controlSent, rfl⟩⟩
          | ok sent =>
            obtain ⟨⟨controls, suffix, core⟩, ⟨controlSent, shared⟩⟩ :=
              ih outcomes.tail { core with controls := rest } { shared with controlSent := true }
            exact ⟨⟨controls, suffix.trans fewer, core⟩, ⟨controlSent, shared⟩⟩

/-- What follows the events is not seen. -/
theorem Coherent.conclude {drain : Drain} (coherent : Coherent drain.shared) :
    Coherent drain.conclude ∧
      (drain.shared.snapshot.terminal.isSome → drain.conclude.snapshot.terminal.isSome) ∧
      drain.conclude.sight = drain.shared.sight := by
  unfold Drain.conclude
  by_cases lost : (drain.unexpectedDestroy && drain.shared.terminal.isNone) = true
  · rw [if_pos lost]
    have failed := fun reason => coherent.fail reason
    by_cases exhausted : drain.channelRebindExhausted = true
    · rw [if_pos exhausted]
      exact ⟨(failed _).1, fun _ => (failed _).2.1, (failed _).2.2⟩
    · rw [if_neg exhausted]
      exact ⟨(failed _).1, fun _ => (failed _).2.1, (failed _).2.2⟩
  · rw [if_neg lost]
    exact ⟨coherent, id, rfl⟩

/-- The driver knows the state and the channel of the client. -/
structure DriverCommon.Mirrors (driver : DriverCommon) : Prop where
  /-- The state. -/
  state : driver.shared.snapshot.state = driver.core.state
  /-- The channel of the snapshot. -/
  snapshot : driver.shared.snapshot.channel = driver.core.usableChannel
  /-- The channel that data is sent on. -/
  channel : driver.shared.channel = driver.core.usableChannel.getD 0

/-- The invariant of the driver. -/
structure Watches (lost : Prop) (driver : DriverCommon) : Prop where
  /-- The invariant of the client. -/
  valid : Valid False driver.core
  /-- Both have the same peer. -/
  peer : driver.core.peer = driver.peer
  /-- The driver is coherent. -/
  coherent : Coherent driver.shared
  /-- What it has not seen yet is told. -/
  told : Tells (driver.shared.snapshot.terminal.isSome ∧ lost) driver.core driver.shared.sight

section Pump

variable (digests : Digests) {lost : Prop} {driver : DriverCommon}

/-- A call of the client by someone else. -/
theorem Watches.operate (watches : Watches lost driver) (call : Call) (pulls : call ≠ .pullEvent) :
    Watches lost { driver with core := (driver.core.call digests call).1 } where
  valid := valid_call digests driver.core call watches.valid False.elim
  peer := (call_peer digests driver.core call).trans watches.peer
  coherent := watches.coherent
  told := tells_call digests driver.core call watches.valid pulls watches.told

/-- Packets and events may be taken out of the queues. -/
theorem Valid.drained {inner : Inner} (valid : Valid False inner) {controls : List Control}
    (suffix : controls <:+ inner.controls) (events : List NativeEvent) :
    Valid False { inner with controls, events } := by
  cases valid with
  | inl sound => exact .inl (sound.queued controls events)
  | inr gone =>
    right
    rw [gone.controls] at suffix
    exact ⟨gone.destroyed, gone.state, gone.pending, List.suffix_nil.mp suffix⟩

/-- The invariant after the control packets have been sent. -/
theorem Watches.sent (watches : Watches lost driver) (turns : Nat)
    (outcomes : List (Except Failure Unit)) :
    Watches lost { driver with
      core := (sendControls driver.server turns outcomes driver.core driver.shared).2.1
      shared := (sendControls driver.server turns outcomes driver.core driver.shared).2.2 } := by
  obtain ⟨⟨controls, suffix, core⟩, ⟨controlSent, shared⟩⟩ :=
    sendControls_kept driver.server turns outcomes driver.core driver.shared
  rw [core, shared]
  exact
    { valid := watches.valid.drained suffix driver.core.events
      peer := watches.peer
      coherent := ⟨watches.coherent.running, watches.coherent.terminal, watches.coherent.channel⟩
      told := watches.told.kept rfl rfl rfl }

/-- The invariant after events have been taken. -/
theorem Watches.drained (watches : Watches lost driver) (plain : driver.peer.plain = false → lost)
    (noticed : Overflowed driver.core.events → lost) :
    Watches lost { driver with
      core := (drainEvents driver.peer driver.core.events.length driver.core
        { shared := driver.shared }).2.1
      shared := (drainEvents driver.peer driver.core.events.length driver.core
        { shared := driver.shared }).2.2.shared } ∧
      ((drainEvents driver.peer driver.core.events.length driver.core
        { shared := driver.shared }).1 = .ok () →
          (drainEvents driver.peer driver.core.events.length driver.core
            { shared := driver.shared }).2.1.events = []) := by
  have follows : Follows lost driver.core (Drain.mk driver.shared false false).shared :=
    ⟨watches.coherent, watches.told, noticed⟩
  obtain ⟨after, ⟨events, core⟩, empty⟩ := drainEvents_follows follows watches.peer plain rfl
  refine ⟨?_, empty⟩
  rw [core] at after ⊢
  exact
    { valid := watches.valid.drained List.suffix_rfl events
      peer := watches.peer
      coherent := after.coherent
      told := after.told }

/-- The invariant after what follows the events. -/
theorem Watches.concluded {core : Inner} {drain : Drain} {server peer : SocketAddr}
    (watches : Watches lost ⟨core, drain.shared, server, peer⟩) :
    Watches lost ⟨core, drain.conclude, server, peer⟩ := by
  obtain ⟨coherent, stays, seen⟩ := watches.coherent.conclude
  refine ⟨watches.valid, watches.peer, coherent, ?_⟩
  dsimp only
  rw [seen]
  exact watches.told.weaken (And.imp_left stays)

/-- A driver that has seen everything knows the client or has given up. -/
theorem Watches.mirrors (watches : Watches lost driver) (empty : driver.core.events = []) :
    (driver.shared.terminal.isSome ∧ lost) ∨ driver.Mirrors := by
  rcases watches.told.reported with ⟨given, lost⟩ | missing | seen
  · left
    refine ⟨?_, lost⟩
    unfold DriverShared.terminal
    rw [if_pos (watches.coherent.terminal.trans given)]
    exact given
  · obtain ⟨note, member, _⟩ := missing
    rw [empty] at member
    cases member
  · right
    rw [empty] at seen
    have channel : driver.shared.snapshot.channel = driver.core.usableChannel :=
      congrArg Sight.channel seen
    exact ⟨congrArg Sight.state seen, channel, channel ▸ watches.coherent.channel⟩

/-- The driver after a pump: it keeps its invariant, and when the pump succeeds, it knows the
client or has given up. -/
theorem Watches.pump (watches : Watches lost driver) (plain : driver.peer.plain = false → lost)
    (readings : Readings) (outcomes : List (Except Failure Unit))
    (noticed : Overflowed (driver.core.poll digests readings).2.events → lost) :
    Watches lost (driver.pumpNative digests readings outcomes).2 ∧
      ∀ wait, (driver.pumpNative digests readings outcomes).1 = .ok wait →
        ((driver.pumpNative digests readings outcomes).2.shared.terminal.isSome ∧ lost) ∨
          (driver.pumpNative digests readings outcomes).2.Mirrors := by
  have polled := watches.operate digests (.poll readings) (fun same => by cases same)
  change Watches lost { driver with core := (driver.core.poll digests readings).2 } at polled
  unfold DriverCommon.pumpNative
  cases poll : driver.core.poll digests readings with
  | mk result core =>
    rw [poll] at polled noticed
    cases result with
    | error failure => exact ⟨polled, fun wait same => by cases same⟩
    | ok nextTimer =>
      have sent := polled.sent core.controls.length outcomes
      dsimp only at sent ⊢
      have queued : (sendControls driver.server core.controls.length outcomes core
          driver.shared).2.1.events = core.events := by
        obtain ⟨⟨controls, _, same⟩, _⟩ := sendControls_kept driver.server core.controls.length
          outcomes core driver.shared
        rw [same]
      cases send : sendControls driver.server core.controls.length outcomes core driver.shared with
      | mk result rest =>
        obtain ⟨core, shared⟩ := rest
        rw [send] at sent queued
        cases result with
        | error failure => exact ⟨sent, fun wait same => by cases same⟩
        | ok done =>
          have drained := sent.drained plain (queued ▸ noticed)
          dsimp only at drained ⊢
          cases drain : drainEvents driver.peer core.events.length core { shared } with
          | mk result rest =>
            obtain ⟨core, taken⟩ := rest
            rw [drain] at drained
            cases result with
            | error failure => exact ⟨drained.1, fun wait same => by cases same⟩
            | ok done =>
              have concluded := drained.1.concluded
              exact ⟨concluded, fun _ _ => concluded.mirrors (drained.2 rfl)⟩

/-- No note of a dropped event is found by the step. -/
def Unnoticed (digests : Digests) (driver : DriverCommon) : DriverCall → Prop
  | .operate _ _ => True
  | .pump readings _ => ¬Overflowed (driver.core.poll digests readings).2.events

/-- Every step keeps the invariant. -/
theorem Watches.advance (watches : Watches lost driver) (step : DriverCall)
    (plain : driver.peer.plain = false → lost)
    (noticed : ¬Unnoticed digests driver step → lost) :
    Watches lost (driver.advance digests step).1 := by
  cases step with
  | operate call outside =>
    apply watches.operate digests call
    intro pulls
    rw [pulls] at outside
    cases outside
  | pump readings outcomes =>
    exact (watches.pump digests plain readings outcomes
      (fun missing => noticed (not_not.mpr missing))).1

/-- The driver always has the same peer. -/
theorem advance_peer (driver : DriverCommon) (step : DriverCall) :
    (driver.advance digests step).1.peer = driver.peer := by
  cases step with
  | operate call outside => rfl
  | pump readings outcomes =>
    show (driver.pumpNative digests readings outcomes).2.peer = driver.peer
    unfold DriverCommon.pumpNative
    obtain ⟨result, core⟩ := driver.core.poll digests readings
    cases result with
    | error failure => rfl
    | ok nextTimer =>
      dsimp only
      obtain ⟨result, core, shared⟩ :=
        sendControls driver.server core.controls.length outcomes core driver.shared
      cases result with
      | error failure => rfl
      | ok sent =>
        dsimp only
        obtain ⟨result, core, drain⟩ := drainEvents driver.peer core.events.length core { shared }
        cases result with
        | error failure => rfl
        | ok drained => rfl

/-- The invariant holds in every state of every run. -/
theorem watches_run (driver : DriverCommon) (steps : List DriverCall)
    (watches : Watches lost driver) (plain : driver.peer.plain = false → lost)
    (noticed : ¬Mealy.Along (DriverCommon.advance digests) (Unnoticed digests) driver steps →
      lost) :
    Watches lost (Mealy.final (DriverCommon.advance digests) driver steps) ∧
      (Mealy.final (DriverCommon.advance digests) driver steps).peer = driver.peer := by
  induction steps generalizing driver with
  | nil => exact ⟨watches, rfl⟩
  | cons step rest ih =>
    have same := advance_peer digests driver step
    have after := watches.advance digests step plain
      (fun here => noticed (fun along => here along.1))
    obtain ⟨kept, peer⟩ := ih _ after (fun other => plain (same ▸ other))
      (fun later => noticed (fun along => later along.2))
    exact ⟨kept, peer.trans same⟩

end Pump

/-- A new client has done nothing. -/
theorem create_fresh {server peer : SocketAddr} {username password : List UInt8}
    {profile : CsqttTurnProfile} {transport : TurnControlTransport} {start : Inner}
    (created : Inner.create server username password peer profile transport = .ok start) :
    start.peer = peer ∧ start.state = .null ∧ start.channel = none ∧ start.events = [] := by
  unfold Inner.create at created
  dsimp only at created
  by_cases ports : (server.port == 0 || peer.port == 0) = true
  · rw [if_pos ports] at created
    cases created
  · rw [if_neg ports] at created
    by_cases credentials : (username.isEmpty || 512 < username.length || password.isEmpty ||
        512 < password.length) = true
    · rw [if_pos credentials] at created
      cases created
    · rw [if_neg credentials] at created
      cases created
      exact ⟨rfl, rfl, rfl, rfl⟩

/-- After every pump that succeeds, the driver knows the state and the channel of the client, or it
has given up, and then an event was dropped at some time or the address of the peer is told without
its flow information and scope. -/
theorem mirrors_run (digests : Digests) (server : SocketAddr) (username password : List UInt8)
    (peer : SocketAddr) (profile : CsqttTurnProfile) (transport : TurnControlTransport)
    (start : Inner)
    (created : Inner.create server username password peer profile transport = .ok start)
    (steps : List DriverCall) (readings : Readings) (outcomes : List (Except Failure Unit))
    (wait : Option Nat) (driver : DriverCommon)
    (before : Mealy.final (DriverCommon.advance digests) (.start start server peer) steps = driver)
    (succeeds : (driver.pumpNative digests readings outcomes).1 = .ok wait) :
    ((driver.pumpNative digests readings outcomes).2.shared.terminal.isSome ∧
      ¬(peer.plain = true ∧ Mealy.Along (DriverCommon.advance digests) (Unnoticed digests)
        (.start start server peer) (steps ++ [.pump readings outcomes]))) ∨
      (driver.pumpNative digests readings outcomes).2.Mirrors := by
  have fresh : Watches (¬(peer.plain = true ∧ Mealy.Along (DriverCommon.advance digests)
      (Unnoticed digests) (.start start server peer) (steps ++ [.pump readings outcomes])))
      (.start start server peer) := by
    obtain ⟨same, null, unbound, silent⟩ := create_fresh created
    exact
      { valid := .inl (sound_create created)
        peer := same
        coherent := ⟨rfl, rfl, rfl⟩
        told :=
          { reported := by
              right
              right
              show List.foldl Sight.see ⟨.null, none⟩ start.events = start.sight
              unfold Inner.sight Inner.usableChannel
              rw [silent, null, unbound]
              rfl
            announced := by
              intro event member
              change event ∈ start.events at member
              rw [silent] at member
              cases member } }
  obtain ⟨watches, same⟩ := watches_run digests _ steps fresh
    (fun other both => Bool.false_ne_true (other.symm.trans both.1))
    (fun noticed both => noticed ((Mealy.along_append _ _ _).mp both.2).1)
  rw [before] at watches same
  have pumped := watches.pump digests
    (fun other both => Bool.false_ne_true (other.symm.trans ((congrArg _ same).trans both.1)))
    readings outcomes
    (fun missing both => by
      have last := ((Mealy.along_append _ _ _).mp both.2).2.1
      rw [before] at last
      exact last missing)
  exact pumped.2 wait succeeds

/-- The digests of the responses to `bindCalls` and `scopedCalls`. -/
def mirrorDigests : Digests where
  md5 := runDigests.md5
  hmac := fun key data =>
    if key = userKey ∧ data = Bytes.be 20 0x010900182112a442202122232425262728292a2b then
      .ofList (Bytes.be 20 0x3ae1789b8176a235baa60d2f457464398c99160b)
    else if key = userKey ∧ data =
        Bytes.be 36 0x010300302112a442101112131415161718191a1b001600140002e242df92a44210111213 ++
          Bytes.be 8 0x1415161718191a19 then
      .ofList (Bytes.be 20 0x38f0df3e1d4469edaa72a9790d27f7153e1f3919)
    else runDigests.hmac key data
  crc32 := runDigests.crc32

/-- Calls of the client outside of pumps. -/
def outsideCalls (calls : List Call) : List DriverCall :=
  calls.filterMap (fun call =>
    if outside : call.pulls = false then some (.operate call outside) else none)

/-- The channel is bound. -/
def bindCalls : List Call :=
  [.startChannel (readingsAt 0 0x202122232425262728292a2b),
    .inputStun (readingsAt 0 0)
      (Bytes.be 24 0x010900182112a442202122232425262728292a2b00080014 ++
        Bytes.be 20 0x3ae1789b8176a235baa60d2f457464398c99160b)]

/-- The driver of a client after some steps. -/
def DriverCommon.after (client : Inner) (steps : List DriverCall) : DriverCommon :=
  Mealy.final (advance mirrorDigests) (.start client client.server client.peer) steps

/-- After a pump the driver knows the channel of the client. -/
theorem bindCalls_mirrored :
    (DriverCommon.after userClient (outsideCalls (allocatedRun ++ bindCalls))).core.usableChannel =
      some channelNumber ∧
    (DriverCommon.pumpNative mirrorDigests
      (.after userClient (outsideCalls (allocatedRun ++ bindCalls))) (readingsAt 0 0)
        []).2.Mirrors := by
  constructor
  · decide +kernel
  · have known := mirrors_run mirrorDigests userClient.server userClient.username
      userClient.password userClient.peer userClient.profile userClient.transport userClient rfl
      (outsideCalls (allocatedRun ++ bindCalls)) (readingsAt 0 0) [] (some 10000000000)
      (.after userClient (outsideCalls (allocatedRun ++ bindCalls))) rfl (by decide +kernel)
    have running : ¬((DriverCommon.pumpNative mirrorDigests
        (.after userClient (outsideCalls (allocatedRun ++ bindCalls))) (readingsAt 0 0)
          []).2.shared.terminal.isSome = true) := by
      decide +kernel
    exact known.resolve_left (fun given => running given.1)

/-- After a pump that succeeds, the driver knows the client, unless an event was dropped since the
last one and the driver has given up. -/
def DriverCommon.Reflects (digests : Digests) (driver : DriverCommon) (readings : Readings)
    (outcomes : List (Except Failure Unit)) : Prop :=
  ∀ wait, (driver.pumpNative digests readings outcomes).1 = .ok wait →
    (Overflowed (driver.core.poll digests readings).2.events ∧
      (driver.pumpNative digests readings outcomes).2.shared.terminal.isSome) ∨
    (driver.pumpNative digests readings outcomes).2.Mirrors

/-- Requests for the channel are repeated until the first events have been dropped, and the driver
takes the others. -/
def lostSteps : List DriverCall :=
  outsideCalls (allocatedRun ++ List.replicate 80 (.startChannel (readingsAt 0 1))) ++
    [.pump (readingsAt 0 0) []]

/-- A client with a peer whose address has a scope. -/
def scopedClient : Inner :=
  { userClient with
    peer := .v6 (.ofList (Bytes.be 16 0xfe800000000000000000000000000001)) 9000 0 3 }

/-- Its allocation and its channel. -/
def scopedCalls : List Call :=
  challenged ++
    [.inputStun (readingsAt 0 0)
      (Bytes.be 36 0x010300302112a442101112131415161718191a1b001600140002e242df92a44210111213 ++
        Bytes.be 32 0x1415161718191a190008001438f0df3e1d4469edaa72a9790d27f7153e1f3919)] ++
    bindCalls

/-- The driver does not learn the state after it was dropped before an earlier pump, and never
learns the channel of a peer with a scope. -/
theorem lostSteps_unreflected :
    (Inner.create userClient.server userClient.username userClient.password userClient.peer
        userClient.profile userClient.transport = .ok userClient ∧
      ¬DriverCommon.Reflects mirrorDigests (.after userClient lostSteps) (readingsAt 0 0) []) ∧
    (Inner.create scopedClient.server scopedClient.username scopedClient.password
        scopedClient.peer scopedClient.profile scopedClient.transport = .ok scopedClient ∧
      ¬DriverCommon.Reflects mirrorDigests (.after scopedClient (outsideCalls scopedCalls))
        (readingsAt 0 0) []) := by
  refine ⟨⟨rfl, fun reflects => ?_⟩, ⟨rfl, fun reflects => ?_⟩⟩
  · cases reflects (some 200000000) (by decide +kernel) with
    | inl dropped =>
      have none : ¬Overflowed ((DriverCommon.after userClient lostSteps).core.poll mirrorDigests
          (readingsAt 0 0)).2.events := by
        decide +kernel
      exact none dropped.1
    | inr mirrors =>
      have unequal : ((DriverCommon.after userClient lostSteps).pumpNative mirrorDigests
          (readingsAt 0 0) []).2.shared.snapshot.state ≠
          ((DriverCommon.after userClient lostSteps).pumpNative mirrorDigests
            (readingsAt 0 0) []).2.core.state := by
        decide +kernel
      exact unequal mirrors.state
  · cases reflects (some 10000000000) (by decide +kernel) with
    | inl dropped =>
      have none : ¬Overflowed ((DriverCommon.after scopedClient
          (outsideCalls scopedCalls)).core.poll mirrorDigests (readingsAt 0 0)).2.events := by
        decide +kernel
      exact none dropped.1
    | inr mirrors =>
      have unequal : ((DriverCommon.after scopedClient (outsideCalls scopedCalls)).pumpNative
          mirrorDigests (readingsAt 0 0) []).2.shared.channel ≠
          ((DriverCommon.after scopedClient (outsideCalls scopedCalls)).pumpNative
            mirrorDigests (readingsAt 0 0) []).2.core.usableChannel.getD 0 := by
        decide +kernel
      exact unequal mirrors.channel

end Focsq.Turn
