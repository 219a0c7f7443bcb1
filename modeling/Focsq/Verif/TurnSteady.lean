import Focsq.Verif.TurnInvariant

/-!
# What the TURN client has in hand

A request is built once, sent with growing intervals, and found by its operation. `Steady` says so
of the pending requests and the queued packets: they fit the buffer that they are taken out with as
long as requests can be built that do, no operation is pending twice, and the refresh of an
allocation is either pending or has a timer, but not both.
-/

namespace Focsq.Turn

open Stun

/-- `CONTROL_MAX` — size of the buffer that control packets are taken out with. -/
def controlMax : Nat := 1024

/-- What requests are built from and timers are set by. -/
def Inner.terms (inner : Inner) : SocketAddr × List UInt8 × Option (List UInt8) ×
    Option (List UInt8) × Option (Bytes.Octets 16) × CsqttTurnProfile :=
  (inner.peer, inner.username, inner.realm, inner.nonce, inner.key, inner.profile)

/-- Requests that are built fit the buffer. -/
def Inner.Roomy (digests : Digests) (inner : Inner) : Prop :=
  ∀ operation transaction authenticated packet,
    inner.buildRequest digests operation transaction authenticated = .ok packet →
      packet.length ≤ controlMax

/-- The invariant of requests and packets. That they fit is part of it as long as `limited`. -/
structure Steady (digests : Digests) (limited : Prop) (profile : CsqttTurnProfile)
    (inner : Inner) : Prop where
  /-- The intervals do not change. -/
  profile : inner.profile = profile
  /-- New requests fit. -/
  roomy : limited → inner.Roomy digests
  /-- Queued packets fit. -/
  queued : limited → ∀ control ∈ inner.controls, control.packet.length ≤ controlMax
  /-- Pending requests fit. -/
  awaited : limited → ∀ pending ∈ inner.pending, pending.packet.length ≤ controlMax
  /-- A request is sent again after some time. -/
  spaced : ∀ pending ∈ inner.pending, 0 < pending.rto
  /-- No two pending requests are for the same. -/
  once : (inner.pending.map Pending.operation).Nodup
  /-- A refresh that is pending has no timer. -/
  single : inner.allocationRefresh.isSome → inner.hasOperation .refresh = false

/-- Clients with the same terms build the same requests. -/
theorem roomy_of_terms {digests : Digests} {inner next : Inner} (terms : next.terms = inner.terms)
    (roomy : inner.Roomy digests) : next.Roomy digests := by
  simp only [Inner.terms, Prod.mk.injEq] at terms
  obtain ⟨peer, username, realm, nonce, key, profile⟩ := terms
  intro operation transaction authenticated packet built
  apply roomy operation transaction authenticated packet
  unfold Inner.buildRequest Inner.requestAttributes at built ⊢
  rw [peer, username, realm, nonce, key] at built
  exact built

/-- Clients with the same terms have the same intervals. -/
theorem profile_of_terms {inner next : Inner} (terms : next.terms = inner.terms) :
    next.profile = inner.profile := by
  simp only [Inner.terms, Prod.mk.injEq] at terms
  exact terms.2.2.2.2.2

/-- An operation is not pending when no pending request is for it. -/
theorem hasOperation_false {inner : Inner} {operation : Operation} :
    inner.hasOperation operation = false ↔
      ∀ pending ∈ inner.pending, pending.operation ≠ operation := by
  rw [Inner.hasOperation, List.any_eq_false]
  simp only [beq_iff_eq]

section Steady

variable {digests : Digests} {limited : Prop} {profile : CsqttTurnProfile} {inner : Inner}

/-- Packets and requests may be dropped, and timers reset. -/
theorem Steady.narrowed (steady : Steady digests limited profile inner) {next : Inner}
    (terms : next.terms = inner.terms) (controls : next.controls ⊆ inner.controls)
    (pending : next.pending.Sublist inner.pending)
    (timer : next.allocationRefresh.isSome → inner.allocationRefresh.isSome) :
    Steady digests limited profile next where
  profile := (profile_of_terms terms).trans steady.profile
  roomy := fun limits => roomy_of_terms terms (steady.roomy limits)
  queued := fun limits control member => steady.queued limits control (controls member)
  awaited := fun limits request member => steady.awaited limits request (pending.subset member)
  spaced := fun request member => steady.spaced request (pending.subset member)
  once := steady.once.sublist (pending.map Pending.operation)
  single := by
    intro armed
    have free := hasOperation_false.mp (steady.single (timer armed))
    exact hasOperation_false.mpr (fun request member => free request (pending.subset member))

/-- The refresh gets a timer when none is pending. -/
theorem Steady.armed (steady : Steady digests limited profile inner) {next : Inner}
    (terms : next.terms = inner.terms) (controls : next.controls ⊆ inner.controls)
    (pending : next.pending = inner.pending) (free : inner.hasOperation .refresh = false) :
    Steady digests limited profile next where
  profile := (profile_of_terms terms).trans steady.profile
  roomy := fun limits => roomy_of_terms terms (steady.roomy limits)
  queued := fun limits control member => steady.queued limits control (controls member)
  awaited := by
    rw [pending]
    exact steady.awaited
  spaced := by
    rw [pending]
    exact steady.spaced
  once := by
    rw [pending]
    exact steady.once
  single := by
    intro _
    unfold Inner.hasOperation at free ⊢
    rw [pending]
    exact free

/-- Timers other than that of the refresh do not matter. -/
theorem Steady.timed (steady : Steady digests limited profile inner) {next : Inner}
    (terms : next.terms = inner.terms) (controls : next.controls = inner.controls)
    (pending : next.pending = inner.pending)
    (timer : next.allocationRefresh = inner.allocationRefresh) :
    Steady digests limited profile next :=
  steady.narrowed terms (controls ▸ List.Subset.refl _) (pending ▸ List.Sublist.refl _)
    (timer ▸ id)

/-- Events do not matter. -/
theorem Steady.pushEvent (steady : Steady digests limited profile inner) (event : NativeEvent) :
    Steady digests limited profile (inner.pushEvent event) := by
  rw [pushEvent_eq]
  exact steady.narrowed rfl (List.Subset.refl _) (List.Sublist.refl _) id

/-- The state does not matter. -/
theorem Steady.setState (steady : Steady digests limited profile inner) (state : TurnState) :
    Steady digests limited profile (inner.setState state) := by
  rw [setState_eq]
  exact steady.narrowed rfl (List.Subset.refl _) (List.Sublist.refl _) id

/-- A timer is reset. -/
theorem Steady.clearTimer (steady : Steady digests limited profile inner) (operation : Operation) :
    Steady digests limited profile (inner.clearTimer operation) := by
  cases operation with
  | refresh => exact steady.narrowed rfl (List.Subset.refl _) (List.Sublist.refl _) nofun
  | _ => exact steady.narrowed rfl (List.Subset.refl _) (List.Sublist.refl _) id

/-- Completing a request is an event. -/
theorem Steady.complete (steady : Steady digests limited profile inner) (operation : Operation)
    (status stunCode : Int) :
    Steady digests limited profile (inner.complete operation status stunCode) :=
  steady.pushEvent _

/-- An error response is an event. -/
theorem Steady.responseError (steady : Steady digests limited profile inner) (method : UInt32)
    (status stunCode : Int) :
    Steady digests limited profile (inner.responseError method status stunCode) :=
  steady.pushEvent _

/-- A packet that fits is queued. -/
theorem Steady.queuePacket (steady : Steady digests limited profile inner) (packet : List UInt8)
    (fits : limited → packet.length ≤ controlMax) :
    Steady digests limited profile (inner.queuePacket packet) := by
  have others : Steady digests limited profile { inner with controls := inner.controls.tail } :=
    steady.narrowed rfl (List.tail_subset _) (List.Sublist.refl _) id
  have appended : ∀ {inner : Inner}, Steady digests limited profile inner →
      Steady digests limited profile
        { inner with controls := inner.controls ++ [⟨packet, inner.server⟩] } := by
    intro inner steady
    refine { steady with roomy := ?_, queued := ?_, single := ?_ }
    · exact fun limits => roomy_of_terms rfl (steady.roomy limits)
    · intro limits control member
      cases List.mem_append.mp member with
      | inl before => exact steady.queued limits control before
      | inr last =>
        rw [List.mem_singleton.mp last]
        exact fits limits
    · exact steady.single
  unfold Inner.queuePacket
  split
  · exact appended (others.pushEvent _)
  · exact appended steady

/-- The allocation is lost. -/
theorem Steady.destroyAllocation (steady : Steady digests limited profile inner)
    (operation : Operation) (status stunCode : Int) :
    Steady digests limited profile (inner.destroyAllocation operation status stunCode) := by
  have dropped : Steady digests limited profile
      (inner.complete operation status stunCode).dropAllocation :=
    (steady.complete operation status stunCode).narrowed rfl (List.nil_subset _)
      (List.nil_sublist _) nofun
  unfold Inner.destroyAllocation
  dsimp only
  split
  · exact dropped.setState _
  · exact dropped.setState _

/-- The channel has failed too often. -/
theorem Steady.destroyAfterChannelRebindExhausted
    (steady : Steady digests limited profile inner) :
    Steady digests limited profile inner.destroyAfterChannelRebindExhausted := by
  have dropped : Steady digests limited profile inner.dropChannel :=
    steady.narrowed rfl (List.nil_subset _) (List.nil_sublist _) id
  exact (dropped.pushEvent _).setState _

/-- A failed request is repeated later. -/
theorem Steady.scheduleMaintenanceRetry (steady : Steady digests limited profile inner)
    (operation : Operation) (now : Nat)
    (free : operation = .refresh → inner.hasOperation .refresh = false) :
    Steady digests limited profile (inner.scheduleMaintenanceRetry operation now).2 := by
  cases operation with
  | refresh => exact steady.armed rfl (List.Subset.refl _) rfl (free rfl)
  | channel =>
    unfold Inner.scheduleMaintenanceRetry
    dsimp only
    split <;> exact steady.narrowed rfl (List.Subset.refl _) (List.Sublist.refl _) id
  | _ => exact steady.narrowed rfl (List.Subset.refl _) (List.Sublist.refl _) id

/-- A request failed. -/
theorem Steady.completeFailure (steady : Steady digests limited profile inner)
    (operation : Operation) (status stunCode : Int) (now : Nat)
    (free : operation = .refresh → inner.hasOperation .refresh = false) :
    Steady digests limited profile (inner.completeFailure operation status stunCode now) := by
  unfold Inner.completeFailure
  split
  · have retried := (steady.complete operation status stunCode).scheduleMaintenanceRetry operation
      now (by
        intro refresh
        rw [Inner.complete, pushEvent_eq]
        exact free refresh)
    dsimp only
    split
    · exact retried
    · exact retried.destroyAfterChannelRebindExhausted
  · exact steady.destroyAllocation _ _ _

/-- A request is added for an operation that is not pending. -/
theorem Steady.awaits (steady : Steady digests limited profile inner) (request : Pending)
    (fits : limited → request.packet.length ≤ controlMax) (waits : 0 < request.rto)
    (fresh : ∀ pending ∈ inner.pending, pending.operation ≠ request.operation)
    (idle : request.operation = .refresh → inner.allocationRefresh = none) :
    Steady digests limited profile { inner with pending := inner.pending ++ [request] } := by
  refine { steady with roomy := ?_, awaited := ?_, spaced := ?_, once := ?_, single := ?_ }
  · exact fun limits => roomy_of_terms rfl (steady.roomy limits)
  · intro limits pending member
    cases List.mem_append.mp member with
    | inl before => exact steady.awaited limits pending before
    | inr last =>
      rw [List.mem_singleton.mp last]
      exact fits limits
  · intro pending member
    cases List.mem_append.mp member with
    | inl before => exact steady.spaced pending before
    | inr last =>
      rw [List.mem_singleton.mp last]
      exact waits
  · rw [List.map_append]
    apply List.nodup_append.mpr
    refine ⟨steady.once, List.nodup_singleton _, ?_⟩
    intro one before other last same
    obtain ⟨pending, member, rfl⟩ := List.mem_map.mp before
    rw [List.map_singleton, List.mem_singleton] at last
    exact fresh pending member (same.trans last)
  · intro armed
    change inner.allocationRefresh.isSome at armed
    apply hasOperation_false.mpr
    intro pending member
    cases List.mem_append.mp member with
    | inl before => exact hasOperation_false.mp (steady.single armed) pending before
    | inr last =>
      rw [List.mem_singleton.mp last]
      intro refresh
      rw [idle refresh] at armed
      cases armed

/-- A request is sent, or sent again. -/
theorem Steady.startOperation (steady : Steady digests limited profile inner) {draw : Draw}
    {operation : Operation} {authenticated : Bool} {nonceRetries : Nat} {next : Inner}
    (started : inner.startOperation digests draw operation authenticated nonceRetries = .ok next)
    (idle : operation = .refresh → inner.allocationRefresh = none) :
    Steady digests limited profile next := by
  unfold Inner.startOperation at started
  split at started
  · rename_i pending found
    split at started
    · cases started
      exact steady.queuePacket _
        (fun limits => steady.awaited limits _ (List.mem_of_find?_eq_some found))
    · cases started
      exact steady
  · rename_i missing
    split at started
    · cases started
    · cases built : inner.buildRequest digests operation draw.transaction authenticated with
      | error failure =>
        rw [built] at started
        cases started
      | ok packet =>
        rw [built] at started
        cases started
        have fits : limited → packet.length ≤ controlMax :=
          fun limits => steady.roomy limits _ _ _ _ built
        apply (steady.queuePacket packet fits).awaits
        · exact fits
        · show 0 < initialRto
          decide
        · rw [queuePacket_eq]
          intro request member same
          exact List.find?_eq_none.mp missing request member (beq_iff_eq.mpr same)
        · rw [queuePacket_eq]
          exact idle

/-- A request is sent, or cannot be. -/
theorem Steady.start (steady : Steady digests limited profile inner) (readings : Readings)
    (operation : Operation) (authenticated : Bool)
    (idle : operation = .refresh → inner.allocationRefresh = none) :
    Steady digests limited profile (inner.start digests readings operation authenticated).2 := by
  unfold Inner.start
  split
  · exact steady
  · rename_i next started
    exact steady.startOperation started idle

/-- The allocation has got more time. -/
theorem Steady.extendAllocation (steady : Steady digests limited profile inner) (now : Nat)
    (returned : Option UInt32) (free : inner.hasOperation .refresh = false) :
    Steady digests limited profile (inner.extendAllocation now returned) :=
  steady.armed rfl (List.Subset.refl _) rfl free

/-- A request that was taken out: no refresh is pending when it gets a timer again. -/
structure Taken (inner : Inner) (operation : Operation) : Prop where
  /-- No refresh is pending when an answer to this one sets its timer. -/
  free : operation = .refresh ∨ operation = .allocate → inner.hasOperation .refresh = false
  /-- A refresh that was pending had no timer. -/
  idle : operation = .refresh → inner.allocationRefresh = none

/-- The allocation is there. -/
theorem Steady.allocated (steady : Steady digests limited profile inner) (draw : Draw)
    (relay : SocketAddr) (returned : Option UInt32) (now : Nat)
    (free : inner.hasOperation .refresh = false) :
    Steady digests limited profile (inner.allocated digests draw relay returned now).2 := by
  have set : Steady digests limited profile { inner.extendAllocation now returned with
      relay := some relay
      maintenanceRefresh := some (now + inner.profile.maintenanceRefresh)
      keepalive := some (now + inner.profile.keepaliveInterval) } :=
    steady.armed rfl (List.Subset.refl _) rfl free
  have granted : Steady digests limited profile (inner.grantedBy now relay returned) :=
    set.pushEvent _
  unfold Inner.allocated
  dsimp only
  split
  · split
    · exact granted.setState _
    · rename_i next started
      exact (granted.setState _).startOperation started nofun
  · exact (granted.setState _).complete _ _ _

/-- A positive response. -/
theorem Steady.completeSuccess (steady : Steady digests limited profile inner)
    (readings : Readings) (operation : Operation) (message : Message)
    (taken : Taken inner operation) :
    Steady digests limited profile
      (inner.completeSuccess digests readings operation message).2 := by
  cases operation with
  | allocate =>
    unfold Inner.completeSuccess
    dsimp only
    split
    · exact steady
    · split
      · exact steady
      · exact steady.allocated _ _ _ _ (taken.free (.inr rfl))
  | refresh =>
    unfold Inner.completeSuccess
    dsimp only
    split
    · exact steady
    · exact (steady.extendAllocation _ _ (taken.free (.inl rfl))).complete _ _ _
  | deallocate =>
    unfold Inner.completeSuccess
    dsimp only
    split
    · exact steady
    · have returned : Steady digests limited profile inner.returned :=
        steady.narrowed rfl (List.Subset.refl _) (List.Sublist.refl _) nofun
      exact (returned.complete _ _ _).setState _
  | permission =>
    have reset : Steady digests limited profile { inner with permissionFailures := 0 } :=
      steady.timed rfl rfl rfl rfl
    exact reset.complete _ _ _
  | channel =>
    have bound : Steady digests limited profile
        { inner with channel := some channelNumber, channelFailures := 0 } :=
      steady.timed rfl rfl rfl rfl
    exact (bound.pushEvent _).complete _ _ _

/-- Reporting an error response and failing its request changes none of the terms. -/
theorem completeFailure_terms (inner : Inner) (operation : Operation) (status stunCode : Int)
    (now : Nat) : (inner.completeFailure operation status stunCode now).terms = inner.terms := by
  unfold Inner.completeFailure
  split
  · dsimp only
    rw [Inner.destroyAfterChannelRebindExhausted, setState_eq, pushEvent_eq,
      scheduleMaintenanceRetry_eq, Inner.complete, pushEvent_eq]
    split <;> rfl
  · unfold Inner.destroyAllocation
    dsimp only
    split <;> rw [setState_eq, Inner.complete, pushEvent_eq] <;> rfl

/-- Sending a request changes none of the terms. -/
theorem startOperation_terms {next : Inner} {draw : Draw} {operation : Operation}
    {authenticated : Bool} {nonceRetries : Nat}
    (started : inner.startOperation digests draw operation authenticated nonceRetries = .ok next) :
    next.terms = inner.terms := by
  have queued : ∀ packet, (inner.queuePacket packet).terms = inner.terms := by
    intro packet
    rw [queuePacket_eq]
    rfl
  unfold Inner.startOperation at started
  split at started
  · split at started <;> cases started
    · exact queued _
    · rfl
  · split at started
    · cases started
    · cases built : inner.buildRequest digests operation draw.transaction authenticated with
      | error failure =>
        rw [built] at started
        cases started
      | ok packet =>
        rw [built] at started
        cases started
        exact queued packet

/-- A negative response, after which requests that are built fit. -/
theorem Steady.answerError (steady : Steady digests limited profile inner) (readings : Readings)
    (pending : Pending) (message : Message) (taken : Taken inner pending.operation)
    (roomy : limited → (inner.answerError digests readings pending message).Roomy digests) :
    Steady digests limited profile (inner.answerError digests readings pending message) := by
  have failed : ∀ {inner : Inner} (status code : Int),
      Steady digests limited profile inner →
      (pending.operation = .refresh → inner.hasOperation .refresh = false) →
      Steady digests limited profile
        ((inner.responseError message.method.toUInt32 status code).completeFailure
          pending.operation resultProtocol code readings.now) := by
    intro inner status code steady free
    apply (steady.responseError _ status code).completeFailure
    intro refresh
    rw [Inner.responseError, pushEvent_eq]
    exact free refresh
  have free : pending.operation = .refresh → inner.hasOperation .refresh = false :=
    fun refresh => taken.free (.inl refresh)
  unfold Inner.answerError at roomy ⊢
  dsimp only at roomy ⊢
  split at roomy
  · rename_i zero
    rw [if_pos zero]
    exact failed _ _ steady free
  · rename_i nonzero
    rw [if_neg nonzero]
    split at roomy
    · rename_i recreate
      rw [if_pos recreate]
      exact (steady.responseError _ _ _).destroyAllocation _ _ _
    · rename_i repeated
      rw [if_neg repeated]
      cases renewal : inner.renewal pending message ((errorCode message).getD 0) with
      | none => exact failed _ _ steady free
      | some credentials =>
        rw [renewal] at roomy
        dsimp only at roomy ⊢
        have renewed : (limited → (inner.setAuth digests credentials.1 credentials.2).Roomy
            digests) →
            Steady digests limited profile (inner.setAuth digests credentials.1 credentials.2) :=
          fun fits => { steady with roomy := fits }
        cases started : (inner.setAuth digests credentials.1 credentials.2).startOperation digests
            (readings.draw pending.operation) pending.operation true
              (pending.nonceRetries + 1) with
        | ok next =>
          rw [started] at roomy
          exact (renewed (fun limits => roomy_of_terms (startOperation_terms started).symm
            (roomy limits))).startOperation started taken.idle
        | error failure =>
          rw [started] at roomy
          apply failed _ _ (renewed _) free
          intro limits
          apply roomy_of_terms _ (roomy limits)
          rw [completeFailure_terms, Inner.responseError, pushEvent_eq]
          rfl

/-- A response to a request that was taken out. -/
theorem Steady.answer (steady : Steady digests limited profile inner) (readings : Readings)
    (pending : Pending) (message : Message) (taken : Taken inner pending.operation)
    (roomy : limited → (inner.answer digests readings pending message).2.Roomy digests) :
    Steady digests limited profile (inner.answer digests readings pending message).2 := by
  have free : pending.operation = .refresh → inner.hasOperation .refresh = false :=
    fun refresh => taken.free (.inl refresh)
  unfold Inner.answer at roomy ⊢
  split at roomy
  · rename_i unsigned
    rw [if_pos unsigned]
    exact steady.completeFailure _ _ _ _ free
  · rename_i genuine
    rw [if_neg genuine]
    split at roomy
    · rename_i error
      rw [if_pos error]
      exact steady.answerError readings pending message taken roomy
    · rename_i success
      rw [if_neg success]
      have completed := steady.completeSuccess readings pending.operation message taken
      cases answered : inner.completeSuccess digests readings pending.operation message with
      | mk result next =>
        rw [answered] at completed
        cases result with
        | ok value => exact completed
        | error failure =>
          apply completed.completeFailure
          intro refresh
          rw [refresh] at answered
          unfold Inner.completeSuccess at answered
          dsimp only at answered
          split at answered <;> cases answered
          exact free refresh

/-- The request that a response answers, taken out of the pending ones. -/
theorem Steady.taken (steady : Steady digests limited profile inner)
    (sound : Sound False ⟨none, inner⟩) {message : Message} {pending : Pending}
    (found : inner.pending.find? (·.matches message) = some pending) :
    Steady digests limited profile ({ inner with
        pending := inner.pending.eraseP (·.matches message) }.removeQueuedTransaction
          message.transaction) ∧
      Taken ({ inner with
        pending := inner.pending.eraseP (·.matches message) }.removeQueuedTransaction
          message.transaction) pending.operation := by
  have member := List.mem_of_find?_eq_some found
  constructor
  · exact steady.narrowed rfl (fun _ kept => (List.mem_filter.mp kept).1) List.eraseP_sublist id
  · constructor
    · intro operation
      apply hasOperation_false.mpr
      intro other kept same
      cases operation with
      | inl refresh =>
        obtain ⟨matched, before, after, among, others⟩ := List.find?_eq_some_iff_append.mp found
        have removed : inner.pending.eraseP (·.matches message) = before ++ after := by
          rw [among, List.eraseP_append_right _ (by simpa using others),
            List.eraseP_cons_of_pos (by exact matched)]
        exact Vec.others_of_nodup (among ▸ steady.once) other (removed ▸ kept) (same.trans refresh.symm)
      | inr allocate =>
        -- while the allocation is asked for, there is no other request
        have phases : ∀ request ∈ inner.pending, request.operation.phase = inner.state :=
          fun request among => sound.phase (request.operation, request.authenticated)
            (List.mem_map_of_mem among)
        have one := phases pending member
        have two := phases other (List.eraseP_subset kept)
        rw [allocate] at one
        rw [same, ← one] at two
        cases two
    · intro refresh
      cases timer : inner.allocationRefresh with
      | none => rfl
      | some time =>
        have free := hasOperation_false.mp (steady.single (timer ▸ rfl))
        exact absurd refresh (free pending member)

/-- A datagram, after which requests that are built fit. -/
theorem Steady.inputStun (steady : Steady digests limited profile inner)
    (sound : Sound False ⟨none, inner⟩) (readings : Readings) (packet : List UInt8)
    (roomy : limited → (inner.inputStun digests readings packet).2.Roomy digests) :
    Steady digests limited profile (inner.inputStun digests readings packet).2 := by
  unfold Inner.inputStun at roomy ⊢
  split
  · exact steady
  · rename_i message decoded
    rw [decoded] at roomy
    dsimp only at roomy
    split
    · exact steady
    · rename_i response
      rw [if_neg response] at roomy
      split
      · exact steady
      · rename_i intact
        rw [if_neg intact] at roomy
        split
        · exact steady
        · rename_i pending found
          rw [found] at roomy
          dsimp only at roomy
          split
          · split
            · exact steady.responseError _ _ _
            · exact steady
          · rename_i verified
            rw [if_neg verified] at roomy
            obtain ⟨kept, taken⟩ := steady.taken sound found
            exact kept.answer readings pending message taken roomy

/-- A pending request is sent again after some time. -/
theorem Steady.replaced (steady : Steady digests limited profile inner) (index : Nat)
    (pending : Pending) {next : Pending} (there : inner.pending[index]? = some pending)
    (same : next.operation = pending.operation ∧ next.packet = pending.packet)
    (spaced : 0 < next.rto) :
    Steady digests limited profile { inner with pending := inner.pending.set index next } := by
  have operations : (inner.pending.set index next).map Pending.operation =
      inner.pending.map Pending.operation := by
    have short := (List.getElem?_eq_some_iff.mp there).1
    rw [List.set_eq_take_append_cons_drop, if_pos short, List.map_append, List.map_cons, same.1]
    conv_rhs => rw [Vec.split_at there, List.map_append, List.map_cons]
  refine { steady with roomy := ?_, awaited := ?_, spaced := ?_, once := ?_, single := ?_ }
  · exact fun limits => roomy_of_terms rfl (steady.roomy limits)
  · intro limits request member
    cases List.mem_or_eq_of_mem_set member with
    | inl before => exact steady.awaited limits request before
    | inr replaced =>
      rw [replaced, same.2]
      exact steady.awaited limits pending (List.mem_of_getElem? there)
  · intro request member
    cases List.mem_or_eq_of_mem_set member with
    | inl before => exact steady.spaced request before
    | inr replaced => exact replaced ▸ spaced
  · exact operations ▸ steady.once
  · intro armed
    apply hasOperation_false.mpr
    have free := hasOperation_false.mp (steady.single armed)
    intro request member
    cases List.mem_or_eq_of_mem_set member with
    | inl before => exact free request before
    | inr replaced =>
      rw [replaced, same.1]
      exact free pending (List.mem_of_getElem? there)

/-- The loop over requests that are due. -/
theorem Steady.expireLoop (steady : Steady digests limited profile inner) (now fuel index : Nat) :
    Steady digests limited profile (inner.expireLoop now fuel index) := by
  induction fuel generalizing index inner with
  | zero => exact steady
  | succ fuel ih =>
    unfold Inner.expireLoop
    split
    · exact steady
    · rename_i pending there
      have member := List.mem_of_getElem? there
      have short := (List.getElem?_eq_some_iff.mp there).1
      split
      · exact ih steady _
      · split
        · have kept : Steady digests limited profile ({ inner with
              pending := inner.pending.eraseIdx index }.removeQueuedTransaction
                pending.transaction) :=
            steady.narrowed rfl (fun _ kept => (List.mem_filter.mp kept).1)
              (List.eraseIdx_sublist _ _) id
          apply ih
          apply kept.completeFailure
          intro refresh
          apply hasOperation_false.mpr
          intro other rest same
          change other ∈ inner.pending.eraseIdx index at rest
          rw [List.eraseIdx_eq_take_drop_succ] at rest
          exact Vec.others_of_nodup (Vec.split_at there ▸ steady.once) other rest (same.trans refresh.symm)
        · have queued := steady.queuePacket pending.packet
            (fun limits => steady.awaited limits pending member)
          have same : (inner.queuePacket pending.packet).pending = inner.pending := by
            rw [queuePacket_eq]
          apply ih
          apply queued.replaced index pending
          · exact same ▸ there
          · exact ⟨rfl, rfl⟩
          · have positive := steady.spaced pending member
            show 0 < min (pending.rto * 2) maxRto
            unfold maxRto millis
            omega

/-- One part after the other. -/
theorem steady_andThen {α β : Type} {first : Except Failure α × Inner}
    {next : α → Inner → Except Failure β × Inner}
    (left : Steady digests limited profile first.2)
    (right : ∀ value, Steady digests limited profile first.2 →
      Steady digests limited profile (next value first.2).2) :
    Steady digests limited profile (andThen first next).2 := by
  cases first with
  | mk result middle =>
    cases result with
    | error failure => exact left
    | ok value => exact right value left

/-- Starting what is due. -/
theorem Steady.startDue (steady : Steady digests limited profile inner) (readings : Readings)
    (operation : Operation) (due : Bool) :
    Steady digests limited profile (inner.startDue digests readings operation due).2 := by
  unfold Inner.startDue
  split
  · apply steady_andThen
    · apply (steady.clearTimer operation).start
      intro refresh
      rw [refresh]
      rfl
    · exact fun _ kept => kept
  · exact steady

/-- Either of two states. -/
theorem steady_ite {condition : Prop} [Decidable condition] {one other : Inner}
    (first : Steady digests limited profile one) (second : Steady digests limited profile other) :
    Steady digests limited profile (if condition then one else other) := by
  split
  · exact first
  · exact second

/-- The keepalive is due. -/
theorem Steady.renewKeepalive (steady : Steady digests limited profile inner) (now : Nat)
    (controlStarted : Bool) :
    Steady digests limited profile (inner.renewKeepalive now controlStarted) := by
  have renewed : Steady digests limited profile
      { inner with keepalive := some (now + inner.profile.keepaliveInterval) } :=
    steady.timed rfl rfl rfl rfl
  unfold Inner.renewKeepalive
  dsimp only
  split
  · exact renewed
  · unfold Inner.queueKeepalive
    split
    · exact renewed
    · exact renewed.queuePacket _ (fun _ => by
        rw [List.length_append, List.length_append, Bytes.length_be, Bytes.length_be]
        decide)

/-- Keeping permission and channel alive. -/
theorem Steady.maintain (steady : Steady digests limited profile inner) (readings : Readings) :
    Steady digests limited profile (inner.maintain digests readings).2 := by
  unfold Inner.maintain
  apply steady_andThen (steady.startDue readings .refresh _)
  intro refreshed first
  apply steady_andThen
  · apply Steady.startDue
    exact steady_ite (first.timed rfl rfl rfl rfl) first
  · intro permitted second
    apply steady_andThen (second.startDue readings .channel _)
    intro bound third
    exact steady_ite (third.renewKeepalive _ _) third

/-- The work that is due. -/
theorem Steady.poll (steady : Steady digests limited profile inner) (readings : Readings) :
    Steady digests limited profile (inner.poll digests readings).2 := by
  unfold Inner.poll
  dsimp only
  split
  · exact steady
  · have expired : Steady digests limited profile (inner.expireTransactions readings.now) :=
      steady.expireLoop _ _ _
    generalize inner.expireTransactions readings.now = second at expired
    have ended : Steady digests limited profile
        (if (!second.shuttingDown && second.state == .ready &&
          reached second.allocationExpiresAt readings.now) = true then
            second.destroyAllocation .refresh resultTimeout 0 else second) :=
      steady_ite (expired.destroyAllocation _ _ _) expired
    generalize (if (!second.shuttingDown && second.state == .ready &&
      reached second.allocationExpiresAt readings.now) = true then
        second.destroyAllocation .refresh resultTimeout 0 else second) = third at ended
    apply steady_andThen
    · split
      · exact ended.maintain readings
      · exact ended
    · exact fun _ kept => kept

/-- Giving the allocation back. -/
theorem Steady.gracefulShutdown (steady : Steady digests limited profile inner)
    (readings : Readings) :
    Steady digests limited profile (inner.gracefulShutdown digests readings).2 := by
  have quiet : Steady digests limited profile inner.quiet :=
    steady.narrowed rfl (List.nil_subset _) (List.Sublist.refl _) id
  have emptied : Steady digests limited profile { inner.quiet with pending := [] } :=
    steady.narrowed rfl (List.nil_subset _) (List.nil_sublist _) id
  unfold Inner.gracefulShutdown
  split
  · exact steady
  · dsimp only
    split
    · exact (emptied.setState _).start _ _ _ nofun
    · split
      · exact emptied
      · exact quiet

/-- A call keeps the invariant if requests that are built after it fit. -/
theorem steady_call (call : Call) (valid : Valid False inner)
    (steady : Steady digests limited profile inner)
    (roomy : limited → (inner.call digests call).1.Roomy digests) :
    Steady digests limited profile (inner.call digests call).1 := by
  cases call with
  | startAllocation readings =>
    show Steady digests limited profile (inner.startAllocation digests readings).2
    unfold Inner.startAllocation
    split
    · exact steady
    · split
      · exact steady
      · exact (steady.setState _).start _ _ _ nofun
  | startChannel readings =>
    show Steady digests limited profile (inner.startChannel digests readings).2
    unfold Inner.startChannel
    split
    · exact steady
    · exact steady.start _ _ _ nofun
  | startPermission readings =>
    show Steady digests limited profile (inner.startPermission digests readings).2
    unfold Inner.startPermission
    split
    · exact steady
    · exact steady.start _ _ _ nofun
  | inputStun readings packet =>
    cases valid with
    | inl sound => exact steady.inputStun sound readings packet roomy
    | inr gone =>
      rw [gone_kept digests inner (.inputStun readings packet) gone (fun same => by cases same)]
      exact steady
  | poll readings => exact steady.poll readings
  | pullControl =>
    show Steady digests limited profile inner.pullControl.2
    unfold Inner.pullControl
    split
    · exact steady
    · rename_i control controls queued
      exact steady.narrowed rfl (queued ▸ List.subset_cons_self _ _) (List.Sublist.refl _) id
  | pullEvent => exact steady.narrowed rfl (List.Subset.refl _) (List.Sublist.refl _) id
  | gracefulShutdown readings => exact steady.gracefulShutdown readings
  | forceDestroy status =>
    show Steady digests limited profile (inner.forceDestroy status)
    unfold Inner.forceDestroy
    split
    · exact steady
    · have torn : Steady digests limited profile
          { inner with destroyed := true, controls := [], pending := [] } :=
        steady.narrowed rfl (List.nil_subset _) (List.nil_sublist _) id
      exact (torn.setState _).pushEvent _

/-- A new client has nothing in hand. -/
theorem steady_create {server peer : SocketAddr} {username password : List UInt8}
    {transport : TurnControlTransport} {start : Inner}
    (created : Inner.create server username password peer profile transport = .ok start)
    (roomy : limited → start.Roomy digests) : Steady digests limited profile start := by
  unfold Inner.create at created
  dsimp only at created
  split at created
  · cases created
  · split at created
    · cases created
    · cases created
      exact
        { profile := rfl
          roomy := roomy
          queued := nofun
          awaited := nofun
          spaced := nofun
          once := List.nodup_nil
          single := nofun }

/-- Both invariants hold in every run, as long as requests that are built in the states it goes
through fit. -/
theorem steady_run {server peer : SocketAddr} {username password : List UInt8}
    {transport : TurnControlTransport} {start : Inner}
    (created : Inner.create server username password peer profile transport = .ok start)
    (calls : List Call)
    (roomy : limited → ∀ begun, begun <+: calls →
      (Mealy.final (Inner.call digests) start begun).Roomy digests) :
    Valid False (Mealy.final (Inner.call digests) start calls) ∧
      Steady digests limited profile (Mealy.final (Inner.call digests) start calls) := by
  have along : Mealy.Along (Inner.call digests)
      (fun inner call => limited → (inner.call digests call).1.Roomy digests) start calls := by
    apply (Mealy.along_iff_forall start calls).mpr
    intro before call begins limits
    have reached := roomy limits _ begins
    rw [Mealy.final_append] at reached
    exact reached
  have initial := steady_create created (fun limits => roomy limits [] (List.nil_prefix))
  apply Mealy.invariant
    (fun inner => Valid False inner ∧ Steady digests limited profile inner) _ start calls
    ⟨.inl (sound_create created), initial⟩ along
  intro inner call both fits
  exact ⟨valid_call digests inner call both.1 nofun, steady_call call both.1 both.2 fits⟩

end Steady

end Focsq.Turn
