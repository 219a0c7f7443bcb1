import Focsq.Lib.Mealy
import Focsq.Verif.Notify
import Focsq.Verif.ShutdownSteps

/-!
# A coordinated shutdown

Whatever the order in which tasks use the coordinator, there is one leader, which sends at most two
requests, over the streams that were active last when it read them. The shutdown is completed once,
no stream is added after it began, and no task is left waiting for it.
-/

namespace Focsq.Session

open Dispatcher Protocol

variable {notifies : Notify} {ω : Type}

section Statement

/-- Whether a role is to lead. -/
def Role.leads : Role ω → Bool
  | .leading _ => true
  | .other | .electing | .following => false

/-- Whether a role is decided. -/
def Role.decided : Role ω → Bool
  | .following | .leading _ => true
  | .other | .electing => false

/-- Whether a task becomes the leader. -/
def ShutdownEvent.isElected : ShutdownEvent ω → Bool
  | .elected => true
  | .collected _ | .read _ _ | .requested _ _ | .notified => false

/-- The streams that the leader is to read. -/
def ShutdownEvent.collection : ShutdownEvent ω → Option (List (ShutdownControlStream ω))
  | .collected streams => some streams
  | .elected | .read _ _ | .requested _ _ | .notified => none

/-- What the leader has read. -/
def ShutdownEvent.reading : ShutdownEvent ω → Option (UInt64 × ShutdownControlStream ω)
  | .read activity stream => some (activity, stream)
  | .elected | .collected _ | .requested _ _ | .notified => none

/-- The stream that a request is sent over. -/
def ShutdownEvent.request : ShutdownEvent ω → Option (ShutdownControlStream ω)
  | .requested stream _ => some stream
  | .elected | .collected _ | .read _ _ | .notified => none

/-- The streams at each snapshot. -/
def collectionsOf (events : List (ShutdownEvent ω)) : List (List (ShutdownControlStream ω)) :=
  events.filterMap ShutdownEvent.collection

/-- What was read of them. -/
def readsOf (events : List (ShutdownEvent ω)) : List (UInt64 × ShutdownControlStream ω) :=
  events.filterMap ShutdownEvent.reading

/-- The streams that requests were sent over. -/
def requestsOf (events : List (ShutdownEvent ω)) : List (ShutdownControlStream ω) :=
  events.filterMap ShutdownEvent.request

/-- What the coordinator is for. -/
structure Coordinated (events : List (ShutdownEvent ω)) (pool : ShutdownPool notifies ω) :
    Prop where
  /-- A task leads that was elected. -/
  leader : pool.tasks.countP (fun task => task.role.leads) =
    events.countP ShutdownEvent.isElected
  /-- There is one such task at most, -/
  single : events.countP ShutdownEvent.isElected ≤ 1
  /-- and exactly one as soon as any task is decided. -/
  decided : ∀ task ∈ pool.tasks, task.role.decided = true →
    events.countP ShutdownEvent.isElected = 1
  /-- Two requests are sent at most, -/
  few : (requestsOf events).length ≤ disconnectControlAttempts
  /-- over the first streams in the order of what was read of them. -/
  ordered : ∃ ordered, List.Perm ordered (readsOf events) ∧ ordered.Pairwise moreRecent ∧
    (requestsOf events).Sublist ((ordered.take disconnectControlAttempts).map Prod.snd)
  /-- All streams at one snapshot were read. -/
  snapshot : requestsOf events ≠ [] → collectionsOf events = [(readsOf events).map Prod.snd]
  /-- Requests are sent over distinct streams. -/
  distinct : ((requestsOf events).map ShutdownControlStream.activity).Nodup
  /-- Whoever completes wakes the others once. -/
  notified : events.countP ShutdownEvent.isNotified + pool.tasks.countP ShutdownTask.signals =
    pool.shared.state.completed.toNat
  /-- After that a parked task is woken, or someone is about to wake it. -/
  woken : pool.shared.state.completed = true → ∀ task ∈ pool.tasks, ∀ future,
    task.parked = some future → (notifies.poll pool.shared.changed future).1 = true ∨
      ∃ notifier ∈ pool.tasks, notifier.signals = true

/-- What never happens to the state is undone: it stays active and completed, and has no new streams
once it is active. -/
structure Later (before after : ShutdownState ω) : Prop where
  /-- It stays active. -/
  active : before.active = true → after.active = true
  /-- It stays completed. -/
  completed : before.completed = true → after.completed = true
  /-- No stream is added. -/
  streams : before.active = true → after.streams.Sublist before.streams

/-- Events say what is in the state when they happen. -/
def ShutdownEvent.Faithful (coordinator : ShutdownCoordinator notifies ω) :
    ShutdownEvent ω → Prop
  | .collected streams => streams = coordinator.state.streams
  | .read activity stream => stream ∈ coordinator.state.streams ∧
      coordinator.activities[stream.activity]? = some activity
  | .elected | .requested _ _ | .notified => True

end Statement

section Leader

/-- What has happened up to a phase of the leader. -/
def Phase.Records (events : List (ShutdownEvent ω)) (streams : List (ShutdownControlStream ω)) :
    Phase ω → Prop
  | .collecting => collectionsOf events = [] ∧ readsOf events = [] ∧ requestsOf events = []
  | .reading left read => collectionsOf events = [streams] ∧ readsOf events = read ∧
      read.map Prod.snd ++ left = streams ∧ requestsOf events = []
  | .sending left => collectionsOf events = [(readsOf events).map Prod.snd] ∧
      (requestsOf events ++ left).Sublist
        ((orderStreams (readsOf events)).take disconnectControlAttempts)
  | .finished => collectionsOf events = [(readsOf events).map Prod.snd] ∧
      (requestsOf events).Sublist
        ((orderStreams (readsOf events)).take disconnectControlAttempts)

/-- There is one leader, and what has happened is what it has done. -/
structure Led (events : List (ShutdownEvent ω)) (pool : ShutdownPool notifies ω) : Prop where
  /-- There is a leader when the coordinator is active. -/
  leaders : pool.tasks.countP (fun task => task.role.leads) = pool.shared.state.active.toNat
  /-- It was elected. -/
  elected : events.countP ShutdownEvent.isElected = pool.shared.state.active.toNat
  /-- Only then others follow. -/
  following : ∀ task ∈ pool.tasks, task.role = .following → pool.shared.state.active = true
  /-- Only then the shutdown is completed. -/
  completed : pool.shared.state.completed = true → pool.shared.state.active = true
  /-- While it reads, the leader holds the mutex. -/
  mutex : ∀ task ∈ pool.tasks, ∀ left read, task.role = .leading (.reading left read) →
    pool.shared.locked = true
  /-- What has happened is what it has done. -/
  recorded : ∀ task ∈ pool.tasks, ∀ phase, task.role = .leading phase →
    phase.Records events pool.shared.state.streams
  /-- Nothing has happened before. -/
  unrecorded : pool.shared.state.active = false →
    collectionsOf events = [] ∧ readsOf events = [] ∧ requestsOf events = []

/-- What one more event adds to the snapshots. -/
theorem collectionsOf_concat (events : List (ShutdownEvent ω)) (event : ShutdownEvent ω) :
    collectionsOf (events ++ [event]) = collectionsOf events ++ event.collection.toList := by
  unfold collectionsOf
  rw [List.filterMap_append]
  cases event <;> rfl

/-- What one more event adds to what was read. -/
theorem readsOf_concat (events : List (ShutdownEvent ω)) (event : ShutdownEvent ω) :
    readsOf (events ++ [event]) = readsOf events ++ event.reading.toList := by
  unfold readsOf
  rw [List.filterMap_append]
  cases event <;> rfl

/-- What one more event adds to the requests. -/
theorem requestsOf_concat (events : List (ShutdownEvent ω)) (event : ShutdownEvent ω) :
    requestsOf (events ++ [event]) = requestsOf events ++ event.request.toList := by
  unfold requestsOf
  rw [List.filterMap_append]
  cases event <;> rfl

/-- Events that are none of the leader. -/
def Silent (event : Option (ShutdownEvent ω)) : Prop := event = none ∨ event = some .notified

/-- They change no record. -/
theorem Silent.same {event : Option (ShutdownEvent ω)} (silent : Silent event)
    (events : List (ShutdownEvent ω)) :
    collectionsOf (events ++ event.toList) = collectionsOf events ∧
      readsOf (events ++ event.toList) = readsOf events ∧
      requestsOf (events ++ event.toList) = requestsOf events ∧
      (events ++ event.toList).countP ShutdownEvent.isElected =
        events.countP ShutdownEvent.isElected := by
  rcases silent with rfl | rfl
  · simp
  · rw [Option.toList_some, collectionsOf_concat, readsOf_concat, requestsOf_concat,
      List.countP_append]
    simp [ShutdownEvent.collection, ShutdownEvent.reading, ShutdownEvent.request,
      ShutdownEvent.isElected]

/-- Records are the same when nothing happens and the streams that are being read stay. -/
theorem Phase.Records.keep {phase : Phase ω} {events : List (ShutdownEvent ω)}
    {event : Option (ShutdownEvent ω)} {streams others : List (ShutdownControlStream ω)}
    (records : phase.Records events streams) (silent : Silent event)
    (same : ∀ left read, phase = .reading left read → others = streams) :
    phase.Records (events ++ event.toList) others := by
  obtain ⟨collections, reads, requests, _⟩ := silent.same events
  unfold Phase.Records at records ⊢
  rw [collections, reads, requests]
  cases phase with
  | reading left read =>
    rw [same left read rfl]
    exact records
  | collecting | sending | finished => exact records

variable {events : List (ShutdownEvent ω)} {coordinator after : ShutdownCoordinator notifies ω}
  {front back : List (ShutdownTask notifies ω)} {task moved : ShutdownTask notifies ω}
  {event : Option (ShutdownEvent ω)}

/-- A task with the same role has stepped, and streams that are being read have stayed. -/
theorem Led.keep (led : Led events ⟨coordinator, front ++ task :: back⟩) (silent : Silent event)
    (role : moved.role = task.role) (active : after.state.active = coordinator.state.active)
    (completed : after.state.completed = true → coordinator.state.completed = true ∨
      coordinator.state.active = true)
    (mutex : after.locked = coordinator.locked)
    (streams : coordinator.locked = true → after.state.streams = coordinator.state.streams) :
    Led (events ++ event.toList) ⟨after, front ++ moved :: back⟩ := by
  obtain ⟨collections, reads, requests, elected⟩ := silent.same events
  have origin (other : ShutdownTask notifies ω) (member : other ∈ front ++ moved :: back) :
      ∃ old ∈ front ++ task :: back, other.role = old.role := by
    rcases Tasks.eq_or_mem_others member with same | old
    · exact ⟨task, by simp, by rw [same, role]⟩
    · exact ⟨other, Tasks.mem_of_others old, rfl⟩
  refine ⟨?_, ?_, ?_, ?_, ?_, ?_, ?_⟩
  · have leaders := led.leaders
    rw [Tasks.countP_task] at leaders ⊢
    rw [role, active]
    exact leaders
  · rw [elected, active]
    exact led.elected
  · intro other member follows
    obtain ⟨old, there, same⟩ := origin other member
    rw [active]
    exact led.following old there (same ▸ follows)
  · intro done
    rw [active]
    rcases completed done with earlier | now
    · exact led.completed earlier
    · exact now
  · intro other member left read reading
    obtain ⟨old, there, same⟩ := origin other member
    rw [mutex]
    exact led.mutex old there left read (same ▸ reading)
  · intro other member phase leads
    obtain ⟨old, there, same⟩ := origin other member
    refine (led.recorded old there phase (same ▸ leads)).keep silent fun left read reading => ?_
    exact streams (led.mutex old there left read (by rw [← same, leads, reading]))
  · intro inactive
    rw [collections, reads, requests]
    exact led.unrecorded (active ▸ inactive)

/-- There is a leader only when the coordinator is active. -/
theorem Led.active {phase : Phase ω} (led : Led events ⟨coordinator, front ++ task :: back⟩)
    (role : task.role = .leading phase) : coordinator.state.active = true := by
  have leaders := led.leaders
  rw [Tasks.countP_task, role] at leaders
  cases inactive : coordinator.state.active with
  | true => rfl
  | false =>
    rw [inactive] at leaders
    exact absurd leaders (Nat.succ_ne_zero _)

/-- The leader has gone on to another phase. -/
theorem Led.lead {phase next : Phase ω} (led : Led events ⟨coordinator, front ++ task :: back⟩)
    (role : task.role = .leading phase) (leads : moved.role = .leading next)
    (state : after.state = coordinator.state)
    (again : event.toList.countP ShutdownEvent.isElected = 0)
    (mutex : ∀ left read, next = .reading left read → after.locked = true)
    (records : next.Records (events ++ event.toList) coordinator.state.streams) :
    Led (events ++ event.toList) ⟨after, front ++ moved :: back⟩ := by
  have active := led.active role
  have others : (front ++ back).countP (fun task => task.role.leads) = 0 := by
    have leaders := led.leaders
    rw [Tasks.countP_task, role, active] at leaders
    exact Nat.add_right_cancel leaders
  have apart (other : ShutdownTask notifies ω) (member : other ∈ front ++ back)
      (phase : Phase ω) : other.role ≠ .leading phase := by
    intro leading
    have never := List.countP_eq_zero.mp others other member
    rw [leading] at never
    exact never rfl
  refine ⟨?_, ?_, ?_, ?_, ?_, ?_, ?_⟩
  · rw [Tasks.countP_task, others, leads, state, active]
    rfl
  · rw [List.countP_append, again, state]
    exact led.elected
  · intro other _ _
    rw [state]
    exact active
  · intro _
    rw [state]
    exact active
  · intro other member left read reading
    rcases Tasks.eq_or_mem_others member with same | old
    · rw [same, leads, Role.leading.injEq] at reading
      exact mutex left read reading
    · exact absurd reading (apart other old _)
  · intro other member reached leading
    rcases Tasks.eq_or_mem_others member with same | old
    · rw [same, leads, Role.leading.injEq] at leading
      rw [← leading, state]
      exact records
    · exact absurd leading (apart other old _)
  · intro inactive
    rw [state, active] at inactive
    cases inactive

/-- The first task has begun to lead. -/
theorem Led.elect (led : Led events ⟨coordinator, front ++ task :: back⟩)
    (inactive : coordinator.state.active = false) (role : task.role = .electing)
    (leads : moved.role = .leading .collecting) :
    Led (events ++ [.elected])
      ⟨{ coordinator with state := { coordinator.state with active := true, completed := false } },
        front ++ moved :: back⟩ := by
  obtain ⟨collections, reads, requests⟩ := led.unrecorded inactive
  have none := led.leaders
  rw [Tasks.countP_task, role, inactive] at none
  have others : (front ++ back).countP (fun task => task.role.leads) = 0 := none
  refine ⟨?_, ?_, fun _ _ _ => rfl, fun _ => rfl, ?_, ?_, fun active => by cases active⟩
  · rw [Tasks.countP_task, others, leads]
    rfl
  · have elected := led.elected
    rw [inactive] at elected
    rw [List.countP_append, elected]
    rfl
  · intro other member left read reading
    rcases Tasks.eq_or_mem_others member with same | old
    · rw [same, leads] at reading
      cases reading
    · exact led.mutex other (Tasks.mem_of_others old) left read reading
  · intro other member phase leading
    rcases Tasks.eq_or_mem_others member with same | old
    · rw [same, leads, Role.leading.injEq] at leading
      rw [← leading]
      refine ⟨?_, ?_, ?_⟩
      · rw [collectionsOf_concat, collections]
        rfl
      · rw [readsOf_concat, reads]
        rfl
      · rw [requestsOf_concat, requests]
        rfl
    · have never := List.countP_eq_zero.mp others other old
      rw [leading] at never
      exact absurd rfl never

/-- Another task has begun to follow. -/
theorem Led.follow (led : Led events ⟨coordinator, front ++ task :: back⟩)
    (active : coordinator.state.active = true) (role : task.role = .electing)
    (follows : moved.role = .following) : Led events ⟨coordinator, front ++ moved :: back⟩ := by
  have origin (other : ShutdownTask notifies ω) (member : other ∈ front ++ moved :: back) :
      other = moved ∨ other ∈ front ++ task :: back := Tasks.mem_replaced member
  refine ⟨?_, led.elected, fun _ _ _ => active, led.completed, ?_, ?_, led.unrecorded⟩
  · have leaders := led.leaders
    rw [Tasks.countP_task, role] at leaders
    rw [Tasks.countP_task, follows]
    exact leaders
  · intro other member left read reading
    rcases origin other member with same | old
    · rw [same, follows] at reading
      cases reading
    · exact led.mutex other old left read reading
  · intro other member phase leading
    rcases origin other member with same | old
    · rw [same, follows] at leading
      cases leading
    · exact led.recorded other old phase leading

/-- A step of a task. -/
theorem Led.step (led : Led events ⟨coordinator, front ++ task :: back⟩)
    (moves : task.Moves coordinator after moved event) :
    Led (events ++ event.toList) ⟨after, front ++ moved :: back⟩ := by
  have here : task ∈ front ++ task :: back := by simp
  cases moves with
  | quiet state mutex role silent =>
    exact led.keep silent role (by rw [state]) (fun done => .inl (state ▸ done)) mutex
      fun _ => by rw [state]
  | complete free incomplete active role =>
    refine led.keep (.inl rfl) role rfl (fun _ => .inr ?_) rfl fun _ => rfl
    rcases active with active | finished
    · exact active
    · exact led.active finished
  | add free inactive role =>
    refine led.keep (.inl rfl) role rfl .inl rfl fun held => ?_
    rw [free] at held
    cases held
  | remove free role =>
    refine led.keep (.inl rfl) role rfl .inl rfl fun held => ?_
    rw [free] at held
    cases held
  | elect free inactive role leads => exact led.elect inactive role leads
  | follow active role follows =>
    rw [Option.toList_none, List.append_nil]
    exact led.follow active role follows
  | collect free role reads =>
    obtain ⟨collections, read, requests⟩ := led.recorded task here _ role
    refine led.lead role reads rfl rfl (fun _ _ _ => rfl) ⟨?_, ?_, rfl, ?_⟩
    · rw [Option.toList_some, collectionsOf_concat, collections]
      rfl
    · rw [Option.toList_some, readsOf_concat, read]
      rfl
    · rw [Option.toList_some, requestsOf_concat, requests]
      rfl
  | read role reads =>
    obtain ⟨collections, read, split, requests⟩ := led.recorded task here _ role
    refine led.lead role reads rfl rfl (fun _ _ _ => led.mutex task here _ _ role) ⟨?_, ?_, ?_, ?_⟩
    · rw [Option.toList_some, collectionsOf_concat, collections]
      exact List.append_nil _
    · rw [Option.toList_some, readsOf_concat, read]
      rfl
    · rw [List.map_append, List.append_assoc]
      exact split
    · rw [Option.toList_some, requestsOf_concat, requests]
      rfl
  | release role sends =>
    obtain ⟨collections, read, split, requests⟩ := led.recorded task here _ role
    refine led.lead role sends rfl rfl (fun _ _ reading => by cases reading) ?_
    rw [List.append_nil] at split
    rw [Option.toList_none, List.append_nil]
    refine ⟨by rw [collections, read, split], ?_⟩
    rw [requests, read, List.nil_append]
  | @request stream left text _ role sends =>
    obtain ⟨collections, requests⟩ := led.recorded task here _ role
    refine led.lead role sends rfl rfl (fun _ _ reading => by cases reading) ?_
    have read : readsOf (events ++ [.requested stream text]) = readsOf events := by
      rw [readsOf_concat]
      exact List.append_nil _
    rw [Option.toList_some]
    refine ⟨?_, ?_⟩
    · rw [collectionsOf_concat, read, collections]
      rfl
    · rw [requestsOf_concat, read, List.append_assoc]
      exact requests
  | @skip stream left _ role sends =>
    obtain ⟨collections, requests⟩ := led.recorded task here _ role
    refine led.lead role sends rfl rfl (fun _ _ reading => by cases reading) ?_
    rw [Option.toList_none, List.append_nil]
    refine ⟨collections, List.Sublist.trans ?_ requests⟩
    exact (List.sublist_cons_self stream left).append_left _
  | @finish left _ role ends =>
    obtain ⟨collections, requests⟩ := led.recorded task here _ role
    refine led.lead role ends rfl rfl (fun _ _ reading => by cases reading) ?_
    rw [Option.toList_none, List.append_nil]
    exact ⟨collections, (List.sublist_append_left _ _).trans requests⟩

/-- A task that begins. -/
theorem Led.begin (led : Led events ⟨coordinator, front⟩) (call : ShutdownBegin ω) :
    Led events ⟨coordinator, front ++ [ShutdownTask.enter call]⟩ := by
  have role : (ShutdownTask.enter call : ShutdownTask notifies ω).role = .electing ∨
      (ShutdownTask.enter call : ShutdownTask notifies ω).role = .other := by
    cases call with
    | requestDisconnect => exact .inl rfl
    | observeControlResponse | register | unregister | markActivity => exact .inr rfl
  have origin {other : ShutdownTask notifies ω}
      (member : other ∈ front ++ [ShutdownTask.enter call]) :
      other ∈ front ∨ other.role = .electing ∨ other.role = .other := by
    rcases List.mem_append.mp member with old | new
    · exact .inl old
    · rw [List.mem_singleton.mp new]
      exact .inr role
  refine ⟨?_, led.elected, ?_, led.completed, ?_, ?_, led.unrecorded⟩
  · have leaders := led.leaders
    have silent : (ShutdownTask.enter call : ShutdownTask notifies ω).role.leads = false := by
      rcases role with electing | other
      · rw [electing]
        rfl
      · rw [other]
        rfl
    dsimp only at leaders ⊢
    rw [List.countP_append, leaders, List.countP_singleton, silent]
    rfl
  · intro other member follows
    rcases origin member with old | electing | free
    · exact led.following other old follows
    · rw [electing] at follows
      cases follows
    · rw [free] at follows
      cases follows
  · intro other member left read reading
    rcases origin member with old | electing | free
    · exact led.mutex other old left read reading
    · rw [electing] at reading
      cases reading
    · rw [free] at reading
      cases reading
  · intro other member phase leading
    rcases origin member with old | electing | free
    · exact led.recorded other old phase leading
    · rw [electing] at leading
      cases leading
    · rw [free] at leading
      cases leading

/-- At first nothing has happened. -/
theorem led_new : Led [] (ShutdownPool.new notifies ω) := by
  refine ⟨rfl, rfl, ?_, fun done => (by cases done), ?_, ?_, fun _ => ⟨rfl, rfl, rfl⟩⟩
  · exact fun task member => absurd member List.not_mem_nil
  · exact fun task member => absurd member List.not_mem_nil
  · exact fun task member => absurd member List.not_mem_nil

end Leader

section Cells

/-- The cells of streams, and those that are about to be added. -/
def cellsOf (state : ShutdownState ω) (tasks : List (ShutdownTask notifies ω)) : List Nat :=
  state.streams.map ShutdownControlStream.activity ++ tasks.filterMap ShutdownTask.cell

/-- Streams have distinct cells. -/
structure Celled (pool : ShutdownPool notifies ω) : Prop where
  /-- They are distinct. -/
  distinct : (cellsOf pool.shared.state pool.tasks).Nodup
  /-- They exist. -/
  bounded : ∀ cell ∈ cellsOf pool.shared.state pool.tasks, cell < pool.shared.activities.length

variable {coordinator after : ShutdownCoordinator notifies ω}
  {front back : List (ShutdownTask notifies ω)} {task moved : ShutdownTask notifies ω}

/-- The cells that one of the tasks is about to add. -/
theorem filterMap_cell (front back : List (ShutdownTask notifies ω))
    (task : ShutdownTask notifies ω) :
    (front ++ task :: back).filterMap ShutdownTask.cell =
      front.filterMap ShutdownTask.cell ++
        (task.cell.toList ++ back.filterMap ShutdownTask.cell) := by
  rw [List.filterMap_append, List.filterMap_cons]
  cases task.cell <;> rfl

/-- Cells are distinct after a step of a task. -/
theorem Celled.step (celled : Celled ⟨coordinator, front ++ task :: back⟩)
    (moves : task.CellMoves coordinator after moved) : Celled ⟨after, front ++ moved :: back⟩ := by
  obtain ⟨distinct, bounded⟩ := celled
  unfold cellsOf at distinct bounded
  dsimp only at distinct bounded
  rw [filterMap_cell] at distinct bounded
  cases moves with
  | keep streams length cell =>
    have part := (streams.map ShutdownControlStream.activity).append_right
      (front.filterMap ShutdownTask.cell ++
        (task.cell.toList ++ back.filterMap ShutdownTask.cell))
    constructor
    · unfold cellsOf
      dsimp only
      rw [filterMap_cell, cell]
      exact distinct.sublist part
    · unfold cellsOf
      dsimp only
      rw [filterMap_cell, cell, length]
      exact fun other member => bounded other (part.subset member)
  | create streams length none cell =>
    rw [none, Option.toList_none, List.nil_append] at distinct bounded
    have moved_cells : (cellsOf after.state (front ++ moved :: back)).Perm
        (coordinator.activities.length ::
          (coordinator.state.streams.map ShutdownControlStream.activity ++
            (front.filterMap ShutdownTask.cell ++ back.filterMap ShutdownTask.cell))) := by
      unfold cellsOf
      rw [filterMap_cell, cell, streams, Option.toList_some, List.singleton_append,
        ← List.append_assoc, ← List.append_assoc]
      exact List.perm_middle
    constructor
    · refine moved_cells.nodup_iff.mpr (List.nodup_cons.mpr ⟨fun member => ?_, distinct⟩)
      exact absurd (bounded _ member) (Nat.lt_irrefl _)
    · intro other member
      dsimp only
      rw [length]
      rcases List.mem_cons.mp (moved_cells.mem_iff.mp member) with new | old
      · omega
      · exact Nat.lt_succ_of_lt (bounded other old)
  | @add stream streams length cell none =>
    rw [cell, Option.toList_some, List.singleton_append] at distinct bounded
    have part : (cellsOf after.state (front ++ moved :: back)).Subperm
        (coordinator.state.streams.map ShutdownControlStream.activity ++
          (front.filterMap ShutdownTask.cell ++
            stream.activity :: back.filterMap ShutdownTask.cell)) := by
      have fewer := (streams.map ShutdownControlStream.activity).append_right
        (front.filterMap ShutdownTask.cell ++ back.filterMap ShutdownTask.cell)
      unfold cellsOf
      rw [filterMap_cell, none, Option.toList_none, List.nil_append]
      refine fewer.subperm.trans (List.Perm.subperm ?_)
      rw [List.map_append, List.map_singleton, List.append_assoc, List.singleton_append]
      exact List.perm_middle.symm.append_left _
    constructor
    · obtain ⟨cells, same, fewer⟩ := part
      exact same.nodup_iff.mp (distinct.sublist fewer)
    · intro other member
      dsimp only
      rw [length]
      exact bounded other (part.subset member)

/-- A task that begins adds no cell. -/
theorem Celled.begin (celled : Celled ⟨coordinator, front⟩) (call : ShutdownBegin ω) :
    Celled ⟨coordinator, front ++ [ShutdownTask.enter call]⟩ := by
  have none : (ShutdownTask.enter call : ShutdownTask notifies ω).cell = Option.none := by
    cases call <;> rfl
  have same : cellsOf coordinator.state (front ++ [ShutdownTask.enter call]) =
      cellsOf coordinator.state front := by
    unfold cellsOf
    rw [filterMap_cell, none, Option.toList_none, List.nil_append, List.filterMap_nil,
      List.append_nil]
  exact ⟨same ▸ celled.distinct, same ▸ celled.bounded⟩

end Cells

section Waiting

variable {plain : notifies.State → Prop} {calls : notifies.State → Nat}
  {since : notifies.Notified → Nat}

/-- Tasks wait as they should. -/
structure Attentive (plain : notifies.State → Prop) (calls : notifies.State → Nat)
    (since : notifies.Notified → Nat) (events : List (ShutdownEvent ω))
    (pool : ShutdownPool notifies ω) : Prop where
  /-- `notify_one` is not called. -/
  quiet : plain pool.shared.changed
  /-- Whoever completes wakes the others once. -/
  notified : events.countP ShutdownEvent.isNotified + pool.tasks.countP ShutdownTask.signals =
    pool.shared.state.completed.toNat
  /-- Futures are not of a later time. -/
  early : ∀ task ∈ pool.tasks, ∀ future, task.awaited = some future →
    since future ≤ calls pool.shared.changed
  /-- A parked task is woken, or someone is about to wake it. -/
  woken : pool.shared.state.completed = true → ∀ task ∈ pool.tasks, ∀ future,
    task.parked = some future → since future < calls pool.shared.changed ∨
      0 < pool.tasks.countP ShutdownTask.signals

variable {events : List (ShutdownEvent ω)} {coordinator after : ShutdownCoordinator notifies ω}
  {front back : List (ShutdownTask notifies ω)} {task moved : ShutdownTask notifies ω}
  {event : Option (ShutdownEvent ω)}

/-- A parked task awaits. -/
theorem awaited_of_parked {future : notifies.Notified} (parks : task.parked = some future) :
    task.awaited = some future := by
  obtain ⟨place, here, parked⟩ := Option.bind_eq_some_iff.mp parks
  refine Option.bind_eq_some_iff.mpr ⟨place, here, ?_⟩
  cases place with
  | awaiting other => exact parked
  | creating | checking | expired | returned => cases parked

/-- Tasks wait as they should after a step of one of them. -/
theorem Attentive.step
    (attentive : Attentive plain calls since events ⟨coordinator, front ++ task :: back⟩)
    (completed : coordinator.state.completed = true → coordinator.state.active = true)
    (effect : task.Effect plain calls since coordinator after moved event) :
    Attentive plain calls since (events ++ event.toList) ⟨after, front ++ moved :: back⟩ := by
  have notified := attentive.notified
  have balanced := effect.balanced completed
  have counted := effect.counted
  have here : task ∈ front ++ task :: back := by simp
  dsimp only at notified
  rw [Tasks.countP_task] at notified
  have total : (events ++ event.toList).countP ShutdownEvent.isNotified +
      (front ++ moved :: back).countP ShutdownTask.signals = after.state.completed.toNat := by
    rw [Tasks.countP_task, List.countP_append]
    omega
  have early : ∀ other ∈ front ++ moved :: back, ∀ future, other.awaited = some future →
      since future ≤ calls coordinator.changed := by
    intro other member future awaits
    rcases Tasks.eq_or_mem_others member with same | old
    · exact effect.early (attentive.early task here) future (same ▸ awaits)
    · exact attentive.early other (Tasks.mem_of_others old) future awaits
  refine ⟨effect.quiet, total, fun other member future awaits => ?_, ?_⟩
  · have bound := early other member future awaits
    dsimp only
    omega
  · intro done other member future parks
    dsimp only at done ⊢
    have bound := early other member future (awaited_of_parked parks)
    rw [done, Bool.toNat_true, List.countP_append] at total
    rw [Tasks.countP_task] at total ⊢
    cases before : coordinator.state.completed with
    | false =>
      rw [before, Bool.toNat_false] at notified
      omega
    | true =>
      have woken := attentive.woken before
      dsimp only at woken
      rw [Tasks.countP_task] at woken
      rw [before, Bool.toNat_true] at notified
      have old : since future < calls coordinator.changed ∨
          0 < (front ++ back).countP ShutdownTask.signals + task.signals.toNat := by
        rcases Tasks.eq_or_mem_others member with same | others
        · obtain ⟨earlier, parked, equal⟩ := effect.parked future (same ▸ parks) before
          rw [equal]
          exact woken task here earlier parked
        · exact woken other (Tasks.mem_of_others others) future parks
      omega

/-- A task that begins does not wait. -/
theorem Attentive.begin (attentive : Attentive plain calls since events ⟨coordinator, front⟩)
    (call : ShutdownBegin ω) :
    Attentive plain calls since events ⟨coordinator, front ++ [ShutdownTask.enter call]⟩ := by
  have silent : (ShutdownTask.enter call : ShutdownTask notifies ω).signals = false := by
    cases call <;> rfl
  have none : (ShutdownTask.enter call : ShutdownTask notifies ω).awaited = Option.none := by
    cases call <;> rfl
  have count : (front ++ [ShutdownTask.enter call]).countP ShutdownTask.signals =
      front.countP ShutdownTask.signals := by
    rw [Tasks.countP_task, List.append_nil, silent]
    rfl
  have origin {other : ShutdownTask notifies ω} {future : notifies.Notified}
      (member : other ∈ front ++ [ShutdownTask.enter call])
      (awaits : other.awaited = some future) : other ∈ front := by
    rcases List.mem_append.mp member with old | new
    · exact old
    · rw [List.mem_singleton.mp new, none] at awaits
      cases awaits
  refine ⟨attentive.quiet, ?_, ?_, ?_⟩
  · dsimp only
    rw [count]
    exact attentive.notified
  · exact fun other member future awaits =>
      attentive.early other (origin member awaits) future awaits
  · intro done other member future parks
    dsimp only
    rw [count]
    exact attentive.woken done other (origin member (awaited_of_parked parks)) future parks

end Waiting

section Order

/-- Of two streams, one is more recent. -/
instance moreRecent_total : Std.Total (@moreRecent ω) where
  total left right := by
    unfold moreRecent
    grind

/-- What is more recent than a stream is more recent than older ones. -/
instance moreRecent_trans : IsTrans (UInt64 × ShutdownControlStream ω) moreRecent where
  trans first second third := by
    unfold moreRecent
    grind

end Order

section Run

variable {plain : notifies.State → Prop} {calls : notifies.State → Nat}
  {since : notifies.Notified → Nat}

/-- All that is known of the coordinator after some events. -/
structure Sound (plain : notifies.State → Prop) (calls : notifies.State → Nat)
    (since : notifies.Notified → Nat) (events : List (ShutdownEvent ω))
    (pool : ShutdownPool notifies ω) : Prop where
  /-- There is one leader. -/
  led : Led events pool
  /-- Streams have distinct cells. -/
  celled : Celled pool
  /-- They had at every snapshot. -/
  distinct : ∀ streams ∈ collectionsOf events,
    (streams.map ShutdownControlStream.activity).Nodup
  /-- Tasks wait as they should. -/
  attentive : Attentive plain calls since events pool

variable {events : List (ShutdownEvent ω)} {pool : ShutdownPool notifies ω}

/-- The streams of the state have distinct cells. -/
theorem Celled.streams (celled : Celled pool) :
    (pool.shared.state.streams.map ShutdownControlStream.activity).Nodup :=
  celled.distinct.sublist (List.sublist_append_left _ _)

/-- A snapshot is one of the streams there are. -/
theorem ShutdownTask.Moves.collection {coordinator after : ShutdownCoordinator notifies ω}
    {task moved : ShutdownTask notifies ω} {event : ShutdownEvent ω}
    {streams : List (ShutdownControlStream ω)}
    (moves : task.Moves coordinator after moved (some event))
    (collected : event.collection = some streams) : streams = coordinator.state.streams := by
  cases moves with
  | quiet _ _ _ silent =>
    rcases silent with none | notified
    · cases none
    · cases notified
      cases collected
  | collect _ _ _ => exact (Option.some.inj collected).symm
  | elect _ _ _ _ => cases collected
  | read _ _ => cases collected
  | request _ _ => cases collected

/-- One action of a task. -/
theorem Sound.step (broadcasts : notifies.Broadcasts plain calls since)
    {after : ShutdownPool notifies ω} {event : Option (ShutdownEvent ω)}
    (sound : Sound plain calls since events pool)
    (moves : pool.Moves ShutdownTask.enter ShutdownTask.next after event) :
    Sound plain calls since (events ++ event.toList) after := by
  obtain ⟨coordinator, tasks⟩ := pool
  cases moves with
  | stay =>
    rw [Option.toList_none, List.append_nil]
    exact sound
  | begin call =>
    rw [Option.toList_none, List.append_nil]
    exact ⟨sound.led.begin call, sound.celled.begin call, sound.distinct,
      sound.attentive.begin call⟩
  | step front task back input here =>
    have same : tasks = front ++ task :: back := here
    subst same
    have stepped := task.next_moves coordinator input
    refine ⟨sound.led.step stepped, sound.celled.step (task.next_cells coordinator input), ?_,
      sound.attentive.step sound.led.completed
        (task.next_effect broadcasts coordinator input sound.attentive.quiet)⟩
    dsimp only
    generalize (task.next coordinator input).2.2 = event at stepped ⊢
    cases event with
    | none =>
      rw [Option.toList_none, List.append_nil]
      exact sound.distinct
    | some event =>
      intro streams member
      rw [Option.toList_some, collectionsOf_concat] at member
      rcases List.mem_append.mp member with old | new
      · exact sound.distinct streams old
      · rw [stepped.collection (Option.mem_toList.mp new)]
        exact sound.celled.streams

/-- At first all is well. -/
theorem sound_new (broadcasts : notifies.Broadcasts plain calls since) :
    Sound plain calls since [] (ShutdownPool.new notifies ω) where
  led := led_new
  celled := ⟨List.nodup_nil, fun _ member => absurd member List.not_mem_nil⟩
  distinct := fun _ member => absurd member List.not_mem_nil
  attentive := ⟨broadcasts.new, rfl, fun _ member => absurd member List.not_mem_nil,
    fun _ _ member => absurd member List.not_mem_nil⟩

/-- Requests are sent over the first two streams that were read, and all streams were read. -/
theorem Led.requests (led : Led events pool) :
    (requestsOf events).Sublist
        ((orderStreams (readsOf events)).take disconnectControlAttempts) ∧
      (requestsOf events ≠ [] → collectionsOf events = [(readsOf events).map Prod.snd]) := by
  cases active : pool.shared.state.active with
  | false =>
    obtain ⟨_, _, requests⟩ := led.unrecorded active
    rw [requests]
    exact ⟨List.nil_sublist _, fun some => absurd rfl some⟩
  | true =>
    have leaders := led.leaders
    rw [active, Bool.toNat_true] at leaders
    obtain ⟨task, member, leads⟩ := List.countP_pos_iff.mp (leaders ▸ Nat.one_pos :
      0 < pool.tasks.countP fun task => task.role.leads)
    cases role : task.role with
    | other | electing | following =>
      rw [role] at leads
      cases leads
    | leading phase =>
      have records := led.recorded task member phase role
      cases phase with
      | collecting =>
        rw [records.2.2]
        exact ⟨List.nil_sublist _, fun some => absurd rfl some⟩
      | reading left read =>
        rw [records.2.2.2]
        exact ⟨List.nil_sublist _, fun some => absurd rfl some⟩
      | sending left =>
        exact ⟨(List.sublist_append_left _ _).trans records.2, fun _ => records.1⟩
      | finished => exact ⟨records.2, fun _ => records.1⟩

/-- What is known is what the coordinator is for. -/
theorem Sound.coordinated (broadcasts : notifies.Broadcasts plain calls since)
    (sound : Sound plain calls since events pool) : Coordinated events pool := by
  have led := sound.led
  have elected := led.elected
  have leaders := led.leaders
  obtain ⟨requests, snapshot⟩ := led.requests
  have ordered : ((readsOf events).insertionSort moreRecent).Perm (readsOf events) :=
    List.perm_insertionSort _ _
  refine ⟨leaders.trans elected.symm, ?_, ?_, ?_, ⟨_, ordered, ?_, ?_⟩, snapshot, ?_,
    sound.attentive.notified, ?_⟩
  · rw [elected]
    exact Bool.toNat_le _
  · intro task member decided
    have active : pool.shared.state.active = true := by
      cases role : task.role with
      | other | electing =>
        rw [role] at decided
        cases decided
      | following => exact led.following task member role
      | leading phase =>
        have some : 0 < pool.tasks.countP (fun task => task.role.leads) :=
          List.countP_pos_iff.mpr ⟨task, member, by rw [role]; rfl⟩
        rw [leaders] at some
        cases active : pool.shared.state.active with
        | true => rfl
        | false =>
          rw [active] at some
          exact absurd some (Nat.lt_irrefl 0)
    rw [elected, active]
    rfl
  · exact requests.length_le.trans (List.length_take_le _ _)
  · exact List.pairwise_insertionSort moreRecent _
  · rw [List.map_take]
    exact requests
  · by_cases none : requestsOf events = []
    · rw [none]
      exact List.nodup_nil
    · have streams := sound.distinct ((readsOf events).map Prod.snd) (by simp [snapshot none])
      have same : (orderStreams (readsOf events)).Perm ((readsOf events).map Prod.snd) :=
        ordered.map _
      have all := (same.map ShutdownControlStream.activity).nodup_iff.mpr streams
      exact all.sublist ((requests.trans (List.take_sublist _ _)).map _)
  · intro completed task member future parks
    rw [broadcasts.woken _ _ sound.attentive.quiet, decide_eq_true_eq]
    rcases sound.attentive.woken completed task member future parks with woken | some
    · exact .inl woken
    · exact .inr (List.countP_pos_iff.mp some)

/-- A step undoes nothing. -/
theorem Led.later (led : Led events pool) {after : ShutdownPool notifies ω}
    {event : Option (ShutdownEvent ω)}
    (moves : pool.Moves ShutdownTask.enter ShutdownTask.next after event) :
    Later pool.shared.state after.shared.state := by
  have same (state : ShutdownState ω) : Later state state :=
    ⟨id, id, fun _ => List.Sublist.refl _⟩
  cases moves with
  | stay => exact same _
  | begin call => exact same _
  | step front task back input here =>
    have stepped := task.next_moves pool.shared input
    dsimp only
    generalize (task.next pool.shared input).1 = after at stepped ⊢
    generalize (task.next pool.shared input).2.1 = moved at stepped
    generalize (task.next pool.shared input).2.2 = event at stepped
    cases stepped with
    | quiet state => exact state ▸ same _
    | elect _ inactive _ _ =>
      have active (completed : pool.shared.state.completed = true) : False := by
        have active := led.completed completed
        rw [inactive] at active
        cases active
      exact ⟨fun _ => rfl, fun completed => (active completed).elim,
        fun _ => List.Sublist.refl _⟩
    | follow | collect | read | release | request | skip | finish => exact same _
    | complete => exact ⟨id, fun _ => rfl, fun _ => List.Sublist.refl _⟩
    | add _ inactive _ =>
      refine ⟨id, id, fun active => ?_⟩
      rw [inactive] at active
      cases active
    | remove => exact ⟨id, id, fun _ => List.filter_sublist⟩

/-- Events say what is in the state. -/
theorem Sound.faithful (sound : Sound plain calls since events pool)
    {after : ShutdownPool notifies ω} {event : Option (ShutdownEvent ω)}
    (moves : pool.Moves ShutdownTask.enter ShutdownTask.next after event) :
    ∀ said ∈ event, said.Faithful pool.shared := by
  obtain ⟨coordinator, tasks⟩ := pool
  intro said happened
  cases moves with
  | stay | begin => cases happened
  | step front task back input here =>
    have same : tasks = front ++ task :: back := here
    subst same
    have stepped := task.next_moves coordinator input
    rw [Option.mem_def.mp happened] at stepped
    generalize (task.next coordinator input).1 = after at stepped
    generalize (task.next coordinator input).2.1 = moved at stepped
    cases stepped with
    | quiet _ _ _ silent =>
      rcases silent with none | notified
      · cases none
      · cases notified
        trivial
    | elect | request => trivial
    | collect => rfl
    | @read stream left earlier _ role _ =>
      obtain ⟨_, _, split, _⟩ := sound.led.recorded task (by simp) _ role
      have listed : stream ∈ coordinator.state.streams := by
        have split : earlier.map Prod.snd ++ stream :: left = coordinator.state.streams := split
        rw [← split]
        simp
      have bound : stream.activity < coordinator.activities.length :=
        sound.celled.bounded _ (List.mem_append_left _ (List.mem_map_of_mem listed))
      refine ⟨listed, ?_⟩
      rw [List.getElem?_eq_getElem bound, Option.getD_some]

/-- All is well after every run. -/
theorem sound_run (broadcasts : notifies.Broadcasts plain calls since)
    (actions : List (Tasks.Action (ShutdownBegin ω) Bool)) :
    Sound plain calls since
      ((Mealy.outputs ShutdownPool.step (.new notifies ω) actions).flatMap Option.toList)
      (Mealy.final ShutdownPool.step (.new notifies ω) actions) :=
  Tasks.invariant (Sound plain calls since) (fun _ _ _ _ sound moves => sound.step broadcasts moves)
    _ actions (sound_new broadcasts)

/-- Whatever the order in which tasks use a new coordinator, it does what it is for; events say what
is in the state when they happen; and nothing is undone from one moment of the run to a later
one. -/
theorem shutdown_coordinated (broadcasts : notifies.Broadcasts plain calls since)
    (actions : List (Tasks.Action (ShutdownBegin ω) Bool)) :
    Coordinated
        ((Mealy.outputs ShutdownPool.step (.new notifies ω) actions).flatMap Option.toList)
        (Mealy.final ShutdownPool.step (.new notifies ω) actions) ∧
      Mealy.Along ShutdownPool.step
        (fun pool action => ∀ event ∈ (ShutdownPool.step pool action).2,
          event.Faithful pool.shared) (.new notifies ω) actions ∧
      ∀ earlier later, actions = earlier ++ later →
        Later (Mealy.final ShutdownPool.step (.new notifies ω) earlier).shared.state
          (Mealy.final ShutdownPool.step (.new notifies ω) actions).shared.state := by
  have keeps (pool : ShutdownPool notifies ω) (action : Tasks.Action (ShutdownBegin ω) Bool)
      (sound : ∃ events, Sound plain calls since events pool) :
      ∃ events, Sound plain calls since events (ShutdownPool.step pool action).1 := by
    obtain ⟨events, sound⟩ := sound
    exact ⟨_, sound.step broadcasts (Tasks.step_moves pool action)⟩
  have always (actions : List (Tasks.Action (ShutdownBegin ω) Bool)) :
      Mealy.Along ShutdownPool.step (fun _ _ => True) (.new notifies ω) actions :=
    Mealy.along_of_forall (fun _ _ => trivial) _ _
  refine ⟨(sound_run broadcasts actions).coordinated broadcasts, ?_, ?_⟩
  · refine Mealy.along_of_invariant (fun pool => ∃ events, Sound plain calls since events pool)
      (fun pool action sound _ => keeps pool action sound) ?_ _ actions
      ⟨_, sound_new broadcasts⟩ (always actions)
    intro pool action sound _
    obtain ⟨events, sound⟩ := sound
    exact sound.faithful (Tasks.step_moves pool action)
  · rintro earlier later rfl
    have undone : Mealy.Along ShutdownPool.step
        (fun pool action => Later pool.shared.state (ShutdownPool.step pool action).1.shared.state)
        (.new notifies ω) (earlier ++ later) := by
      refine Mealy.along_of_invariant (fun pool => ∃ events, Sound plain calls since events pool)
        (fun pool action sound _ => keeps pool action sound) ?_ _ _
        ⟨_, sound_new broadcasts⟩ (always _)
      intro pool action sound _
      obtain ⟨events, sound⟩ := sound
      exact sound.led.later (Tasks.step_moves pool action)
    rw [Mealy.final_append]
    refine @Mealy.final_related _ _ _ (@ShutdownPool.step notifies ω)
      (fun before after => Later before.shared.state after.shared.state)
      (fun _ => ⟨id, id, fun _ => List.Sublist.refl _⟩) ?_ _ later
      ((Mealy.along_append _ _ _).mp undone).2
    intro first second third early late
    exact ⟨fun active => late.active (early.active active),
      fun completed => late.completed (early.completed completed),
      fun active => (late.streams (early.active active)).trans (early.streams active)⟩

/-- Two streams are registered, the first one is used again, and two sessions want to disconnect.
The first session leads, and is answered over the first stream. -/
def answeredRun : List (Tasks.Action (ShutdownBegin Nat) Bool) :=
  [.begin (.register 1 10), .begin (.register 2 20), .begin (.markActivity 0),
    .begin (.requestDisconnect "device" "salt"), .begin (.requestDisconnect "device" "salt"),
    .begin (.observeControlResponse (ascii "OK:disconnected"))] ++
  [0, 0, 1, 1, 2, 2, 3, 4, 3, 3, 3, 3, 3, 3, 3, 4, 4, 4, 5, 5, 5, 4, 4, 4, 3, 3, 3, 3].map
    fun task => .step task (task != 4)

/-- One request is sent, over the first stream. -/
theorem answeredRun_coordinated :
    Coordinated
        ((Mealy.outputs ShutdownPool.step (.new Notify.counted Nat) answeredRun).flatMap
          Option.toList)
        (Mealy.final ShutdownPool.step (.new Notify.counted Nat) answeredRun) ∧
      requestsOf ((Mealy.outputs ShutdownPool.step (.new Notify.counted Nat) answeredRun).flatMap
        Option.toList) = [⟨1, 10, 0⟩] :=
  ⟨(shutdown_coordinated Notify.counted_broadcasts answeredRun).1, by decide +kernel⟩

end Run

end Focsq.Session
