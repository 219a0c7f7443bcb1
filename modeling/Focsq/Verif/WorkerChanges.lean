import Focsq.Verif.FastPathScheduler

/-!
# Stripes over a changing list of workers

A class that begins a chunk loads the list of workers for all classes. As long as it finds the
same number of workers, and for every class that is in the middle of a chunk the same worker in
its slot, all packets of a chunk are assigned to one worker. Otherwise the chunk of another class
is torn.
-/

namespace Focsq.Dispatcher

open StripedScheduler

variable {σ : Type}

/-- Which worker it is. -/
def WorkerChannels.identity (worker : WorkerChannels σ) : Nat × UInt64 :=
  (worker.id, worker.incarnationId)

/-- The workers that the packets of a class are assigned to, in turn. -/
def assigned (kind : PacketClass) (answers : List (Option (PacketClass × WorkerChannels σ))) :
    List (Nat × UInt64) :=
  answers.filterMap fun answer =>
    answer.bind fun (packetClass, worker) =>
      if packetClass = kind then some worker.identity else none

/-- A packet that begins a chunk finds as many workers as are held, and for every other class that
is in the middle of a chunk the same worker. -/
def FastPath.Undisturbed (path : FastPath σ) : FastPathAction σ → Prop
  | .packet packet =>
    (path.scheduler.cursor (packetClass packet)).remaining = 0 →
      ∀ other ≠ packetClass packet, (path.scheduler.cursor other).remaining ≠ 0 →
        path.workers.length = path.scheduler.workerCount ∧
          path.workers[(path.scheduler.cursor other).currentWorker]?.map
              WorkerChannels.identity =
            path.scheduler.workers[(path.scheduler.cursor other).currentWorker]?.map
              WorkerChannels.identity
  | _ => True

/-- There are three classes to check. -/
instance decidableForallClass (condition : PacketClass → Prop) [DecidablePred condition] :
    Decidable (∀ kind, condition kind) :=
  decidable_of_iff (condition .small ∧ condition .medium ∧ condition .bulk)
    ⟨fun ⟨small, medium, bulk⟩ kind => by cases kind <;> assumption,
      fun all => ⟨all _, all _, all _⟩⟩

/-- Whether a packet disturbs a class is decided from the lists and the cursors. -/
instance decidableUndisturbed (path : FastPath σ) (action : FastPathAction σ) :
    Decidable (path.Undisturbed action) := by
  cases action with
  | register channels => exact .isTrue trivial
  | unregister id incarnationId => exact .isTrue trivial
  | packet packet =>
    unfold FastPath.Undisturbed
    infer_instance

/-- The cursor of each class fits what was assigned to it. -/
structure Striped (past : PacketClass → List (Nat × UInt64))
    (scheduler : FastPathScheduler (WorkerChannels σ)) : Prop where
  /-- The workers are counted. -/
  counted : scheduler.workerCount = scheduler.workers.length
  /-- Cursors are at workers. -/
  inside : ∀ kind : PacketClass, scheduler.workers ≠ [] →
    (scheduler.cursor kind).currentWorker < scheduler.workers.length
  /-- What is left of a chunk is missing. -/
  left : ∀ kind : PacketClass, (scheduler.cursor kind).remaining =
    Stripes.left kind.streamChunk (past kind).length
  /-- A class in the middle of a chunk goes on with the worker it had. -/
  going : ∀ kind : PacketClass, (scheduler.cursor kind).remaining ≠ 0 →
    scheduler.workers[(scheduler.cursor kind).currentWorker]?.map WorkerChannels.identity =
      (past kind).getLast?
  /-- Chunks are whole. -/
  uniform : ∀ kind : PacketClass, Stripes.Uniform kind.streamChunk (past kind)

/-- Another number of workers sets all cursors back, which is right between chunks. -/
theorem Striped.reset {past : PacketClass → List (Nat × UInt64)}
    {scheduler : FastPathScheduler (WorkerChannels σ)} (striped : Striped past scheduler)
    (workers : List (WorkerChannels σ)) (other : scheduler.workerCount ≠ workers.length)
    (between : ∀ kind : PacketClass, (scheduler.cursor kind).remaining = 0) :
    Striped past ({ scheduler with workers }.syncWorkerCount workers.length) := by
  have cursor (kind : PacketClass) :
      ({ scheduler with workers }.syncWorkerCount workers.length).cursor kind = ⟨0, 0⟩ := by
    rw [syncWorkerCount_cursor, if_neg other]
  have held := syncWorkerCount_workers { scheduler with workers } workers.length
  exact
    { counted := by rw [syncWorkerCount_workerCount, held]
      inside := fun kind some => by
        rw [held] at some ⊢
        rw [cursor]
        exact List.length_pos_iff.mpr some
      left := fun kind => by rw [cursor, ← striped.left, between]
      going := fun kind within => by
        rw [cursor] at within
        exact absurd rfl within
      uniform := striped.uniform }

/-- The same number of workers keeps all cursors, which is right if they are the same workers for
all classes in the middle of a chunk. -/
theorem Striped.replaced {past : PacketClass → List (Nat × UInt64)}
    {scheduler : FastPathScheduler (WorkerChannels σ)} (striped : Striped past scheduler)
    (workers : List (WorkerChannels σ)) (same : scheduler.workerCount = workers.length)
    (kept : ∀ kind : PacketClass, (scheduler.cursor kind).remaining ≠ 0 →
      workers[(scheduler.cursor kind).currentWorker]?.map WorkerChannels.identity =
        scheduler.workers[(scheduler.cursor kind).currentWorker]?.map
          WorkerChannels.identity) :
    Striped past ({ scheduler with workers }.syncWorkerCount workers.length) := by
  have unchanged : { scheduler with workers }.syncWorkerCount workers.length =
      { scheduler with workers } := syncWorkerCount_same same
  rw [unchanged]
  have size : workers.length = scheduler.workers.length := same.symm.trans striped.counted
  exact
    { counted := same
      inside := fun kind some => by
        have before : scheduler.workers ≠ [] := by
          rw [← List.length_pos_iff, ← size]
          exact List.length_pos_iff.mpr some
        exact Nat.lt_of_lt_of_eq (striped.inside kind before) size.symm
      left := striped.left
      going := fun kind within => (kept kind within).trans (striped.going kind within)
      uniform := striped.uniform }

/-- Loading the workers keeps chunks whole, if it disturbs no other class. -/
theorem Striped.load {past : PacketClass → List (Nat × UInt64)} {path : FastPath σ}
    (striped : Striped past path.scheduler) {packet : List UInt8}
    (undisturbed : path.Undisturbed (.packet packet)) :
    Striped past (path.scheduler.load path.workers (packetClass packet)) := by
  unfold FastPathScheduler.load
  by_cases between : (path.scheduler.cursor (packetClass packet)).remaining = 0
  · rw [if_pos between]
    have others := undisturbed between
    by_cases same : path.scheduler.workerCount = path.workers.length
    · refine striped.replaced path.workers same fun kind within => ?_
      exact (others kind (fun equal => within (equal ▸ between)) within).2
    · refine striped.reset path.workers same fun kind => ?_
      by_contra within
      exact same (others kind (fun equal => within (equal ▸ between)) within).1.symm
  · rw [if_neg between]
    exact striped

/-- The next packet of a class goes on with its chunk or begins one, and the other classes keep
theirs. -/
theorem Striped.advance {past : PacketClass → List (Nat × UInt64)}
    {scheduler : FastPathScheduler (WorkerChannels σ)} (striped : Striped past scheduler)
    (kind : PacketClass) {worker : WorkerChannels σ}
    (current : scheduler.workers[(scheduler.cursor kind).currentWorker]? = some worker) :
    Striped (fun other => if other = kind then past other ++ [worker.identity] else past other)
      (scheduler.setCursor kind
        ((scheduler.cursor kind).advance kind.streamChunk scheduler.workerCount)) := by
  have positive := streamChunk_pos kind
  have missing := striped.left kind
  have going := striped.going kind
  rw [current, Option.map_some] at going
  refine
    { counted := striped.counted
      inside := fun other some => ?_
      left := fun other => ?_
      going := fun other within => ?_
      uniform := fun other => ?_ }
  · by_cases same : other = kind
    · rw [same, cursor_setCursor]
      have inside := striped.inside kind some
      rw [← striped.counted] at inside
      exact Nat.lt_of_lt_of_eq (advance_inside _ inside) striped.counted
    · rw [cursor_setCursor_other _ _ same]
      exact striped.inside other some
  · by_cases same : other = kind
    · rw [same, cursor_setCursor, advance_remaining, if_pos rfl, List.length_append,
        List.length_singleton, Stripes.left_succ _ _ positive, missing]
    · rw [cursor_setCursor_other _ _ same, if_neg same]
      exact striped.left other
  · by_cases same : other = kind
    · rw [same] at within ⊢
      rw [cursor_setCursor] at within ⊢
      rw [advance_within within, workers_setCursor, current, if_pos rfl, List.getLast?_concat]
      rfl
    · rw [cursor_setCursor_other _ _ same] at within ⊢
      rw [if_neg same]
      exact striped.going other within
  · by_cases same : other = kind
    · rw [same, if_pos rfl]
      refine (striped.uniform kind).concat positive fun within => ?_
      refine (going ?_).symm
      rw [missing]
      exact mt (Stripes.left_eq_zero _ _ positive).mp within
    · rw [if_neg same]
      exact striped.uniform other

/-- A packet keeps chunks whole, if it disturbs no other class. -/
theorem Striped.packet {past : PacketClass → List (Nat × UInt64)} {path : FastPath σ}
    (striped : Striped past path.scheduler) {packet : List UInt8}
    (undisturbed : path.Undisturbed (.packet packet)) :
    Striped (fun kind => past kind ++ assigned kind [(path.step (.packet packet)).2])
      (path.step (.packet packet)).1.scheduler := by
  have loaded := striped.load undisturbed
  by_cases none : (path.scheduler.load path.workers (packetClass packet)).workerCount = 0
  · simp only [FastPath.step, begin_none none, Option.bind_none]
    simpa [assigned] using loaded
  · have some : (path.scheduler.load path.workers (packetClass packet)).workers ≠ [] := by
      rw [← List.length_pos_iff, ← loaded.counted]
      omega
    have inside := loaded.inside (packetClass packet) some
    have advanced := loaded.advance (packetClass packet) (List.getElem?_eq_getElem inside)
    simp only [FastPath.step, begin_some none, Option.bind_some, workers_setCursor,
      List.getElem?_eq_getElem inside, Option.map_some]
    convert advanced using 1
    funext kind
    by_cases same : kind = packetClass packet
    · simp [assigned, same]
    · simp [assigned, same, Ne.symm same]

/-- An action keeps chunks whole, if it disturbs no other class. -/
theorem Striped.step {past : PacketClass → List (Nat × UInt64)} {path : FastPath σ}
    (striped : Striped past path.scheduler) {action : FastPathAction σ}
    (undisturbed : path.Undisturbed action) :
    Striped (fun kind => past kind ++ assigned kind [(path.step action).2])
      (path.step action).1.scheduler := by
  cases action with
  | register channels => simpa [assigned, FastPath.step] using striped
  | unregister id incarnationId => simpa [assigned, FastPath.step] using striped
  | packet packet => exact striped.packet undisturbed

/-- A new scheduler has assigned nothing. -/
theorem striped_new :
    Striped (fun _ => []) (FastPathScheduler.new : FastPathScheduler (WorkerChannels σ)) where
  counted := rfl
  inside := fun kind some => absurd rfl some
  left := fun kind => by
    rw [List.length_nil, cursor_new]
    exact (congrArg RoundRobinCursor.remaining (cursorAfter_zero kind.streamChunk 0)).symm
  going := fun kind within => by
    rw [cursor_new] at within
    exact absurd rfl within
  uniform := fun kind => Stripes.uniform_nil _

/-- What a class is assigned in the end begins with what it is assigned first. -/
theorem assigned_cons (kind : PacketClass) (answer : Option (PacketClass × WorkerChannels σ))
    (answers : List (Option (PacketClass × WorkerChannels σ))) :
    assigned kind (answer :: answers) = assigned kind [answer] ++ assigned kind answers := by
  show assigned kind ([answer] ++ answers) = _
  exact List.filterMap_append

/-- After a run that disturbs no class in the middle of a chunk, chunks are whole. -/
theorem striped_final {path : FastPath σ} {past : PacketClass → List (Nat × UInt64)}
    (striped : Striped past path.scheduler) (actions : List (FastPathAction σ))
    (undisturbed : Mealy.Along FastPath.step FastPath.Undisturbed path actions) :
    Striped (fun kind => past kind ++ assigned kind (Mealy.outputs FastPath.step path actions))
      (Mealy.final FastPath.step path actions).scheduler := by
  induction actions generalizing path past with
  | nil =>
    have nothing : (fun kind => past kind ++ assigned kind
        (Mealy.outputs FastPath.step path [])) = past := by
      funext kind
      exact List.append_nil _
    rw [nothing]
    exact striped
  | cons action rest ih =>
    have first : (fun kind => past kind ++ assigned kind
        (Mealy.outputs FastPath.step path (action :: rest))) = fun kind =>
          past kind ++ assigned kind [(path.step action).2] ++ assigned kind
            (Mealy.outputs FastPath.step (path.step action).1 rest) := by
      funext kind
      rw [Mealy.outputs, assigned_cons, List.append_assoc]
    rw [first]
    exact ih (striped.step undisturbed.1) undisturbed.2

/-- If no packet that begins a chunk finds another number of workers, or another worker for a class
in the middle of a chunk, then all packets of each chunk are assigned to one worker. -/
theorem chunks_whole (workers : List (WorkerChannels σ)) (actions : List (FastPathAction σ))
    (undisturbed : Mealy.Along FastPath.step FastPath.Undisturbed
      ⟨workers, FastPathScheduler.new⟩ actions) (kind : PacketClass) :
    Stripes.Uniform kind.streamChunk
      (assigned kind (Mealy.outputs FastPath.step ⟨workers, FastPathScheduler.new⟩ actions)) :=
  (striped_final striped_new actions undisturbed).uniform kind

section Runs

/-- A worker without queues. -/
def bareWorker (id : Nat) (incarnationId : UInt64) : WorkerChannels Unit :=
  ⟨id, incarnationId, "turn", (), (), ()⟩

/-- Two workers and a chunk of short packets; there is a third worker when a longer packet begins a
chunk, and short packets begin the next one. -/
def orderlyRun : List (FastPathAction Unit) :=
  [.register (bareWorker 0 1), .register (bareWorker 1 1), .packet [], .packet [], .packet [],
    .packet [], .register (bareWorker 2 1), .packet (List.replicate 200 0), .packet [], .packet []]

/-- No chunk is torn. -/
theorem orderlyRun_whole :
    Stripes.Uniform PacketClass.small.streamChunk
      (assigned .small (Mealy.outputs FastPath.step ⟨[], FastPathScheduler.new⟩ orderlyRun)) :=
  chunks_whole [] orderlyRun (by decide +kernel) .small

/-- Two workers, and five short packets; one of the workers is replaced, and a longer packet and
three short ones follow. -/
def replacedRun : List (FastPathAction Unit) :=
  [.register (bareWorker 0 1), .register (bareWorker 1 1), .packet [], .packet [], .packet [],
    .packet [], .packet [], .register (bareWorker 1 2), .packet (List.replicate 200 0),
    .packet [], .packet [], .packet []]

/-- The longer packet makes the short ones go to the new worker in the middle of their chunk. -/
theorem replacedRun_torn :
    assigned .small (Mealy.outputs FastPath.step ⟨[], FastPathScheduler.new⟩ replacedRun) =
        [(0, 1), (0, 1), (0, 1), (0, 1), (1, 1), (1, 2), (1, 2), (1, 2)] ∧
      ¬ Stripes.Uniform PacketClass.small.streamChunk
        (assigned .small
          (Mealy.outputs FastPath.step ⟨[], FastPathScheduler.new⟩ replacedRun)) := by
  have answers : assigned .small (Mealy.outputs FastPath.step ⟨[], FastPathScheduler.new⟩
      replacedRun) = [(0, 1), (0, 1), (0, 1), (0, 1), (1, 1), (1, 2), (1, 2), (1, 2)] := by
    decide +kernel
  refine ⟨answers, fun uniform => ?_⟩
  rw [answers] at uniform
  have same := uniform 4 5 (1, 1) (1, 2) (by decide) (by decide) (by decide)
  revert same
  decide

end Runs

end Focsq.Dispatcher
