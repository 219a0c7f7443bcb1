import Mathlib.Data.Prod.Lex
import Focsq.Backend.FastPathScheduler
import Focsq.Lib.Past
import Focsq.Lib.Rounds

/-!
# The list of workers

After any calls of `register` and `unregister`, the list holds each worker that is live: it was
registered, and since then neither was another one of its number, nor was it unregistered. Numbers
are unique, and so the list is determined by the live workers. In every prefix of it, the TURN
paths that still have workers have equally many, up to one.
-/

namespace Focsq.Dispatcher

variable {σ : Type}

section Order

/-- Workers are in the order of their paths, and on one path in the order of their numbers. -/
theorem before_iff (left right : WorkerChannels σ) : left.before right ↔
    toLex (left.turnPath, left.id) ≤ toLex (right.turnPath, right.id) := by
  rw [Prod.Lex.toLex_le_toLex]
  rfl

/-- Of two workers, one is before the other. -/
instance before_total : Std.Total (@WorkerChannels.before σ) where
  total left right := by
    rw [before_iff, before_iff]
    exact le_total _ _

/-- What is before a worker is before those that it is before. -/
instance before_trans : IsTrans (WorkerChannels σ) WorkerChannels.before where
  trans left middle right first second := by
    rw [before_iff] at first second ⊢
    exact first.trans second

/-- Workers that are before each other have the same number. -/
theorem before_antisymm {left right : WorkerChannels σ} (first : left.before right)
    (second : right.before left) : left.id = right.id := by
  rw [before_iff] at first second
  have same := toLex.injective (first.antisymm second)
  exact (Prod.mk.inj same).2

end Order

section Groups

/-- The loop is a number of rounds over the groups. -/
theorem interleaveLoop_eq (groups : List (List (WorkerChannels σ))) (turns offset : Nat) :
    interleaveLoop groups turns offset = Rounds.rounds groups turns offset := by
  induction turns generalizing offset with
  | zero => rfl
  | succ turns ih =>
    have later := ih (offset + 1)
    by_cases ended : Rounds.round groups offset = []
    · rw [Rounds.rounds_of_round_nil ended]
      simp only [interleaveLoop]
      exact if_pos (List.isEmpty_iff.mpr ended)
    · simp only [interleaveLoop]
      rw [later]
      exact if_neg (mt List.isEmpty_iff.mp ended)

/-- Workers in the order of `before` are grouped by path. -/
structure Grouped (groups : List (List (WorkerChannels σ))) (past : List (WorkerChannels σ)) :
    Prop where
  /-- The groups hold all of them, in their order. -/
  whole : groups.flatten = past
  /-- Groups are not empty. -/
  some : ∀ group ∈ groups, group ≠ []
  /-- A group is on one path. -/
  uniform : ∀ group ∈ groups, ∀ x ∈ group, ∀ y ∈ group, x.turnPath = y.turnPath
  /-- Paths ascend from group to group. -/
  ascending : groups.Pairwise fun left right =>
    ∀ x ∈ left, ∀ y ∈ right, x.turnPath < y.turnPath

/-- The first worker starts a group. -/
theorem joinGroups_nil (worker : WorkerChannels σ) : joinGroups [] worker = [[worker]] := rfl

/-- Another one looks at the last group. -/
theorem joinGroups_concat (groups : List (List (WorkerChannels σ)))
    (first : WorkerChannels σ) (group : List (WorkerChannels σ)) (worker : WorkerChannels σ) :
    joinGroups (groups ++ [first :: group]) worker =
      if first.turnPath = worker.turnPath then groups ++ [first :: group ++ [worker]]
      else groups ++ [first :: group] ++ [[worker]] := by
  simp [joinGroups]

/-- A worker that starts a group has a higher path than all before. -/
theorem Grouped.start {groups : List (List (WorkerChannels σ))}
    {past : List (WorkerChannels σ)} (grouped : Grouped groups past) {worker : WorkerChannels σ}
    (above : ∀ x ∈ past, x.turnPath < worker.turnPath) :
    Grouped (groups ++ [[worker]]) (past ++ [worker]) where
  whole := by
    rw [List.flatten_append, grouped.whole]
    rfl
  some := fun group member => by
    rcases List.mem_append.mp member with old | new
    · exact grouped.some group old
    · rw [List.mem_singleton.mp new]
      exact List.cons_ne_nil _ _
  uniform := fun group member x first y second => by
    rcases List.mem_append.mp member with old | new
    · exact grouped.uniform group old x first y second
    · rw [List.mem_singleton.mp new] at first second
      rw [List.mem_singleton.mp first, List.mem_singleton.mp second]
  ascending := by
    refine List.pairwise_append.mpr ⟨grouped.ascending, List.pairwise_singleton _ _, ?_⟩
    intro group old right new x first y second
    rw [List.mem_singleton.mp new] at second
    rw [List.mem_singleton.mp second]
    refine above x ?_
    rw [← grouped.whole]
    exact List.mem_flatten_of_mem old first

/-- A worker on the path of the last group joins it. -/
theorem Grouped.extend {groups : List (List (WorkerChannels σ))}
    {group past : List (WorkerChannels σ)} (grouped : Grouped (groups ++ [group]) past)
    {worker : WorkerChannels σ} (same : ∀ x ∈ group, x.turnPath = worker.turnPath) :
    Grouped (groups ++ [group ++ [worker]]) (past ++ [worker]) where
  whole := by
    rw [← grouped.whole]
    simp
  some := fun other member => by
    rcases List.mem_append.mp member with old | new
    · exact grouped.some other (List.mem_append_left _ old)
    · rw [List.mem_singleton.mp new]
      exact List.append_ne_nil_of_right_ne_nil _ (List.cons_ne_nil _ _)
  uniform := fun other member x first y second => by
    rcases List.mem_append.mp member with old | new
    · exact grouped.uniform other (List.mem_append_left _ old) x first y second
    · have path : ∀ z ∈ other, z.turnPath = worker.turnPath := by
        intro z here
        rw [List.mem_singleton.mp new] at here
        rcases List.mem_append.mp here with before | last
        · exact same z before
        · rw [List.mem_singleton.mp last]
      exact (path x first).trans (path y second).symm
  ascending := by
    have pairs := List.pairwise_append.mp grouped.ascending
    refine List.pairwise_append.mpr ⟨pairs.1, List.pairwise_singleton _ _, ?_⟩
    intro other old right new x first y second
    have last := pairs.2.2 other old group (List.mem_singleton_self _) x first
    rw [List.mem_singleton.mp new] at second
    rcases List.mem_append.mp second with before | added
    · exact last y before
    · have some := grouped.some group (List.mem_append_right _ (List.mem_singleton_self _))
      have head := List.head_mem some
      rw [List.mem_singleton.mp added, ← same _ head]
      exact last _ head

/-- The next worker in order joins a group or starts one. -/
theorem Grouped.join {groups : List (List (WorkerChannels σ))} {past : List (WorkerChannels σ)}
    (grouped : Grouped groups past) {worker : WorkerChannels σ}
    (ordered : ∀ x ∈ past, x.before worker) :
    Grouped (joinGroups groups worker) (past ++ [worker]) := by
  rcases List.eq_nil_or_concat groups with none | ⟨earlier, group, last⟩
  · have nothing : past = [] := by rw [← grouped.whole, none, List.flatten_nil]
    rw [none, joinGroups_nil]
    rw [none] at grouped
    refine grouped.start fun x member => ?_
    rw [nothing] at member
    exact absurd member List.not_mem_nil
  · rw [List.concat_eq_append] at last
    rw [last] at grouped ⊢
    have here := List.mem_append_right earlier (List.mem_singleton_self group)
    have part : ∀ x ∈ group, x ∈ past := fun x member => by
      rw [← grouped.whole]
      exact List.mem_flatten_of_mem here member
    cases group with
    | nil => exact absurd rfl (grouped.some [] here)
    | cons first rest =>
      rw [joinGroups_concat]
      have path := grouped.uniform _ here first List.mem_cons_self
      by_cases same : first.turnPath = worker.turnPath
      · rw [if_pos same]
        exact grouped.extend fun x member => (path x member).symm.trans same
      · rw [if_neg same]
        refine grouped.start fun x member => ?_
        have below : first.turnPath < worker.turnPath := by
          rcases ordered first (part first List.mem_cons_self) with less | ⟨equal, _⟩
          · exact less
          · exact absurd equal same
        rw [← grouped.whole, List.flatten_append, List.mem_append] at member
        rcases member with old | last
        · have in_group := List.mem_flatten.mp old
          obtain ⟨other, earlier_group, x_in⟩ := in_group
          have ascends := (List.pairwise_append.mp grouped.ascending).2.2 other earlier_group
            _ (List.mem_singleton_self _) x x_in first List.mem_cons_self
          exact ascends.trans below
        · have x_in : x ∈ first :: rest := by simpa using last
          exact path x x_in ▸ below

/-- Workers in order are grouped by path. -/
theorem grouped_foldl {sorted : List (WorkerChannels σ)}
    (ordered : sorted.Pairwise WorkerChannels.before) :
    Grouped (sorted.foldl joinGroups []) sorted := by
  induction sorted using List.reverseRecOn with
  | nil =>
    exact
      { whole := rfl
        some := fun group member => absurd member List.not_mem_nil
        uniform := fun group member => absurd member List.not_mem_nil
        ascending := List.Pairwise.nil }
  | append_singleton past worker ih =>
    have pairs := List.pairwise_append.mp ordered
    rw [List.foldl_append]
    exact (ih pairs.1).join fun x member => pairs.2.2 x member worker (List.mem_singleton_self _)

/-- Each group has a path of its own. -/
theorem Grouped.keyed {groups : List (List (WorkerChannels σ))} {past : List (WorkerChannels σ)}
    (grouped : Grouped groups past) : Rounds.Keyed WorkerChannels.turnPath groups where
  uniform := grouped.uniform
  apart := grouped.ascending.imp fun less x first y second => (less x first y second).ne

/-- A group is not longer than all of them. -/
theorem Grouped.length_le {groups : List (List (WorkerChannels σ))}
    {past : List (WorkerChannels σ)} (grouped : Grouped groups past) :
    ∀ group ∈ groups, group.length ≤ past.length := by
  intro group member
  rw [← grouped.whole]
  exact (List.sublist_flatten_of_mem member).length_le

end Groups

section Interleave

/-- The groups of `interleave_turn_paths`. -/
theorem grouped_sorted (workers : List (WorkerChannels σ)) :
    Grouped ((workers.insertionSort WorkerChannels.before).foldl joinGroups [])
      (workers.insertionSort WorkerChannels.before) :=
  grouped_foldl (List.pairwise_insertionSort _ workers)

/-- `interleave_turn_paths` reads the groups in rounds. -/
theorem interleaveTurnPaths_eq (workers : List (WorkerChannels σ)) :
    interleaveTurnPaths workers =
      Rounds.rounds ((workers.insertionSort WorkerChannels.before).foldl joinGroups [])
        ((workers.insertionSort WorkerChannels.before).length + 1) 0 :=
  interleaveLoop_eq _ _ _

/-- `interleave_turn_paths` changes the order only. -/
theorem interleaveTurnPaths_perm (workers : List (WorkerChannels σ)) :
    (interleaveTurnPaths workers).Perm workers := by
  have grouped := grouped_sorted workers
  have read := Rounds.rounds_perm fun group member =>
    Nat.le_succ_of_le (grouped.length_le group member)
  rw [grouped.whole] at read
  rw [interleaveTurnPaths_eq]
  exact read.trans (List.perm_insertionSort _ workers)

/-- In every prefix, paths that still have workers have equally many, up to one. -/
theorem interleaveTurnPaths_balanced (workers : List (WorkerChannels σ)) {front rest : List String}
    (split : (interleaveTurnPaths workers).map WorkerChannels.turnPath = front ++ rest) :
    ∀ left ∈ rest, ∀ right ∈ rest, front.count left ≤ front.count right + 1 := by
  rw [interleaveTurnPaths_eq] at split
  obtain ⟨full, bounds⟩ := (grouped_sorted workers).keyed.balanced split
  intro left first right second
  have upper := (bounds left first).2
  have lower := (bounds right second).1
  omega

/-- Workers whose numbers are unique have one order. -/
theorem sorted_eq {left right : List (WorkerChannels σ)} (same : left.Perm right)
    (unique : (left.map WorkerChannels.id).Nodup) :
    left.insertionSort WorkerChannels.before = right.insertionSort WorkerChannels.before := by
  have perm := ((List.perm_insertionSort WorkerChannels.before left).trans same).trans
    (List.perm_insertionSort WorkerChannels.before right).symm
  refine List.Perm.eq_of_pairwise (fun x y first second before after => ?_)
    (List.pairwise_insertionSort _ left) (List.pairwise_insertionSort _ right) perm
  have x_in := (List.mem_insertionSort _).mp first
  have y_in := same.mem_iff.mpr ((List.mem_insertionSort _).mp second)
  exact List.inj_on_of_nodup_map unique x_in y_in (before_antisymm before after)

/-- `interleave_turn_paths` does not depend on the order it finds. -/
theorem interleaveTurnPaths_congr {left right : List (WorkerChannels σ)} (same : left.Perm right)
    (unique : (left.map WorkerChannels.id).Nodup) :
    interleaveTurnPaths left = interleaveTurnPaths right := by
  rw [interleaveTurnPaths_eq, interleaveTurnPaths_eq, sorted_eq same unique]

end Interleave

section Calls

/-- A call on the list. -/
inductive RegistryCall (σ : Type) where
  /-- `register`. -/
  | register (channels : WorkerChannels σ)
  /-- `unregister`. -/
  | unregister (id : Nat) (incarnationId : UInt64)

/-- The list after a call. -/
def RegistryCall.apply (workers : List (WorkerChannels σ)) :
    RegistryCall σ → List (WorkerChannels σ)
  | .register channels => Dispatcher.register workers channels
  | .unregister id incarnationId => Dispatcher.unregister workers id incarnationId

/-- The list after all calls. -/
def registered (calls : List (RegistryCall σ)) : List (WorkerChannels σ) :=
  calls.foldl RegistryCall.apply []

/-- A call that takes a worker out: one of its number is registered, or it is unregistered. -/
def RegistryCall.Removes (worker : WorkerChannels σ) : RegistryCall σ → Prop
  | .register channels => channels.id = worker.id
  | .unregister id incarnationId => id = worker.id ∧ incarnationId = worker.incarnationId

/-- A worker is live if it was registered and not taken out since. -/
def Live (calls : List (RegistryCall σ)) (worker : WorkerChannels σ) : Prop :=
  Past.Since (fun _ call => call = .register worker) (RegistryCall.Removes worker) calls

/-- A call adds the worker it registers, and takes out those it removes. -/
theorem mem_apply (workers : List (WorkerChannels σ)) (call : RegistryCall σ)
    (worker : WorkerChannels σ) :
    worker ∈ call.apply workers ↔
      call = .register worker ∨ worker ∈ workers ∧ ¬ call.Removes worker := by
  cases call with
  | register channels =>
    simp only [RegistryCall.apply, register, RegistryCall.Removes]
    rw [(interleaveTurnPaths_perm _).mem_iff, List.mem_append, List.mem_filter,
      List.mem_singleton, or_comm, RegistryCall.register.injEq, bne_iff_ne]
    exact or_congr eq_comm (and_congr_right fun _ => not_congr eq_comm)
  | unregister id incarnationId =>
    simp only [RegistryCall.apply, unregister, RegistryCall.Removes]
    rw [(interleaveTurnPaths_perm _).mem_iff, List.mem_filter, Bool.or_eq_true, bne_iff_ne,
      bne_iff_ne, ← not_and_or]
    constructor
    · exact fun ⟨member, kept⟩ => .inr ⟨member, fun ⟨same, equal⟩ => kept ⟨same.symm, equal.symm⟩⟩
    · rintro (wrong | ⟨member, kept⟩)
      · cases wrong
      · exact ⟨member, fun ⟨same, equal⟩ => kept ⟨same.symm, equal.symm⟩⟩

/-- The list holds the live workers. -/
theorem mem_registered (calls : List (RegistryCall σ)) (worker : WorkerChannels σ) :
    worker ∈ registered calls ↔ Live calls worker := by
  induction calls using List.reverseRecOn with
  | nil =>
    exact ⟨fun member => absurd member List.not_mem_nil, fun live => absurd live Past.not_since_nil⟩
  | append_singleton calls call ih =>
    have step : registered (calls ++ [call]) = call.apply (registered calls) :=
      List.foldl_concat _ _ _ _
    rw [step, mem_apply, ih, Live, Live, Past.since_concat]

/-- A call keeps numbers unique. -/
theorem nodup_apply {workers : List (WorkerChannels σ)}
    (unique : (workers.map WorkerChannels.id).Nodup) (call : RegistryCall σ) :
    ((call.apply workers).map WorkerChannels.id).Nodup := by
  cases call with
  | register channels =>
    have kept := ((List.filter_sublist (p := fun worker : WorkerChannels σ =>
      worker.id != channels.id) (l := workers)).map WorkerChannels.id)
    rw [RegistryCall.apply, register, ((interleaveTurnPaths_perm _).map _).nodup_iff,
      List.map_append]
    refine List.nodup_append.mpr ⟨unique.sublist kept, List.nodup_singleton _, ?_⟩
    intro id old other new
    rw [List.mem_singleton.mp new]
    obtain ⟨worker, member, rfl⟩ := List.mem_map.mp old
    exact bne_iff_ne.mp (List.mem_filter.mp member).2
  | unregister id incarnationId =>
    rw [RegistryCall.apply, unregister, ((interleaveTurnPaths_perm _).map _).nodup_iff]
    exact unique.sublist (List.filter_sublist.map _)

/-- Numbers are unique. -/
theorem nodup_registered (calls : List (RegistryCall σ)) :
    ((registered calls).map WorkerChannels.id).Nodup := by
  induction calls using List.reverseRecOn with
  | nil => exact List.nodup_nil
  | append_singleton calls call ih =>
    have step : registered (calls ++ [call]) = call.apply (registered calls) :=
      List.foldl_concat _ _ _ _
    rw [step]
    exact nodup_apply ih call

/-- The list is what `interleave_turn_paths` makes of some workers. -/
theorem registered_interleaved (calls : List (RegistryCall σ)) :
    ∃ workers, registered calls = interleaveTurnPaths workers := by
  rcases List.eq_nil_or_concat calls with none | ⟨earlier, last, ends⟩
  · exact ⟨[], by rw [none]; rfl⟩
  · rw [ends, List.concat_eq_append]
    have step : registered (earlier ++ [last]) = last.apply (registered earlier) :=
      List.foldl_concat _ _ _ _
    rw [step]
    cases last with
    | register channels => exact ⟨_, rfl⟩
    | unregister id incarnationId => exact ⟨_, rfl⟩

/-- The list depends on the live workers only. -/
theorem registered_congr {calls others : List (RegistryCall σ)}
    (same : ∀ worker, Live calls worker ↔ Live others worker) :
    registered calls = registered others := by
  have members (worker : WorkerChannels σ) :
      worker ∈ registered calls ↔ worker ∈ registered others := by
    rw [mem_registered, mem_registered, same worker]
  have perm : (registered calls).Perm (registered others) :=
    (List.perm_ext_iff_of_nodup (nodup_registered calls).of_map
      (nodup_registered others).of_map).mpr members
  obtain ⟨workers, left⟩ := registered_interleaved calls
  obtain ⟨more, right⟩ := registered_interleaved others
  have unique := nodup_registered calls
  rw [left, right] at perm
  rw [left] at unique
  rw [left, right]
  refine interleaveTurnPaths_congr ?_ ?_
  · exact ((interleaveTurnPaths_perm workers).symm.trans perm).trans
      (interleaveTurnPaths_perm more)
  · exact ((interleaveTurnPaths_perm workers).map _).nodup_iff.mp unique

/-- After any calls, numbers are unique; a number is there with an incarnation just if it was
registered with it last and not unregistered since; the list depends on the live workers only; and
in every prefix of it the paths that still have workers have equally many, up to one. -/
theorem registered_contract (calls : List (RegistryCall σ)) :
    ((registered calls).map WorkerChannels.id).Nodup ∧
      (∀ id incarnationId,
        (∃ worker ∈ registered calls, worker.id = id ∧ worker.incarnationId = incarnationId) ↔
          ∃ before channels after, calls = before ++ RegistryCall.register channels :: after ∧
            channels.id = id ∧ channels.incarnationId = incarnationId ∧
            (∀ later, RegistryCall.register later ∈ after → later.id ≠ id) ∧
            RegistryCall.unregister id incarnationId ∉ after) ∧
      (∀ others, (∀ worker, Live calls worker ↔ Live others worker) →
        registered calls = registered others) ∧
      ∀ front rest, (registered calls).map WorkerChannels.turnPath = front ++ rest →
        ∀ left ∈ rest, ∀ right ∈ rest, front.count left ≤ front.count right + 1 := by
  refine ⟨nodup_registered calls, fun id incarnationId => ⟨?_, ?_⟩,
    fun others => registered_congr, fun front rest split => ?_⟩
  · rintro ⟨worker, member, rfl, rfl⟩
    obtain ⟨before, call, after, split, rfl, kept⟩ := (mem_registered calls worker).mp member
    exact ⟨before, worker, after, split, rfl, rfl, fun later here => kept _ here,
      fun here => kept _ here ⟨rfl, rfl⟩⟩
  · rintro ⟨before, channels, after, split, rfl, rfl, last, stays⟩
    refine ⟨channels, (mem_registered calls channels).mpr ⟨before, _, after, split, rfl, ?_⟩,
      rfl, rfl⟩
    intro call member
    cases call with
    | register later => exact last later member
    | unregister id incarnationId =>
      rintro ⟨rfl, rfl⟩
      exact stays member
  · obtain ⟨workers, interleaved⟩ := registered_interleaved calls
    rw [interleaved] at split
    exact interleaveTurnPaths_balanced workers split

end Calls

end Focsq.Dispatcher
