import Focsq.Backend.TunRoutes

/-!
# Routes that are recorded

A call that adds a route through the uplink records it later, and `remove_routes` or `teardown`
deletes what is recorded when it takes the list. So a route stays behind only when the list is
cleared of it, or when it is recorded after the list was taken.
-/

namespace Focsq.TunRoutes

open Mealy

section Reaches

/-- Whether a call may return at the step. -/
def Act.checks : Act → Bool
  | .remember _ | .readGateway _ | .defer none => true
  | _ => false

/-- Whether a step records the route. -/
def Act.records (route : Route) : Act → Bool
  | .record other | .note other => other = route
  | _ => false

/-- Whether a step deletes the route. -/
def Act.deletes (route : Route) : Act → Bool
  | .delete other => other = route
  | _ => false

/-- Whether a call gets to a step of this kind in any case. -/
def reaches (kind : Act → Bool) : List Act → Bool
  | [] => false
  | act :: rest => kind act || !act.checks && reaches kind rest

variable {kind : Act → Bool}

/-- A call gets to what it gets to in the first part of its steps. -/
theorem reaches_append_left {front : List Act} (found : reaches kind front = true)
    (back : List Act) : reaches kind (front ++ back) = true := by
  induction front with
  | nil => cases found
  | cons act rest ih =>
    simp only [List.cons_append, reaches, Bool.or_eq_true, Bool.and_eq_true] at found ⊢
    rcases found with here | ⟨goes, later⟩
    · exact .inl here
    · exact .inr ⟨goes, ih later⟩

/-- It gets past a step at which it does not return. -/
theorem reaches_cons {act : Act} {rest : List Act} (goes : act.checks = false)
    (found : reaches kind rest = true) : reaches kind (act :: rest) = true := by
  rw [reaches, goes, found]
  exact Bool.or_true _

/-- It gets past steps at which it does not return. -/
theorem reaches_append_right {front back : List Act} (goes : ∀ act ∈ front, act.checks = false)
    (found : reaches kind back = true) : reaches kind (front ++ back) = true := by
  induction front with
  | nil => exact found
  | cons act rest ih =>
    obtain ⟨first, others⟩ := List.forall_mem_cons.mp goes
    exact reaches_cons first (ih others)

/-- It gets to a step if there is one and it does not return before. -/
theorem reaches_of_mem {acts : List Act} (goes : ∀ act ∈ acts, act.checks = false) {act : Act}
    (member : act ∈ acts) (found : kind act = true) : reaches kind acts = true := by
  obtain ⟨front, back, rfl⟩ := List.append_of_mem member
  refine reaches_append_right (fun other inside => goes other (List.mem_append_left _ inside)) ?_
  rw [reaches, found, Bool.true_or]

/-- A call that gets to a step is there, or it goes on and gets to it. -/
theorem of_reaches_cons {act : Act} {rest : List Act} (found : reaches kind (act :: rest) = true) :
    kind act = true ∨ act.checks = false ∧ reaches kind rest = true := by
  simpa [reaches] using found

/-- It does not get past a step at which it may return. -/
theorem not_reaches_cons {act : Act} {rest : List Act} (checks : act.checks = true)
    (other : kind act = false) : ¬reaches kind (act :: rest) = true := by
  intro found
  rcases of_reaches_cons found with here | ⟨goes, -⟩
  · exact absurd (here.symm.trans other) (by decide)
  · exact absurd (checks.symm.trans goes) (by decide)

/-- It goes on when the step is of another kind. -/
theorem reaches_rest {act : Act} {rest : List Act} (other : kind act = false)
    (found : reaches kind (act :: rest) = true) : act.checks = false ∧ reaches kind rest = true :=
  (of_reaches_cons found).resolve_left (by simp [other])

end Reaches

section Sealed

/-- Every route that is added is recorded later. -/
def Sealed : List Act → Prop
  | [] => True
  | act :: rest =>
    (∀ route uplink, act = .add route uplink → reaches (Act.records route) rest = true) ∧
      Sealed rest

/-- The routes that the first part adds are recorded by the second one. -/
theorem sealed_append {front back : List Act} (goes : ∀ act ∈ front, act.checks = false)
    (records : ∀ route uplink, .add route uplink ∈ front → reaches (Act.records route) back = true)
    (rest : Sealed back) : Sealed (front ++ back) := by
  induction front with
  | nil => exact rest
  | cons act acts ih =>
    obtain ⟨first, others⟩ := List.forall_mem_cons.mp goes
    refine ⟨fun route uplink same => ?_, ih others fun route uplink member =>
      records route uplink (List.mem_cons_of_mem _ member)⟩
    refine reaches_append_right others (records route uplink ?_)
    rw [same]
    exact List.mem_cons_self

/-- A step that adds nothing may come first. -/
theorem sealed_cons {act : Act} {rest : List Act} (adds : ∀ route uplink, act ≠ .add route uplink)
    (later : Sealed rest) : Sealed (act :: rest) :=
  ⟨fun route uplink same => absurd same (adds route uplink), later⟩

/-- A route is added and recorded next. -/
theorem sealed_add {route : Route} {uplink : Uplink} {rest : List Act}
    (records : reaches (Act.records route) rest = true) (later : Sealed rest) :
    Sealed (.add route uplink :: rest) := by
  refine ⟨fun other via same => ?_, later⟩
  cases same
  exact records

/-- Steps that add nothing may come first. -/
theorem sealed_append_of_not_add {front back : List Act}
    (adds : ∀ route uplink, .add route uplink ∉ front) (rest : Sealed back) :
    Sealed (front ++ back) := by
  induction front with
  | nil => exact rest
  | cons act acts ih =>
    refine ⟨fun route uplink same => ?_, ih fun route uplink member =>
      adds route uplink (List.mem_cons_of_mem _ member)⟩
    exact absurd (same ▸ List.mem_cons_self) (adds route uplink)

/-- A route is excluded and recorded. -/
theorem sealed_exclude (os : Os) (uplink : Uplink) (routes : List Route) {back : List Act}
    (rest : Sealed back) : Sealed (routes.flatMap (os.exclude uplink) ++ back) := by
  induction routes with
  | nil => exact rest
  | cons route routes ih =>
    rw [List.flatMap_cons, List.append_assoc]
    cases os with
    | windows => exact sealed_add (by simp [reaches, Act.records]) (sealed_cons (by simp) ih)
    | linux =>
      exact sealed_cons (by simp)
        (sealed_add (by simp [reaches, Act.records]) (sealed_cons (by simp) ih))

/-- A call does not return while it excludes routes. -/
theorem exclude_goes (os : Os) (uplink : Uplink) (routes : List Route) :
    ∀ act ∈ routes.flatMap (os.exclude uplink), act.checks = false := by
  intro act member
  obtain ⟨route, -, inside⟩ := List.mem_flatMap.mp member
  cases os <;> simp only [Os.exclude, List.mem_cons, List.not_mem_nil, or_false] at inside
  · rcases inside with rfl | rfl <;> rfl
  · rcases inside with rfl | rfl | rfl <;> rfl

/-- It does not return while it deletes routes. -/
theorem delete_goes (routes : List Route) :
    ∀ act ∈ routes.map Act.delete, act.checks = false := by
  intro act member
  obtain ⟨route, -, rfl⟩ := List.mem_map.mp member
  rfl

/-- Deletions add nothing. -/
theorem delete_adds (routes : List Route) (route : Route) (uplink : Uplink) :
    Act.add route uplink ∉ routes.map Act.delete := by
  intro member
  obtain ⟨other, -, same⟩ := List.mem_map.mp member
  cases same

/-- A route to a server is added and recorded under the lock. -/
theorem sealed_servers (uplink : Uplink) (servers : List Ipv4Addr) {back : List Act}
    (rest : Sealed back) :
    Sealed (servers.flatMap (fun server => [.add (host server) uplink, .note (host server)]) ++
      back) := by
  induction servers with
  | nil => exact rest
  | cons server servers ih =>
    rw [List.flatMap_cons, List.append_assoc]
    exact sealed_add (by simp [reaches, Act.records]) (sealed_cons (by simp) ih)

/-- `apply_tunconf` of Windows records the subnets when it has added them all. -/
theorem sealed_applyTunconfWindows (conf : TunConf) : Sealed (applyTunconfWindows conf) := by
  have last : Sealed [Act.releaseCleanup] := sealed_cons (by simp) trivial
  have notes : ∀ route uplink, Act.add route uplink ∉ (halfNets ++ vkExcludeCidrs).map Act.note := by
    intro route uplink member
    obtain ⟨other, -, same⟩ := List.mem_map.mp member
    cases same
  have quiet : ∀ act ∈ (halfNets ++ vkExcludeCidrs).map Act.note, act.checks = false := by
    intro act member
    obtain ⟨route, -, rfl⟩ := List.mem_map.mp member
    rfl
  have adds : ∀ act ∈ vkExcludeCidrs.map (Act.add · conf.uplink), act.checks = false := by
    intro act member
    obtain ⟨route, -, rfl⟩ := List.mem_map.mp member
    rfl
  simp only [applyTunconfWindows, List.append_assoc, List.cons_append, List.nil_append]
  refine sealed_cons (by simp) (sealed_append_of_not_add (delete_adds _) (sealed_cons (by simp) ?_))
  refine sealed_append adds (fun route uplink member => ?_)
    (sealed_cons (by simp) (sealed_cons (by simp) (sealed_cons (by simp)
      (sealed_append_of_not_add notes (sealed_servers conf.uplink _ last)))))
  obtain ⟨other, inside, same⟩ := List.mem_map.mp member
  cases same
  have noted : Act.note route ∈ (halfNets ++ vkExcludeCidrs).map Act.note :=
    List.mem_map_of_mem (List.mem_append_right _ inside)
  have found : reaches (Act.records route) ((halfNets ++ vkExcludeCidrs).map Act.note) = true :=
    reaches_of_mem quiet noted (decide_eq_true rfl)
  have whole := reaches_append_left found
    (conf.dnsExcludes.flatMap (fun server => [.add (host server) conf.uplink,
      .note (host server)]) ++ [.releaseCleanup])
  exact reaches_cons rfl (reaches_cons rfl (reaches_cons rfl whole))

/-- Every call records what it adds. -/
theorem sealed_acts (os : Os) (call : Call) : Sealed (os.acts call) := by
  cases call with
  | apply conf =>
    cases os with
    | windows => exact sealed_applyTunconfWindows conf
    | linux =>
      have last : Sealed [Act.defer none] := sealed_cons (by simp) trivial
      exact sealed_cons (by simp) (sealed_cons (by simp)
        (sealed_exclude .linux conf.uplink vkExcludeCidrs last))
  | applyFails uplink => exact sealed_cons (by simp) trivial
  | exclude address =>
    cases address with
    | v4 address => exact sealed_cons (by simp) (sealed_cons (by simp) trivial)
    | v6 => trivial
  | remove =>
    cases os with
    | windows => exact sealed_cons (by simp) (sealed_cons (by simp) (sealed_cons (by simp) trivial))
    | linux => exact sealed_cons (by simp) (sealed_cons (by simp) (sealed_cons (by simp) trivial))

end Sealed

section Records

/-- A call gets to record the route, or to delete it. -/
def Handled (route : Route) (acts : List Act) : Prop :=
  reaches (Act.records route) acts = true ∨ reaches (Act.deletes route) acts = true

/-- Every route of the session that is in the table is recorded, or a call gets to record it or to
delete it. -/
def Recorded (pool : RoutePool) : Prop :=
  ∀ entry ∈ pool.shared.added, entry ∈ pool.shared.table →
    entry.1 ∈ pool.shared.cleanupRoutes ∨ ∃ acts ∈ pool.tasks, Handled entry.1 acts

/-- When the list is cleared, the call records again what is still in the table. -/
def Keeps (pool : RoutePool) : Tasks.Action Call (List Route) → Prop
  | .begin _ => True
  | .step index _ => ∀ acts ∈ pool.tasks[index]?, acts.head? = some .clear →
      ∀ entry ∈ pool.shared.added, entry ∈ pool.shared.table →
        entry.1 ∈ pool.shared.cleanupRoutes → reaches (Act.records entry.1) acts = true

/-- The arranged routes are the same ones. -/
theorem mem_arranged {order routes : List Route} {route : Route} :
    route ∈ arranged order routes ↔ route ∈ routes := by
  unfold arranged
  split_ifs with same
  · exact same.mem_iff
  · exact Iff.rfl

/-- A call that handles a route at a later step goes on. -/
theorem Handled.rest {route : Route} {act : Act} {rest : List Act}
    (handled : Handled route (act :: rest)) (records : act.records route = false)
    (deletes : act.deletes route = false) : act.checks = false ∧ Handled route rest := by
  rcases handled with found | found
  · have later := reaches_rest records found
    exact ⟨later.1, .inl later.2⟩
  · have later := reaches_rest deletes found
    exact ⟨later.1, .inr later.2⟩

/-- It does not matter what else the call does before, if it does not return. -/
theorem Handled.append {route : Route} {front back : List Act}
    (goes : ∀ act ∈ front, act.checks = false) (handled : Handled route back) :
    Handled route (front ++ back) :=
  handled.imp (reaches_append_right goes) (reaches_append_right goes)

/-- A call that may return at a step does not handle a route for sure. -/
theorem not_handled_of_checks {route : Route} {act : Act} {rest : List Act}
    (checks : act.checks = true) (records : act.records route = false)
    (deletes : act.deletes route = false) : ¬Handled route (act :: rest) :=
  fun handled => handled.elim (not_reaches_cons checks records) (not_reaches_cons checks deletes)

/-- What is recorded in the list, or taken from it, is deleted by the call that took it. -/
theorem handled_deletes {order routes : List Route} {route : Route} (member : route ∈ routes)
    (back : List Act) : Handled route ((arranged order routes).map .delete ++ back) := by
  refine .inr (reaches_append_left ?_ back)
  exact reaches_of_mem (delete_goes _) (List.mem_map_of_mem (mem_arranged.mpr member))
    (decide_eq_true rfl)

/-- An entry that was there is as safe after a step that is not about it. -/
theorem safe_rest {world after : World} {act : Act} {rest acts : List Act} {entry : Route × Uplink}
    (records : act.records entry.1 = false) (deletes : act.deletes entry.1 = false)
    (listed : entry.1 ∈ world.cleanupRoutes → entry.1 ∈ after.cleanupRoutes)
    (goes : act.checks = false → Handled entry.1 rest → Handled entry.1 acts)
    (before : entry.1 ∈ world.cleanupRoutes ∨ Handled entry.1 (act :: rest)) :
    entry.1 ∈ after.cleanupRoutes ∨ Handled entry.1 acts := by
  rcases before with inside | handled
  · exact .inl (listed inside)
  · obtain ⟨goesOn, later⟩ := handled.rest records deletes
    exact .inr (goes goesOn later)

/-- What a step of a call does to an entry of the table: when the step has added it, the call gets
to record it, and otherwise the call leaves it recorded, or gets to record it or to delete it. -/
theorem handled_next {os : Os} {world : World} {acts : List Act} {order : List Route}
    {entry : Route × Uplink} (sealed : Sealed acts)
    (keeps : acts.head? = some .clear → entry ∈ world.added → entry ∈ world.table →
      entry.1 ∈ world.cleanupRoutes → reaches (Act.records entry.1) acts = true)
    (added : entry ∈ (os.next world acts order).1.added)
    (inside : entry ∈ (os.next world acts order).1.table) :
    Handled entry.1 (os.next world acts order).2.1 ∨
      entry ∈ world.added ∧ entry ∈ world.table ∧
        (entry.1 ∈ world.cleanupRoutes ∨ Handled entry.1 acts →
          entry.1 ∈ (os.next world acts order).1.cleanupRoutes ∨
            Handled entry.1 (os.next world acts order).2.1) := by
  cases acts with
  | nil => exact .inr ⟨added, inside, id⟩
  | cons act rest =>
    cases act with
    | remember address =>
      have returns : ¬Handled entry.1 (.remember address :: rest) :=
        not_handled_of_checks rfl rfl rfl
      simp only [Os.next] at added inside ⊢
      split_ifs at added inside ⊢ <;>
        exact .inr ⟨added, inside, fun before => .inl (before.resolve_right returns)⟩
    | readGateway routes =>
      have returns : ¬Handled entry.1 (.readGateway routes :: rest) :=
        not_handled_of_checks rfl rfl rfl
      cases gateway : world.gatewayRoute with
      | none =>
        simp only [Os.next, gateway] at added inside ⊢
        exact .inr ⟨added, inside, fun before => .inl (before.resolve_right returns)⟩
      | some uplink =>
        simp only [Os.next, gateway] at added inside ⊢
        exact .inr ⟨added, inside, fun before => .inl (before.resolve_right returns)⟩
    | delete route =>
      obtain ⟨old, other⟩ := List.mem_filter.mp inside
      have differs : Act.deletes entry.1 (.delete route) = false :=
        decide_eq_false fun same => of_decide_eq_true other same.symm
      exact .inr ⟨added, old, safe_rest rfl differs id fun _ => id⟩
    | add route uplink =>
      rcases List.mem_cons.mp added with rfl | old
      · exact .inl (.inl (sealed.1 route uplink rfl))
      · rcases List.mem_cons.mp inside with rfl | there
        · exact .inl (.inl (sealed.1 route uplink rfl))
        · exact .inr ⟨old, there, safe_rest rfl rfl id fun _ => id⟩
    | record route =>
      simp only [Os.next] at added inside ⊢
      split_ifs at added inside ⊢ with held
      · exact .inr ⟨added, inside, id⟩
      · refine .inr ⟨added, inside, fun before => ?_⟩
        by_cases same : route = entry.1
        · exact .inl (List.mem_append_right _ (List.mem_singleton.mpr same.symm))
        · have other : Act.records entry.1 (.record route) = false := decide_eq_false same
          exact safe_rest other rfl (List.mem_append_left _) (fun _ => id) before
    | note route =>
      refine .inr ⟨added, inside, fun before => ?_⟩
      by_cases same : route = entry.1
      · exact .inl (List.mem_append_right _ (List.mem_singleton.mpr same.symm))
      · have other : Act.records entry.1 (.note route) = false := decide_eq_false same
        exact safe_rest other rfl (List.mem_append_left _) (fun _ => id) before
    | takeOver uplink => exact .inr ⟨added, inside, safe_rest rfl rfl id fun _ => id⟩
    | drain =>
      simp only [Os.next] at added inside ⊢
      split_ifs at added inside ⊢ with held
      · exact .inr ⟨added, inside, id⟩
      · refine .inr ⟨added, inside, safe_rest rfl rfl id fun _ later => ?_⟩
        exact Handled.append (delete_goes _)
          (later.imp (reaches_cons rfl) (reaches_cons rfl))
    | releaseExcludes => exact .inr ⟨added, inside, safe_rest rfl rfl id fun _ => id⟩
    | defer uplink =>
      simp only [Os.next] at added inside ⊢
      split_ifs at added inside ⊢ with held
      · exact .inr ⟨added, inside, id⟩
      · cases uplink with
        | none =>
          have returns : ¬Handled entry.1 (.defer none :: rest) :=
            not_handled_of_checks rfl rfl rfl
          exact .inr ⟨added, inside, fun before => .inl (before.resolve_right returns)⟩
        | some uplink =>
          exact .inr ⟨added, inside, safe_rest rfl rfl id fun _ =>
            Handled.append (exclude_goes os uplink _)⟩
    | holdCleanup =>
      simp only [Os.next] at added inside ⊢
      split_ifs at added inside ⊢ with held
      · exact .inr ⟨added, inside, id⟩
      · exact .inr ⟨added, inside, safe_rest rfl rfl id fun _ => id⟩
    | clear =>
      refine .inr ⟨added, inside, fun before => .inr ?_⟩
      have handled : Handled entry.1 (.clear :: rest) :=
        before.elim (fun listed => .inl (keeps rfl added inside listed)) id
      exact (handled.rest rfl rfl).2
    | releaseCleanup => exact .inr ⟨added, inside, safe_rest rfl rfl id fun _ => id⟩
    | takeRoutes =>
      simp only [Os.next] at added inside ⊢
      split_ifs at added inside ⊢ with held
      · exact .inr ⟨added, inside, id⟩
      · refine .inr ⟨added, inside, fun before => .inr ?_⟩
        rcases before with listed | handled
        · exact handled_deletes listed rest
        · exact Handled.append (delete_goes _) (handled.rest rfl rfl).2
    | forgetGateway => exact .inr ⟨added, inside, safe_rest rfl rfl id fun _ => id⟩
    | clearExcludes =>
      simp only [Os.next] at added inside ⊢
      split_ifs at added inside ⊢ with held
      · exact .inr ⟨added, inside, id⟩
      · exact .inr ⟨added, inside, safe_rest rfl rfl id fun _ => id⟩

/-- A call still records later what it adds after a step. -/
theorem sealed_next {os : Os} {world : World} {acts : List Act} {order : List Route}
    (sealed : Sealed acts) : Sealed (os.next world acts order).2.1 := by
  cases acts with
  | nil => exact trivial
  | cons act rest =>
    have later : Sealed rest := sealed.2
    cases act with
    | remember address =>
      simp only [Os.next]
      split_ifs
      · exact sealed
      · exact trivial
      · exact later
    | readGateway routes =>
      simp only [Os.next]
      split
      · exact trivial
      · exact sealed_exclude os _ routes later
    | drain =>
      simp only [Os.next]
      split_ifs
      · exact sealed
      · exact sealed_append_of_not_add (delete_adds _) (sealed_cons (by simp) later)
    | defer uplink =>
      simp only [Os.next]
      split_ifs
      · exact sealed
      · cases uplink with
        | none => exact sealed_cons (by simp) later
        | some uplink => exact sealed_exclude os uplink _ later
    | takeRoutes =>
      simp only [Os.next]
      split_ifs
      · exact sealed
      · exact sealed_append_of_not_add (delete_adds _) later
    | record route | holdCleanup | clearExcludes =>
      simp only [Os.next]
      split_ifs
      · exact sealed
      · exact later
    | delete route | add route uplink | takeOver uplink | releaseExcludes | clear | note route
      | releaseCleanup | forgetGateway => exact later

/-- All calls record what they add, and every entry is recorded or handled. -/
structure Tracked (pool : RoutePool) : Prop where
  /-- Calls record what they add. -/
  sealed : ∀ acts ∈ pool.tasks, Sealed acts
  /-- Every entry is recorded, or a call gets to it. -/
  recorded : Recorded pool

/-- Nothing was added at the start. -/
theorem tracked_new (table : List (Route × Uplink)) : Tracked (.new table) :=
  ⟨fun _ member => (nomatch member), fun _ added => (nomatch added)⟩

/-- An action keeps every entry recorded or handled, when the list is cleared of nothing else. -/
theorem Tracked.step {os : Os} {pool : RoutePool} {action : Tasks.Action Call (List Route)}
    (tracked : Tracked pool) (keeps : Keeps pool action) : Tracked (os.step pool action).1 := by
  cases action with
  | begin call =>
    refine ⟨fun acts member => ?_, fun entry added inside => ?_⟩
    · rcases List.mem_append.mp member with old | new
      · exact tracked.sealed acts old
      · rw [List.mem_singleton.mp new]
        exact sealed_acts os call
    · refine (tracked.recorded entry added inside).imp_right ?_
      rintro ⟨acts, member, handled⟩
      exact ⟨acts, List.mem_append_left _ member, handled⟩
  | step index order =>
    cases here : pool.tasks[index]? with
    | none => simpa only [Tasks.Pool.step, here] using tracked
    | some acts =>
      obtain ⟨front, back, split, stepped⟩ := Tasks.step_task os.acts os.next here order
      have present : acts ∈ pool.tasks := List.mem_of_getElem? here
      have sealed := tracked.sealed acts present
      change Tracked (Tasks.Pool.step os.acts os.next pool (.step index order)).1
      rw [stepped]
      refine ⟨fun other member => ?_, fun entry added inside => ?_⟩
      · rcases Tasks.mem_replaced member with rfl | old
        · exact sealed_next sealed
        · exact tracked.sealed other (split ▸ old)
      · have found := handled_next sealed
          (fun head old there => keeps acts here head entry old there) added inside
        have new : (os.next pool.shared acts order).2.1 ∈
            front ++ (os.next pool.shared acts order).2.1 :: back :=
          List.mem_append_right _ List.mem_cons_self
        rcases found with handled | ⟨old, there, follows⟩
        · exact .inr ⟨_, new, handled⟩
        · have before : entry.1 ∈ pool.shared.cleanupRoutes ∨ Handled entry.1 acts →
              entry.1 ∈ (os.next pool.shared acts order).1.cleanupRoutes ∨
                ∃ other ∈ front ++ (os.next pool.shared acts order).2.1 :: back,
                  Handled entry.1 other :=
            fun known => (follows known).imp_right fun handled => ⟨_, new, handled⟩
          rcases tracked.recorded entry old there with listed | ⟨other, member, handled⟩
          · exact before (.inl listed)
          · rcases Tasks.eq_or_mem_others (split ▸ member) with rfl | aside
            · exact before (.inr handled)
            · exact .inr ⟨other, Tasks.mem_of_others aside, handled⟩

/-- The step that a call makes next. -/
def RoutePool.upcoming (pool : RoutePool) (index : Nat) : Option Act :=
  pool.tasks[index]?.bind List.head?

/-- Whether a step records some route. -/
def Act.notes : Act → Bool
  | .record _ | .note _ => true
  | _ => false

/-- Whether an action records a route. -/
def Notes (pool : RoutePool) : Tasks.Action Call (List Route) → Prop
  | .begin _ => False
  | .step index _ => ∃ act ∈ pool.upcoming index, act.notes = true

/-- Whether an action takes the list. -/
def Takes (pool : RoutePool) : Tasks.Action Call (List Route) → Prop
  | .begin _ => False
  | .step index _ => pool.shared.cleanupHeld = false ∧ pool.upcoming index = some .takeRoutes

/-- Whether all calls have finished. -/
def Finished (pool : RoutePool) : Prop := ∀ acts ∈ pool.tasks, acts = []

/-- The list is empty when it has been taken. -/
theorem Takes.empties {os : Os} {pool : RoutePool} {action : Tasks.Action Call (List Route)}
    (takes : Takes pool action) : (os.step pool action).1.shared.cleanupRoutes = [] := by
  cases action with
  | begin call => cases takes
  | step index order =>
    obtain ⟨free, next⟩ := takes
    obtain ⟨acts, here, head⟩ := Option.bind_eq_some_iff.mp next
    cases acts with
    | nil => cases head
    | cons act rest =>
      cases head
      simp only [Tasks.Pool.step, here, Os.next, free]
      rfl

/-- It stays empty as long as nothing is recorded. -/
theorem empty_step {os : Os} {pool : RoutePool} {action : Tasks.Action Call (List Route)}
    (empty : pool.shared.cleanupRoutes = []) (quiet : ¬Notes pool action) :
    (os.step pool action).1.shared.cleanupRoutes = [] := by
  cases action with
  | begin call => exact empty
  | step index order =>
    cases here : pool.tasks[index]? with
    | none => simpa only [Tasks.Pool.step, here] using empty
    | some acts =>
      have next : (os.next pool.shared acts order).1.cleanupRoutes = [] := by
        cases acts with
        | nil => exact empty
        | cons act rest =>
          have next : pool.upcoming index = some act := by simp [RoutePool.upcoming, here]
          have silent : act.notes = false :=
            Bool.eq_false_iff.mpr fun notes => quiet ⟨act, next, notes⟩
          cases act with
          | record route | note route => cases silent
          | remember address | drain | holdCleanup | clearExcludes =>
            simp only [Os.next]
            split_ifs <;> exact empty
          | readGateway routes =>
            simp only [Os.next]
            split <;> exact empty
          | defer uplink =>
            simp only [Os.next]
            split_ifs
            · exact empty
            · cases uplink <;> exact empty
          | takeRoutes =>
            simp only [Os.next]
            split_ifs
            · exact empty
            · rfl
          | clear => rfl
          | delete route | add route uplink | takeOver uplink | releaseExcludes | releaseCleanup
            | forgetGateway => exact empty
      simpa only [Tasks.Pool.step, here] using next

end Records

section Runs

/-- Every route that the session has added and that is in the table is recorded at every moment, or a
call gets to record it or to delete it, if the list is only cleared of what the call records again.
When moreover nothing is recorded after the list was taken, none of these routes is left when all
calls have finished. -/
theorem recorded_and_removed (os : Os) (table : List (Route × Uplink))
    (run : List (Tasks.Action Call (List Route)))
    (keeps : Along os.step Keeps (.new table) run) :
    Recorded (final os.step (.new table) run) ∧
      ∀ before action after, run = before ++ action :: after →
        Takes (final os.step (.new table) before) action →
        Along os.step (fun pool action => ¬Notes pool action)
          (final os.step (.new table) (before ++ [action])) after →
        Finished (final os.step (.new table) run) →
        ∀ entry ∈ (final os.step (.new table) run).shared.added,
          entry ∉ (final os.step (.new table) run).shared.table := by
  have tracked : Tracked (final os.step (.new table) run) :=
    invariant Tracked (fun _ _ tracked keeps => tracked.step keeps) (.new table) run
      (tracked_new table) keeps
  refine ⟨tracked.recorded, fun before action after split takes quiet finished entry added => ?_⟩
  have taken : (final os.step (.new table) (before ++ [action])).shared.cleanupRoutes = [] := by
    rw [final_append]
    exact takes.empties
  have empty : (final os.step (.new table) run).shared.cleanupRoutes = [] := by
    have whole : run = (before ++ [action]) ++ after := by simp [split]
    rw [whole, final_append]
    exact invariant (fun pool : RoutePool => pool.shared.cleanupRoutes = [])
      (fun _ _ empty quiet => empty_step empty quiet) _ after taken quiet
  intro inside
  rcases tracked.recorded entry added inside with listed | ⟨acts, member, handled⟩
  · rw [empty] at listed
    cases listed
  · rw [finished acts member] at handled
    rcases handled with found | found <;> cases found

instance (route : Route) (acts : List Act) : Decidable (Handled route acts) :=
  inferInstanceAs (Decidable (_ ∨ _))

instance (pool : RoutePool) : Decidable (Recorded pool) :=
  inferInstanceAs (Decidable (∀ entry ∈ pool.shared.added, entry ∈ pool.shared.table → _))

instance (pool : RoutePool) : (action : Tasks.Action Call (List Route)) →
    Decidable (Keeps pool action)
  | .begin _ => .isTrue trivial
  | .step index _ => inferInstanceAs (Decidable (∀ acts ∈ pool.tasks[index]?, _ → _))

instance (pool : RoutePool) : (action : Tasks.Action Call (List Route)) →
    Decidable (Notes pool action)
  | .begin _ => .isFalse id
  | .step index _ => inferInstanceAs (Decidable (∃ act ∈ pool.upcoming index, _))

instance (pool : RoutePool) : (action : Tasks.Action Call (List Route)) →
    Decidable (Takes pool action)
  | .begin _ => .isFalse id
  | .step _ _ => inferInstanceAs (Decidable (_ ∧ _))

instance (pool : RoutePool) : Decidable (Finished pool) :=
  inferInstanceAs (Decidable (∀ acts ∈ pool.tasks, acts = []))

/-- A router that also answers for names. -/
def router : Uplink := ⟨ipv4 192 168 1 1, ipv4 192 168 1 2⟩

/-- What `apply_tunconf` finds there. -/
def routerConf : TunConf := ⟨router, ipv4 203 0 113 9, [], [], [router.gateway]⟩

/-- A server that is excluded. -/
def turnServer : Ipv4Addr := ipv4 155 212 200 7

/-- The steps of one call in a row. -/
def alone (index count : Nat) : List (Tasks.Action Call (List Route)) :=
  List.replicate count (.step index [])

/-- A session on Windows: a server is excluded after the interception, and then all is removed. -/
def wholeSession : List (Tasks.Action Call (List Route)) :=
  .begin (.apply routerConf) :: alone 0 55 ++ .begin (.exclude (.v4 turnServer)) :: alone 1 4 ++
    [.begin .remove]

/-- Nothing is left of it. -/
theorem wholeSession_removed :
    Recorded (final Os.windows.step (.new []) (wholeSession ++ alone 2 20)) ∧
      ∀ entry ∈ (final Os.windows.step (.new []) (wholeSession ++ alone 2 20)).shared.added,
        entry ∉ (final Os.windows.step (.new []) (wholeSession ++ alone 2 20)).shared.table := by
  have both := recorded_and_removed .windows [] (wholeSession ++ alone 2 20) (by decide +kernel)
  exact ⟨both.1, both.2 wholeSession (.step 2 []) (alone 2 19) rfl (by decide +kernel)
    (by decide +kernel) (by decide +kernel)⟩

/-- On Linux, `apply_tunconf` is at the first subnet. -/
def firstSubnet : List (Tasks.Action Call (List Route)) :=
  .begin (.apply routerConf) :: alone 0 4

/-- On Linux, a call reads the gateway before `teardown`, and adds its route after it. -/
def lateSession : List (Tasks.Action Call (List Route)) :=
  .begin (.apply routerConf) :: alone 0 45 ++ .begin (.exclude (.v4 turnServer)) :: alone 1 2 ++
    .begin .remove :: alone 2 20 ++ alone 1 3

/-- On Windows, a server is excluded before `apply_tunconf` clears the list. -/
def clearedSession : List (Tasks.Action Call (List Route)) :=
  .begin (.apply routerConf) :: alone 0 21 ++ .begin (.exclude (.v4 turnServer)) :: alone 1 4 ++
    alone 0 40 ++ .begin .remove :: alone 2 20

/-- A route is in the table before it is recorded, and in two sessions one is left in the end. -/
theorem sessions_leave :
    ¬(∀ entry ∈ (final Os.linux.step (.new []) firstSubnet).shared.added,
        entry ∈ (final Os.linux.step (.new []) firstSubnet).shared.table →
          entry.1 ∈ (final Os.linux.step (.new []) firstSubnet).shared.cleanupRoutes) ∧
      (Finished (final Os.linux.step (.new []) lateSession) ∧
        (host turnServer, router) ∈ (final Os.linux.step (.new []) lateSession).shared.table) ∧
      Finished (final Os.windows.step (.new []) clearedSession) ∧
        (host turnServer, router) ∈
          (final Os.windows.step (.new []) clearedSession).shared.table := by
  decide +kernel

end Runs

end Focsq.TunRoutes
