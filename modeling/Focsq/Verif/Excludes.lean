import Focsq.Verif.ExcludePhases

/-!
# Addresses that are excluded

`apply_tunconf` and any number of calls of `exclude_host_ip` in any order. On Linux every address
has its route in the end. On Windows the loop over `dynamic_excludes().drain()`, which deletes the
routes of the session before, forgets the addresses of this one too, and an address that it finds
there has its route in the end only if some call is still to add it when the loop deletes it.
-/

namespace Focsq.TunRoutes

open Mealy

section Runs

/-- Whether an action is the step of the loop that deletes the route to the address. -/
def Drops (address : Ipv4Addr) (pool : RoutePool) : Tasks.Action Call (List Route) → Prop
  | .begin _ => False
  | .step place _ => ∃ acts ∈ pool.tasks[place]?,
      acts.head? = some (.delete (host address)) ∧ .releaseExcludes ∈ acts

/-- Whenever the loop deletes the route to the address, a call still has a step to exclude the
address, or a call to exclude it begins later. -/
def Spared (os : Os) (uplink : Uplink) (address : Ipv4Addr) (pool : RoutePool) :
    List (Tasks.Action Call (List Route)) → Prop
  | [] => True
  | action :: rest =>
    (Drops address pool action →
        Pending uplink address pool ∨ .begin (.exclude (.v4 address)) ∈ rest) ∧
      Spared os uplink address (os.step pool action).1 rest

/-- Only calls of `exclude_host_ip` begin. -/
def Excluding (run : List (Tasks.Action Call (List Route))) : Prop :=
  ∀ call, .begin call ∈ run → ∃ address, call = .exclude address

/-- The address is remembered or has its route, or there is another reason to wait for it. -/
inductive Awaited (os : Os) (conf : TunConf) (address : Ipv4Addr) (index : Nat) (reason : Prop)
    (pool : RoutePool) : Prop where
  /-- Before the loop. -/
  | early (early : Early os conf address index pool) (known : Wanted address pool ∨ reason)
  /-- In the loop. -/
  | draining (windows : os = .windows) (draining : Draining conf address index pool)
  /-- After it. -/
  | late (late : Late conf.uplink address pool)
      (known : (Wanted address pool ∨ Certain conf.uplink address pool) ∨ reason)

variable {os : Os} {conf : TunConf} {address : Ipv4Addr} {index : Nat} {reason after : Prop}
  {pool : RoutePool}

/-- The loop deletes the route in the loop only. -/
theorem Awaited.drops (awaited : Awaited os conf address index reason pool) {place : Nat}
    {order : List Route} (drops : Drops address pool (.step place order)) :
    Pending conf.uplink address pool ∨
      os = .windows ∧ Draining conf address index pool ∧ place = index := by
  obtain ⟨acts, here, head, inside⟩ := drops
  cases awaited with
  | early early =>
    refine absurd inside ?_
    by_cases same : place = index
    · rw [same] at here
      have deletes (routes : List Route) :
          .releaseExcludes ∉ routes.map Act.delete ++ os.interception conf := by
        intro member
        rcases List.mem_append.mp member with deleted | later
        · obtain ⟨route, -, made⟩ := List.mem_map.mp deleted
          cases made
        · exact quiet_interception os conf later
      obtain ⟨stale, -, ⟨-, position⟩ | ⟨-, position⟩⟩ := early.apply
      · cases (Option.mem_def.mp here).symm.trans position
        cases head
      · cases (Option.mem_def.mp here).symm.trans position
        exact deletes stale
    · exact (early.others place acts same here).2
  | draining windows draining =>
    refine .inr ⟨windows, draining, ?_⟩
    by_contra differs
    exact (draining.others place acts differs here).2 inside
  | late late =>
    have member : acts ∈ pool.tasks := List.mem_of_getElem? here
    have safe := late.safe acts member
    cases acts with
    | nil => cases head
    | cons act rest =>
      cases Option.some.inj head
      have next := safe.1 rfl
      refine .inl ⟨_, member, .add (host address) conf.uplink, ?_, by simp [Act.excludes, Act.adds]⟩
      exact List.mem_cons_of_mem _ (List.mem_of_mem_head? next)

/-- An action that begins a call. -/
theorem Awaited.begin (awaited : Awaited os conf address index reason pool) (call : IpAddr)
    (keeps : reason → after ∨ call = .v4 address) :
    Awaited os conf address index after ⟨pool.shared, pool.tasks ++ [excludeHostIp call]⟩ := by
  have begun (why : reason) :
      Wanted address ⟨pool.shared, pool.tasks ++ [excludeHostIp call]⟩ ∨ after := by
    rcases keeps why with later | rfl
    · exact .inr later
    · exact .inl wanted_begin
  cases awaited with
  | early early known =>
    refine .early (early.begin call) ?_
    exact known.elim (fun wanted => .inl (wanted.begin _)) begun
  | draining windows draining => exact .draining windows (draining.begin call)
  | late late known =>
    refine .late (late.begin call) ?_
    rcases known with (wanted | certain) | why
    · exact .inl (.inl (wanted.begin _))
    · exact .inl (.inr (certain.begin _))
    · exact (begun why).imp_left .inl

/-- A step of a call. -/
theorem Awaited.step (awaited : Awaited os conf address index reason pool) {place : Nat}
    {order : List Route} {acts : List Act} (here : pool.tasks[place]? = some acts)
    (spared : Drops address pool (.step place order) →
      Pending conf.uplink address pool ∨ after)
    (keeps : reason → after) :
    Awaited os conf address index after (os.after pool.shared pool.tasks place acts order) := by
  cases awaited with
  | early early known =>
    by_cases same : place = index
    · subst same
      rcases early.own here order with ⟨early | late, wanted⟩ | ⟨windows, draining⟩
      · exact .early early (known.imp wanted keeps)
      · exact .late late (known.imp (fun before => .inl (wanted before)) keeps)
      · exact .draining windows draining
    · obtain ⟨later, wanted⟩ := early.other same here order
      exact .early later (known.imp wanted keeps)
  | draining windows draining =>
    by_cases same : place = index
    · subst same
      obtain ⟨stale, -, inside, position⟩ := draining.apply
      cases stale with
      | nil => cases inside
      | cons route stale =>
        cases here.symm.trans position
        by_cases equal : route = host address
        · subst equal
          have late := (draining.dropped os here order).1
          refine .late late ?_
          have drops : Drops address pool (.step place order) :=
            ⟨_, here, rfl, by simp⟩
          exact (spared drops).imp_left fun pending =>
            late.known ((pending_delete here order).mpr pending)
        · exact .draining windows (draining.own here order equal)
    · exact .draining windows (draining.other same here order)
  | late late known =>
    exact .late (late.step here order) (known.imp (late.keeps here order) keeps)

/-- Another reason will do. -/
theorem Awaited.mono (awaited : Awaited os conf address index reason pool)
    (keeps : reason → after) : Awaited os conf address index after pool := by
  cases awaited with
  | early early known => exact .early early (known.imp_right keeps)
  | draining windows draining => exact .draining windows draining
  | late late known => exact .late late (known.imp_right keeps)

/-- A step of a call that is there. -/
theorem step_after {place : Nat} {acts : List Act} (here : pool.tasks[place]? = some acts)
    (order : List Route) :
    (os.step pool (.step place order)).1 = os.after pool.shared pool.tasks place acts order := by
  simp only [Tasks.Pool.step, here]

/-- A step of no call. -/
theorem step_stay {place : Nat} (here : pool.tasks[place]? = none) (order : List Route) :
    (os.step pool (.step place order)).1 = pool := by
  simp only [Tasks.Pool.step, here]

/-- Any action after the call of `apply_tunconf`. -/
theorem Awaited.act (awaited : Awaited os conf address index reason pool)
    {action : Tasks.Action Call (List Route)} {rest : List (Tasks.Action Call (List Route))}
    (excluding : Excluding (action :: rest))
    (spared : Drops address pool action → Pending conf.uplink address pool ∨ after)
    (keeps : reason → after ∨ action = .begin (.exclude (.v4 address))) :
    Awaited os conf address index after (os.step pool action).1 := by
  cases action with
  | begin call =>
    obtain ⟨other, rfl⟩ := excluding call List.mem_cons_self
    refine awaited.begin other fun why => (keeps why).imp_right fun same => ?_
    injection same with same
    injection same
  | step place order =>
    have stays (why : reason) : after := (keeps why).resolve_right (by simp)
    cases here : pool.tasks[place]? with
    | none =>
      rw [step_stay here]
      exact awaited.mono stays
    | some acts =>
      rw [step_after here]
      exact awaited.step here spared stays

/-- The actions after the first one. -/
theorem Excluding.tail {action : Tasks.Action Call (List Route)}
    {rest : List (Tasks.Action Call (List Route))} (excluding : Excluding (action :: rest)) :
    Excluding rest :=
  fun call member => excluding call (List.mem_cons_of_mem _ member)

/-- An address that is awaited has its route when all calls have finished. -/
theorem Awaited.kept {run : List (Tasks.Action Call (List Route))} (excluding : Excluding run)
    (awaited : Awaited os conf address index (.begin (.exclude (.v4 address)) ∈ run) pool)
    (spared : Spared os conf.uplink address pool run)
    (finished : Finished (final os.step pool run)) :
    (host address, conf.uplink) ∈ (final os.step pool run).shared.table := by
  induction run generalizing pool with
  | nil =>
    have none {kind : Act → Bool} : ¬∃ acts ∈ pool.tasks, reaches kind acts = true := by
      rintro ⟨acts, member, found⟩
      rw [finished acts member] at found
      cases found
    have ended {acts : List Act} {place : Nat} (here : pool.tasks[place]? = some acts) :
        acts = [] := finished acts (List.mem_of_getElem? here)
    cases awaited with
    | early early =>
      obtain ⟨stale, linux, ⟨-, position⟩ | ⟨-, position⟩⟩ := early.apply
      · cases ended position
      · have empty := (List.append_eq_nil_iff.mp (ended position)).2
        cases os <;> simp [Os.interception] at empty
    | draining windows draining =>
      obtain ⟨stale, -, -, position⟩ := draining.apply
      have empty := (List.append_eq_nil_iff.mp (ended position)).2
      cases empty
    | late late known =>
      have certain : Certain conf.uplink address pool := by
        rcases known with (wanted | certain) | why
        · exact (late.kept (wanted.resolve_right none)).resolve_right none
        · exact certain
        · cases why
      exact certain.resolve_right none
  | cons action rest ih =>
    refine ih excluding.tail ?_ spared.2 finished
    refine awaited.act excluding spared.1 fun member => ?_
    exact (List.mem_cons.mp member).symm.imp_right Eq.symm

/-- Nothing is to exclude the address any more. -/
structure Gone (os : Os) (uplink : Uplink) (address : Ipv4Addr) (pool : RoutePool) : Prop where
  /-- There is a gateway, and all calls are safe. -/
  late : Late uplink address pool
  /-- The route is not there. -/
  lost : Lost uplink address pool.shared
  /-- No call is to add it. -/
  none : ¬Pending uplink address pool

/-- The route does not come back when no call for the address begins. -/
theorem Gone.missing {uplink : Uplink} {run : List (Tasks.Action Call (List Route))}
    (excluding : Excluding run) (gone : Gone os uplink address pool)
    (never : .begin (.exclude (.v4 address)) ∉ run) :
    (host address, uplink) ∉ (final os.step pool run).shared.table := by
  induction run generalizing pool with
  | nil => exact gone.lost.missing
  | cons action rest ih =>
    refine ih excluding.tail ?_ fun member => never (List.mem_cons_of_mem _ member)
    cases action with
    | begin call =>
      obtain ⟨other, rfl⟩ := excluding call List.mem_cons_self
      refine ⟨gone.late.begin other, gone.lost, ?_⟩
      rintro ⟨acts, member, act, inside, excludes⟩
      rcases List.mem_append.mp member with old | last
      · exact gone.none ⟨acts, old, act, inside, excludes⟩
      · rw [List.mem_singleton.mp last] at inside
        cases other with
        | v6 => cases inside
        | v4 other =>
          have differs : other ≠ address := by
            rintro rfl
            exact never List.mem_cons_self
          have routes : host address ≠ host other := fun same => differs (host_injective same).symm
          simp only [Os.acts, excludeHostIp, List.mem_cons, List.not_mem_nil, or_false] at inside
          rcases inside with rfl | rfl
          · simp [Act.excludes, Act.remembers, Act.adds, differs] at excludes
          · simp [Act.excludes, Act.remembers, Act.adds, routes] at excludes
    | step place order =>
      cases here : pool.tasks[place]? with
      | none =>
        rw [step_stay here]
        exact gone
      | some acts =>
        rw [step_after here]
        have member : acts ∈ pool.tasks := List.mem_of_getElem? here
        have goes := next_goes os (.inr gone.late.gateway) (gone.late.safe acts member) order
        have quiet : ∀ act ∈ acts, act.excludes uplink address = false := fun act inside =>
          Bool.eq_false_iff.mpr fun excludes => gone.none ⟨acts, member, act, inside, excludes⟩
        obtain ⟨lost, later⟩ := goes.lost gone.lost quiet
        refine ⟨gone.late.step here order, lost, ?_⟩
        rintro ⟨other, present, act, inside, excludes⟩
        rcases List.mem_or_eq_of_mem_set present with old | rfl
        · exact gone.none ⟨other, old, act, inside, excludes⟩
        · exact absurd (excludes.symm.trans (later act inside)) (by decide)

/-- An address that is not spared has no route in the end. -/
theorem Awaited.missing {run : List (Tasks.Action Call (List Route))} (excluding : Excluding run)
    (awaited : Awaited os conf address index True pool)
    (dropped : ¬Spared os conf.uplink address pool run) :
    (host address, conf.uplink) ∉ (final os.step pool run).shared.table := by
  induction run generalizing pool with
  | nil => exact absurd trivial dropped
  | cons action rest ih =>
    by_cases first : Drops address pool action →
        Pending conf.uplink address pool ∨ .begin (.exclude (.v4 address)) ∈ rest
    · refine ih excluding.tail ?_ fun later => dropped ⟨first, later⟩
      exact awaited.act excluding (fun _ => .inr trivial) fun _ => .inl trivial
    · obtain ⟨drops, neither⟩ := Classical.not_imp.mp first
      obtain ⟨none, never⟩ := not_or.mp neither
      cases action with
      | begin call => cases drops
      | step place order =>
        obtain ⟨-, draining, rfl⟩ := (awaited.drops drops).resolve_left none
        obtain ⟨acts, here, head, -⟩ := drops
        cases acts with
        | nil => cases head
        | cons act later =>
          cases Option.some.inj head
          obtain ⟨late, lost⟩ := draining.dropped os here order
          have gone : Gone os conf.uplink address (os.step pool (.step place order)).1 := by
            rw [step_after here]
            exact ⟨late, lost, fun pending => none ((pending_delete here order).mp pending)⟩
          have missing := gone.missing excluding.tail never
          exact missing

/-- On Linux every address is spared. -/
theorem Awaited.spared {run : List (Tasks.Action Call (List Route))} (excluding : Excluding run)
    (awaited : Awaited .linux conf address index True pool) :
    Spared .linux conf.uplink address pool run := by
  induction run generalizing pool with
  | nil => trivial
  | cons action rest ih =>
    refine ⟨fun drops => ?_, ih excluding.tail ?_⟩
    · cases action with
      | begin call => cases drops
      | step place order => exact .inl ((awaited.drops drops).resolve_right (by simp))
    · exact awaited.act excluding (fun _ => .inr trivial) fun _ => .inl trivial

/-- `apply_tunconf` has not been called. -/
structure Waiting (uplink : Uplink) (address : Ipv4Addr) (pool : RoutePool) : Prop where
  /-- All calls are safe, and none is in the loop. -/
  safe : ∀ acts ∈ pool.tasks, Safe uplink address acts ∧ .releaseExcludes ∉ acts
  /-- There is no gateway. -/
  gateway : pool.shared.gatewayRoute = none
  /-- An address is remembered once. -/
  nodup : pool.shared.dynamicExcludes.Nodup

/-- Any action before the call of `apply_tunconf`. -/
theorem Waiting.act (os : Os) {uplink : Uplink} (waiting : Waiting uplink address pool)
    {action : Tasks.Action Call (List Route)} {rest : List (Tasks.Action Call (List Route))}
    (excluding : Excluding (action :: rest)) :
    Waiting uplink address (os.step pool action).1 ∧
      (Wanted address pool ∨ action = .begin (.exclude (.v4 address)) →
        Wanted address (os.step pool action).1) := by
  cases action with
  | begin call =>
    obtain ⟨other, rfl⟩ := excluding call List.mem_cons_self
    refine ⟨⟨fun acts member => ?_, waiting.gateway, waiting.nodup⟩, fun known => ?_⟩
    · rcases List.mem_append.mp member with old | last
      · exact waiting.safe acts old
      · rw [List.mem_singleton.mp last]
        refine ⟨safe_excludeHostIp other, ?_⟩
        cases other <;> simp [Os.acts, excludeHostIp]
    · rcases known with wanted | same
      · exact wanted.begin _
      · cases same
        exact wanted_begin
  | step place order =>
    cases here : pool.tasks[place]? with
    | none =>
      rw [step_stay here]
      exact ⟨waiting, fun known => known.resolve_right (by simp)⟩
    | some acts =>
      rw [step_after here]
      obtain ⟨safe, quiet⟩ := waiting.safe acts (List.mem_of_getElem? here)
      have goes := next_goes os (.inl waiting.gateway) safe order
      refine ⟨⟨fun other member => ?_, goes.gateway.trans waiting.gateway,
        goes.nodup waiting.nodup⟩, fun known => ?_⟩
      · rcases List.mem_or_eq_of_mem_set member with old | rfl
        · exact waiting.safe other old
        · exact ⟨goes.safe safe, goes.quiet quiet⟩
      · have wanted : Wanted address pool := known.resolve_right (by simp)
        exact wanted.set here goes.remembered goes.remembers

/-- What is excluded before the call of `apply_tunconf` is remembered, and spared. -/
theorem Waiting.run (os : Os) {uplink : Uplink} {before : List (Tasks.Action Call (List Route))}
    (excluding : Excluding before) (waiting : Waiting uplink address pool)
    (more : List (Tasks.Action Call (List Route))) :
    Waiting uplink address (final os.step pool before) ∧
      (Wanted address pool ∨ .begin (.exclude (.v4 address)) ∈ before →
        Wanted address (final os.step pool before)) ∧
      (Spared os uplink address pool (before ++ more) ↔
        Spared os uplink address (final os.step pool before) more) := by
  induction before generalizing pool with
  | nil => exact ⟨waiting, fun known => known.resolve_right List.not_mem_nil, Iff.rfl⟩
  | cons action rest ih =>
    obtain ⟨next, wanted⟩ := waiting.act os excluding
    obtain ⟨last, known, spared⟩ := ih excluding.tail next
    refine ⟨last, fun before => known ?_, ?_⟩
    · rcases before with old | member
      · exact .inl (wanted (.inl old))
      · rcases List.mem_cons.mp member with same | later
        · exact .inl (wanted (.inr same.symm))
        · exact .inr later
    · refine Iff.trans ⟨And.right, fun later => ⟨fun drops => ?_, later⟩⟩ spared
      cases action with
      | begin call => cases drops
      | step place order =>
        obtain ⟨acts, here, -, inside⟩ := drops
        exact absurd inside (waiting.safe acts (List.mem_of_getElem? here)).2

/-- `apply_tunconf` is called. -/
theorem Waiting.apply (os : Os) (waiting : Waiting conf.uplink address pool) :
    Early os conf address pool.tasks.length (os.step pool (.begin (.apply conf))).1 where
  others place acts differs here := by
    have there : (pool.tasks ++ [os.acts (.apply conf)])[place]? = some acts := here
    rcases Nat.lt_or_ge place pool.tasks.length with inside | outside
    · rw [List.getElem?_append_left inside] at there
      exact waiting.safe acts (List.mem_of_getElem? there)
    · have beyond : (pool.tasks ++ [os.acts (.apply conf)])[place]? = none := by
        apply List.getElem?_eq_none
        rw [List.length_append, List.length_singleton]
        omega
      cases beyond.symm.trans there
  nodup := waiting.nodup
  apply := by
    refine ⟨os.stale conf, fun linux => ?_, .inl ⟨waiting.gateway, ?_⟩⟩
    · rw [linux]
      exact List.cons_ne_nil _ _
    · simp [Tasks.Pool.step, Os.acts, applyTunconf_eq]

instance (uplink : Uplink) (address : Ipv4Addr) (pool : RoutePool) :
    Decidable (Pending uplink address pool) :=
  inferInstanceAs (Decidable (∃ acts ∈ pool.tasks, ∃ act ∈ acts, _))

instance (address : Ipv4Addr) (pool : RoutePool) :
    (action : Tasks.Action Call (List Route)) → Decidable (Drops address pool action)
  | .begin _ => .isFalse id
  | .step place _ => inferInstanceAs (Decidable (∃ acts ∈ pool.tasks[place]?, _))

instance decidableSpared (os : Os) (uplink : Uplink) (address : Ipv4Addr) (pool : RoutePool) :
    (run : List (Tasks.Action Call (List Route))) → Decidable (Spared os uplink address pool run)
  | [] => .isTrue trivial
  | action :: rest =>
    have := decidableSpared os uplink address (os.step pool action).1 rest
    inferInstanceAs (Decidable ((_ → _ ∨ _) ∧ _))

end Runs

end Focsq.TunRoutes
