import Focsq.Verif.ExcludeSteps
import Mathlib.Data.List.Nodup

/-!
# The parts of `apply_tunconf`

Before its loop over `dynamic_excludes().drain()` the addresses that were passed are remembered. In
the loop, which only Windows has, nothing is, and after it every address that is remembered has its
route or will have it.
-/

namespace Focsq.TunRoutes

section Tasks

variable {uplink : Uplink} {address : Ipv4Addr} {index place : Nat} {tasks : List (List Act)}
  {old new : List Act}

/-- The calls besides one are safe, and do not hold the lock of the set. -/
def Others (uplink : Uplink) (address : Ipv4Addr) (index : Nat) (tasks : List (List Act)) : Prop :=
  ∀ place acts, place ≠ index → tasks[place]? = some acts →
    Safe uplink address acts ∧ .releaseExcludes ∉ acts

/-- One of them makes a step. -/
theorem Others.set (others : Others uplink address index tasks)
    (safe : Safe uplink address new) (quiet : .releaseExcludes ∉ new) (place : Nat) :
    Others uplink address index (tasks.set place new) := by
  intro other acts differs here
  rw [List.getElem?_set] at here
  split_ifs at here
  · cases here
    exact ⟨safe, quiet⟩
  · exact others other acts differs here

/-- The one makes a step. -/
theorem Others.set_self (others : Others uplink address index tasks) (new : List Act) :
    Others uplink address index (tasks.set index new) := by
  intro other acts differs here
  rw [List.getElem?_set_ne (Ne.symm differs)] at here
  exact others other acts differs here

/-- A call of `exclude_host_ip` begins. -/
theorem Others.begin (others : Others uplink address index tasks) (call : IpAddr) :
    Others uplink address index (tasks ++ [excludeHostIp call]) := by
  intro other acts differs here
  rcases List.mem_append.mp (List.mem_of_getElem? here) with old | last
  · rcases Nat.lt_or_ge other tasks.length with inside | outside
    · rw [List.getElem?_append_left inside] at here
      exact others other acts differs here
    · rw [List.getElem?_append_right outside, List.getElem?_singleton] at here
      split_ifs at here
      cases here
      refine ⟨safe_excludeHostIp call, ?_⟩
      cases call <;> simp [excludeHostIp]
  · rw [List.mem_singleton.mp last]
    refine ⟨safe_excludeHostIp call, ?_⟩
    cases call <;> simp [excludeHostIp]

/-- All calls are safe when that one is. -/
theorem Others.safe (others : Others uplink address index tasks)
    (safe : Safe uplink address new) :
    ∀ acts ∈ tasks.set index new, Safe uplink address acts := by
  intro acts member
  obtain ⟨place, here⟩ := List.mem_iff_getElem?.mp member
  by_cases same : place = index
  · rw [same, List.getElem?_set, if_pos rfl] at here
    split_ifs at here
    cases here
    exact safe
  · rw [List.getElem?_set_ne (Ne.symm same)] at here
    exact (others place acts same here).1

/-- A call is among the calls after its step. -/
theorem mem_set_of_here (here : tasks[place]? = some old) (new : List Act) :
    new ∈ tasks.set place new := by
  obtain ⟨inside, -⟩ := List.getElem?_eq_some_iff.mp here
  exact List.mem_set inside new

/-- What is true of a call is true of one after the step, or was of the one that made it. -/
theorem exists_set {kind : List Act → Prop} (here : tasks[place]? = some old)
    (some : ∃ acts ∈ tasks, kind acts) (new : List Act) :
    kind old ∨ ∃ acts ∈ tasks.set place new, kind acts := by
  obtain ⟨acts, member, found⟩ := some
  obtain ⟨other, there⟩ := List.mem_iff_getElem?.mp member
  by_cases same : place = other
  · rw [same, there] at here
    cases here
    exact .inl found
  · rw [← List.getElem?_set_ne same] at there
    exact .inr ⟨acts, List.mem_of_getElem? there, found⟩

end Tasks

section Address

variable (uplink : Uplink) (address : Ipv4Addr)

/-- The address is remembered, or a call gets to remember it. -/
def Wanted (pool : RoutePool) : Prop :=
  address ∈ pool.shared.dynamicExcludes ∨
    ∃ acts ∈ pool.tasks, reaches (Act.remembers address) acts = true

/-- The route to the address is there, or a call gets to add it. -/
def Certain (pool : RoutePool) : Prop :=
  (host address, uplink) ∈ pool.shared.table ∨
    ∃ acts ∈ pool.tasks, reaches (Act.adds uplink address) acts = true

/-- A call has a step to exclude the address. -/
def Pending (pool : RoutePool) : Prop :=
  ∃ acts ∈ pool.tasks, ∃ act ∈ acts, act.excludes uplink address = true

variable {uplink address} {world after : World} {tasks : List (List Act)} {place : Nat}
  {old new : List Act}

/-- A step keeps the address remembered, or the call that gets to remember it. -/
theorem Wanted.set (wanted : Wanted address ⟨world, tasks⟩) (here : tasks[place]? = some old)
    (keeps : address ∈ world.dynamicExcludes → address ∈ after.dynamicExcludes)
    (remembers : reaches (Act.remembers address) old = true →
      reaches (Act.remembers address) new = true ∨ address ∈ after.dynamicExcludes) :
    Wanted address ⟨after, tasks.set place new⟩ := by
  rcases wanted with member | some
  · exact .inl (keeps member)
  · rcases exists_set here some new with mine | other
    · rcases remembers mine with later | member
      · exact .inr ⟨new, mem_set_of_here here new, later⟩
      · exact .inl member
    · exact .inr other

/-- A step keeps the route, or the call that gets to add it. -/
theorem Certain.set (certain : Certain uplink address ⟨world, tasks⟩)
    (here : tasks[place]? = some old)
    (sure : Sure uplink address world old → Sure uplink address after new) :
    Certain uplink address ⟨after, tasks.set place new⟩ := by
  have mine (before : Sure uplink address world old) :
      Certain uplink address ⟨after, tasks.set place new⟩ :=
    (sure before).imp_right fun later => ⟨new, mem_set_of_here here new, later⟩
  rcases certain with inside | some
  · exact mine (.inl inside)
  · rcases exists_set here some new with adds | other
    · exact mine (.inr adds)
    · exact .inr other

/-- When another call begins, the address is still remembered. -/
theorem Wanted.begin (wanted : Wanted address ⟨world, tasks⟩) (call : List Act) :
    Wanted address ⟨world, tasks ++ [call]⟩ := by
  refine wanted.imp_right ?_
  rintro ⟨acts, member, found⟩
  exact ⟨acts, List.mem_append_left _ member, found⟩

/-- When another call begins, the route is still there. -/
theorem Certain.begin (certain : Certain uplink address ⟨world, tasks⟩) (call : List Act) :
    Certain uplink address ⟨world, tasks ++ [call]⟩ := by
  refine certain.imp_right ?_
  rintro ⟨acts, member, found⟩
  exact ⟨acts, List.mem_append_left _ member, found⟩

/-- A call for the address remembers it. -/
theorem wanted_begin : Wanted address ⟨world, tasks ++ [excludeHostIp (.v4 address)]⟩ := by
  refine .inr ⟨_, List.mem_append_right _ (List.mem_singleton.mpr rfl), ?_⟩
  simp [excludeHostIp, reaches, Act.remembers]

end Address

section Late

/-- The calls after a step of one of them. -/
abbrev Os.after (os : Os) (world : World) (tasks : List (List Act)) (place : Nat) (acts : List Act)
    (order : List Route) : RoutePool :=
  ⟨(os.next world acts order).1, tasks.set place (os.next world acts order).2.1⟩

/-- There is a gateway, all calls are safe, and what is remembered is excluded. -/
structure Late (uplink : Uplink) (address : Ipv4Addr) (pool : RoutePool) : Prop where
  /-- All calls are safe. -/
  safe : ∀ acts ∈ pool.tasks, Safe uplink address acts
  /-- There is a gateway. -/
  gateway : pool.shared.gatewayRoute = some uplink
  /-- The address has its route or will have it if it is remembered. -/
  kept : address ∈ pool.shared.dynamicExcludes →
    Certain uplink address pool ∨ ∃ acts ∈ pool.tasks, reaches Act.defers acts = true

variable {os : Os} {uplink : Uplink} {address : Ipv4Addr} {world : World}
  {tasks : List (List Act)} {place : Nat} {acts : List Act}

/-- A call of `exclude_host_ip` begins. -/
theorem Late.begin (late : Late uplink address ⟨world, tasks⟩) (call : IpAddr) :
    Late uplink address ⟨world, tasks ++ [excludeHostIp call]⟩ where
  safe acts member := by
    rcases List.mem_append.mp member with old | last
    · exact late.safe acts old
    · rw [List.mem_singleton.mp last]
      exact safe_excludeHostIp call
  gateway := late.gateway
  kept member := by
    refine (late.kept member).imp (fun certain => certain.begin _) ?_
    rintro ⟨acts, member, found⟩
    exact ⟨acts, List.mem_append_left _ member, found⟩

/-- A call makes a step. -/
theorem Late.step (late : Late uplink address ⟨world, tasks⟩) (here : tasks[place]? = some acts)
    (order : List Route) :
    Late uplink address (os.after world tasks place acts order) := by
  have safe : Safe uplink address acts := late.safe acts (List.mem_of_getElem? here)
  have goes := next_goes os (.inr late.gateway) safe order
  refine ⟨fun other member => ?_, goes.gateway.trans late.gateway, fun member => ?_⟩
  · rcases List.mem_or_eq_of_mem_set member with old | rfl
    · exact late.safe other old
    · exact goes.safe safe
  · have adds (found : reaches (Act.adds uplink address) (os.next world acts order).2.1 = true) :
        Certain uplink address (os.after world tasks place acts order) :=
      .inr ⟨_, mem_set_of_here here _, found⟩
    rcases goes.learned member with before | later
    · rcases late.kept before with certain | defers
      · exact .inl (certain.set here (goes.sure late.gateway))
      · rcases exists_set here defers (os.next world acts order).2.1 with mine | other
        · rcases goes.deferred mine before with defers | later
          · exact .inr ⟨_, mem_set_of_here here _, defers⟩
          · exact .inl (adds later)
        · exact .inr other
    · exact .inl (adds later)

/-- An address that is remembered or has its route keeps it. -/
theorem Late.keeps (late : Late uplink address ⟨world, tasks⟩) (here : tasks[place]? = some acts)
    (order : List Route)
    (known : Wanted address ⟨world, tasks⟩ ∨ Certain uplink address ⟨world, tasks⟩) :
    Wanted address (os.after world tasks place acts order) ∨
      Certain uplink address (os.after world tasks place acts order) := by
  have safe : Safe uplink address acts := late.safe acts (List.mem_of_getElem? here)
  have goes := next_goes os (.inr late.gateway) safe order
  rcases known with wanted | certain
  · exact .inl (wanted.set here goes.remembered goes.remembers)
  · exact .inr (certain.set here (goes.sure late.gateway))

/-- A call with a step to exclude the address gets to one. -/
theorem Late.known (late : Late uplink address ⟨world, tasks⟩)
    (pending : Pending uplink address ⟨world, tasks⟩) :
    Wanted address ⟨world, tasks⟩ ∨ Certain uplink address ⟨world, tasks⟩ := by
  obtain ⟨acts, member, act, inside, excludes⟩ := pending
  rcases reaches_of_safe (late.safe acts member) inside excludes with remembers | adds
  · exact .inl (.inr ⟨acts, member, remembers⟩)
  · exact .inr (.inr ⟨acts, member, adds⟩)

end Late

section Phases

/-- What `apply_tunconf` of Windows does when the loop is over. -/
def TunConf.restore (conf : TunConf) : List Act :=
  vkExcludeCidrs.map (Act.add · conf.uplink) ++
    [.defer (some conf.uplink), .holdCleanup, .clear] ++
      (halfNets ++ vkExcludeCidrs).map .note ++
        conf.dnsExcludes.flatMap (fun server => [.add (host server) conf.uplink,
          .note (host server)]) ++ [.releaseCleanup]

/-- What `apply_tunconf` does when it has deleted what may be stale. -/
def Os.interception (os : Os) (conf : TunConf) : List Act :=
  match os with
  | .windows => .drain :: conf.restore
  | .linux => vkExcludeCidrs.flatMap (Os.linux.exclude conf.uplink) ++ [.defer none]

/-- What it deletes before. -/
def Os.stale (os : Os) (conf : TunConf) : List Route :=
  match os with
  | .windows => conf.staleRoutes
  | .linux => [host conf.peer]

/-- The parts of `apply_tunconf`. -/
theorem applyTunconf_eq (os : Os) (conf : TunConf) :
    os.applyTunconf conf =
      .takeOver conf.uplink :: ((os.stale conf).map .delete ++ os.interception conf) := by
  cases os with
  | windows =>
    simp only [Os.applyTunconf, applyTunconfWindows, Os.stale, Os.interception, TunConf.restore,
      List.append_assoc, List.cons_append, List.nil_append]
  | linux => rfl

/-- What follows the loop is safe, and does not hold the lock. -/
theorem safe_restore (conf : TunConf) (address : Ipv4Addr) :
    Safe conf.uplink address conf.restore ∧ .releaseExcludes ∉ conf.restore := by
  have last : Safe conf.uplink address [] := trivial
  constructor
  · rw [← List.append_nil conf.restore]
    refine safe_append (fun act member rest => ?_) last
    simp only [TunConf.restore, List.mem_append, List.mem_map, List.mem_flatMap, List.mem_cons,
      List.not_mem_nil, or_false] at member
    rcases member with (((⟨route, -, rfl⟩ | rfl | rfl | rfl) | ⟨route, -, rfl⟩) |
      ⟨server, -, rfl | rfl⟩) | rfl
    · trivial
    · exact rfl
    all_goals trivial
  · simp [TunConf.restore]

/-- The interception of Linux is safe. -/
theorem safe_linux (conf : TunConf) (address : Ipv4Addr) :
    Safe conf.uplink address (Os.linux.interception conf) := by
  have last : Safe conf.uplink address [.defer none] := ⟨rfl, trivial⟩
  exact safe_exclude .linux vkExcludeCidrs last

/-- The lock is not held before the loop. -/
theorem quiet_interception (os : Os) (conf : TunConf) :
    .releaseExcludes ∉ os.interception conf := by
  cases os with
  | windows =>
    intro member
    rcases List.mem_cons.mp member with same | later
    · cases same
    · exact (safe_restore conf 0).2 later
  | linux =>
    intro member
    rcases List.mem_append.mp member with inside | last
    · obtain ⟨route, -, made⟩ := List.mem_flatMap.mp inside
      simp [Os.exclude] at made
    · simp at last

variable (os : Os) (conf : TunConf) (address : Ipv4Addr) (index : Nat)

/-- `apply_tunconf` has something stale to delete, or is before the loop. -/
structure Early (pool : RoutePool) : Prop where
  /-- The other calls are safe. -/
  others : Others conf.uplink address index pool.tasks
  /-- An address is remembered once. -/
  nodup : pool.shared.dynamicExcludes.Nodup
  /-- Where `apply_tunconf` is. -/
  apply : ∃ stale : List Route, (os = .linux → stale ≠ []) ∧
    (pool.shared.gatewayRoute = none ∧ pool.tasks[index]? =
        some (.takeOver conf.uplink :: (stale.map .delete ++ os.interception conf)) ∨
      pool.shared.gatewayRoute = some conf.uplink ∧
        pool.tasks[index]? = some (stale.map .delete ++ os.interception conf))

/-- `apply_tunconf` is in the loop, and is still to delete the route. -/
structure Draining (pool : RoutePool) : Prop where
  /-- The other calls are safe. -/
  others : Others conf.uplink address index pool.tasks
  /-- There is a gateway. -/
  gateway : pool.shared.gatewayRoute = some conf.uplink
  /-- The lock is held. -/
  held : pool.shared.excludesHeld = true
  /-- Nothing is remembered. -/
  empty : pool.shared.dynamicExcludes = []
  /-- Where `apply_tunconf` is. -/
  apply : ∃ stale : List Route, stale.Nodup ∧ host address ∈ stale ∧
    pool.tasks[index]? = some (stale.map .delete ++ .releaseExcludes :: conf.restore)

variable {os conf address index} {world : World} {tasks : List (List Act)}

/-- Another call makes a step before the loop. -/
theorem Early.other (early : Early os conf address index ⟨world, tasks⟩) {place : Nat}
    {acts : List Act} (differs : place ≠ index) (here : tasks[place]? = some acts)
    (order : List Route) :
    Early os conf address index (os.after world tasks place acts order) ∧
      (Wanted address ⟨world, tasks⟩ →
        Wanted address (os.after world tasks place acts order)) := by
  obtain ⟨safe, quiet⟩ := early.others place acts differs here
  obtain ⟨stale, linux, position⟩ := early.apply
  have gateway : world.gatewayRoute = none ∨ world.gatewayRoute = some conf.uplink :=
    position.imp And.left And.left
  have goes := next_goes os gateway safe order
  refine ⟨⟨early.others.set (goes.safe safe) (goes.quiet quiet) place, goes.nodup early.nodup,
    stale, linux, ?_⟩, fun wanted => wanted.set here goes.remembered goes.remembers⟩
  rw [goes.gateway, List.getElem?_set_ne differs]
  exact position

/-- The rest of the loop is safe when it does not delete the route. -/
theorem safe_loop {routes : List Route} (other : host address ∉ routes) :
    Safe conf.uplink address (routes.map .delete ++ .releaseExcludes :: conf.restore) := by
  have back : Safe conf.uplink address (.releaseExcludes :: conf.restore) :=
    ⟨trivial, (safe_restore conf address).1⟩
  refine safe_append (fun act member rest => ?_) back
  obtain ⟨route, inside, rfl⟩ := List.mem_map.mp member
  exact fun same => absurd (same ▸ inside) other

/-- Where a call is after its step. -/
theorem getElem?_after {place : Nat} {acts : List Act} (here : tasks[place]? = some acts)
    (new : List Act) : (tasks.set place new)[place]? = some new := by
  obtain ⟨inside, -⟩ := List.getElem?_eq_some_iff.mp here
  exact List.getElem?_set_self inside

/-- The loop begins, or waits for the lock. -/
theorem Early.drain (early : Early .windows conf address index ⟨world, tasks⟩)
    (gateway : world.gatewayRoute = some conf.uplink)
    (here : tasks[index]? = some (.drain :: conf.restore)) (order : List Route) :
    (Early .windows conf address index
          (Os.windows.after world tasks index (.drain :: conf.restore) order) ∨
        Late conf.uplink address
          (Os.windows.after world tasks index (.drain :: conf.restore) order)) ∧
      (Wanted address ⟨world, tasks⟩ →
        Wanted address (Os.windows.after world tasks index (.drain :: conf.restore) order)) ∨
      Draining conf address index
        (Os.windows.after world tasks index (.drain :: conf.restore) order) := by
  cases held : world.excludesHeld with
  | true =>
    have waits : Os.windows.after world tasks index (.drain :: conf.restore) order =
        ⟨world, tasks⟩ := by
      obtain ⟨inside, same⟩ := List.getElem?_eq_some_iff.mp here
      simp only [Os.after, Os.next, held, ↓reduceIte]
      rw [← same, List.set_getElem_self]
    rw [waits]
    exact .inl ⟨.inl early, id⟩
  | false =>
    let pending := arranged order (world.dynamicExcludes.map host)
    have begins : Os.windows.after world tasks index (.drain :: conf.restore) order =
        ⟨{ world with dynamicExcludes := [], excludesHeld := true },
          tasks.set index (pending.map .delete ++ .releaseExcludes :: conf.restore)⟩ := by
      simp [Os.after, Os.next, held, pending]
    have single : pending.Nodup := by
      have mapped := List.Nodup.map host_injective early.nodup
      dsimp only [pending, arranged]
      split_ifs with same
      · exact same.nodup_iff.mpr mapped
      · exact mapped
    rw [begins]
    by_cases member : address ∈ world.dynamicExcludes
    · exact .inr ⟨early.others.set_self _, gateway, rfl, rfl, pending, single,
        (mem_pending order _ address).mpr member, getElem?_after here _⟩
    · have missing : host address ∉ pending :=
        fun inside => member ((mem_pending order _ address).mp inside)
      refine .inl ⟨.inr ⟨early.others.safe (safe_loop missing), gateway,
        fun inside => absurd inside List.not_mem_nil⟩, fun wanted => ?_⟩
      refine wanted.set here (fun inside => absurd inside member) fun found => .inl ?_
      exact reaches_append_right (delete_goes pending) (reaches_cons rfl (reaches_rest rfl found).2)

/-- Where a call is after another one has begun. -/
theorem getElem?_begin {place : Nat} {acts : List Act} (here : tasks[place]? = some acts)
    (call : List Act) : (tasks ++ [call])[place]? = some acts := by
  obtain ⟨inside, -⟩ := List.getElem?_eq_some_iff.mp here
  rw [List.getElem?_append_left inside]
  exact here

/-- `apply_tunconf` makes a step before the loop, or begins it. -/
theorem Early.own (early : Early os conf address index ⟨world, tasks⟩) {acts : List Act}
    (here : tasks[index]? = some acts) (order : List Route) :
    (Early os conf address index (os.after world tasks index acts order) ∨
        Late conf.uplink address (os.after world tasks index acts order)) ∧
      (Wanted address ⟨world, tasks⟩ → Wanted address (os.after world tasks index acts order)) ∨
      os = .windows ∧ Draining conf address index (os.after world tasks index acts order) := by
  obtain ⟨stale, linux, ⟨-, position⟩ | ⟨gateway, position⟩⟩ := early.apply
  · cases here.symm.trans position
    refine .inl ⟨.inl ⟨early.others.set_self _, early.nodup, stale, linux,
      .inr ⟨rfl, getElem?_after here _⟩⟩, fun wanted => ?_⟩
    exact wanted.set here id fun found => .inl (reaches_rest rfl found).2
  · cases stale with
    | cons route stale =>
      cases here.symm.trans position
      refine .inl ⟨?_, fun wanted =>
        wanted.set here id fun found => .inl (reaches_rest rfl found).2⟩
      by_cases last : os = .linux ∧ stale = []
      · obtain ⟨rfl, rfl⟩ := last
        refine .inr ⟨early.others.safe (safe_linux conf address), gateway, fun _ => .inr ?_⟩
        have defers : reaches Act.defers (Os.linux.interception conf) = true :=
          reaches_append_right (exclude_goes .linux conf.uplink vkExcludeCidrs) rfl
        exact ⟨_, mem_set_of_here here _, defers⟩
      · refine .inl ⟨early.others.set_self _, early.nodup, stale, fun same => ?_,
          .inr ⟨gateway, getElem?_after here _⟩⟩
        exact fun empty => last ⟨same, empty⟩
    | nil =>
      cases os with
      | linux => exact absurd rfl (linux rfl)
      | windows =>
        cases here.symm.trans position
        exact (early.drain gateway here order).imp_right fun draining => ⟨rfl, draining⟩

/-- Another call makes a step during the loop. -/
theorem Draining.other (draining : Draining conf address index ⟨world, tasks⟩) {place : Nat}
    {acts : List Act} (differs : place ≠ index) (here : tasks[place]? = some acts)
    (order : List Route) :
    Draining conf address index (os.after world tasks place acts order) := by
  obtain ⟨safe, quiet⟩ := draining.others place acts differs here
  obtain ⟨stale, nodup, inside, position⟩ := draining.apply
  have goes := next_goes os (.inr draining.gateway) safe order
  obtain ⟨held, same⟩ := goes.held draining.held quiet
  refine ⟨draining.others.set (goes.safe safe) (goes.quiet quiet) place,
    goes.gateway.trans draining.gateway, held, same.trans draining.empty, stale, nodup, inside, ?_⟩
  rw [List.getElem?_set_ne differs]
  exact position

/-- The loop deletes another route. -/
theorem Draining.own (draining : Draining conf address index ⟨world, tasks⟩) {route : Route}
    {rest : List Act} (here : tasks[index]? = some (.delete route :: rest))
    (order : List Route) (other : route ≠ host address) :
    Draining conf address index (os.after world tasks index (.delete route :: rest) order) := by
  obtain ⟨stale, nodup, inside, position⟩ := draining.apply
  cases stale with
  | nil => cases inside
  | cons first stale =>
    cases here.symm.trans position
    have later : host address ∈ stale :=
      (List.mem_cons.mp inside).resolve_left (Ne.symm other)
    exact ⟨draining.others.set_self _, draining.gateway, draining.held, draining.empty, stale,
      (List.nodup_cons.mp nodup).2, later, getElem?_after here _⟩

/-- The loop deletes the route. -/
theorem Draining.dropped (os : Os) (draining : Draining conf address index ⟨world, tasks⟩)
    {rest : List Act} (here : tasks[index]? = some (.delete (host address) :: rest))
    (order : List Route) :
    Late conf.uplink address (os.after world tasks index (.delete (host address) :: rest) order) ∧
      Lost conf.uplink address
        (os.after world tasks index (.delete (host address) :: rest) order).shared := by
  obtain ⟨stale, nodup, inside, position⟩ := draining.apply
  have forgotten : address ∉ world.dynamicExcludes := by
    rw [show world.dynamicExcludes = [] from draining.empty]
    exact List.not_mem_nil
  cases stale with
  | nil => cases inside
  | cons first stale =>
    cases here.symm.trans position
    have missing : host address ∉ stale := (List.nodup_cons.mp nodup).1
    refine ⟨⟨draining.others.safe (safe_loop missing), draining.gateway,
      fun member => absurd member forgotten⟩, forgotten, fun left => ?_⟩
    exact absurd rfl (of_decide_eq_true (List.mem_filter.mp left).2)

/-- A step that deletes excludes nothing, and leaves all other steps. -/
theorem pending_delete {index : Nat} {route : Route} {rest : List Act}
    (here : tasks[index]? = some (.delete route :: rest)) (order : List Route) :
    Pending conf.uplink address (os.after world tasks index (.delete route :: rest) order) ↔
      Pending conf.uplink address ⟨world, tasks⟩ := by
  constructor
  · rintro ⟨acts, member, act, inside, excludes⟩
    rcases List.mem_or_eq_of_mem_set member with old | rfl
    · exact ⟨acts, old, act, inside, excludes⟩
    · exact ⟨_, List.mem_of_getElem? here, act, List.mem_cons_of_mem _ inside, excludes⟩
  · intro pending
    rcases exists_set here pending rest with ⟨act, inside, excludes⟩ | other
    · rcases List.mem_cons.mp inside with rfl | later
      · cases excludes
      · exact ⟨rest, mem_set_of_here here rest, act, later, excludes⟩
    · exact other

/-- A call of `exclude_host_ip` begins before the loop. -/
theorem Early.begin (early : Early os conf address index ⟨world, tasks⟩) (call : IpAddr) :
    Early os conf address index ⟨world, tasks ++ [excludeHostIp call]⟩ := by
  obtain ⟨stale, linux, position⟩ := early.apply
  refine ⟨early.others.begin call, early.nodup, stale, linux, ?_⟩
  exact position.imp (fun here => ⟨here.1, getElem?_begin here.2 _⟩)
    fun here => ⟨here.1, getElem?_begin here.2 _⟩

/-- A call of `exclude_host_ip` begins during the loop. -/
theorem Draining.begin (draining : Draining conf address index ⟨world, tasks⟩) (call : IpAddr) :
    Draining conf address index ⟨world, tasks ++ [excludeHostIp call]⟩ := by
  obtain ⟨stale, nodup, inside, position⟩ := draining.apply
  exact ⟨draining.others.begin call, draining.gateway, draining.held, draining.empty, stale, nodup,
    inside, getElem?_begin position _⟩

end Phases

end Focsq.TunRoutes
