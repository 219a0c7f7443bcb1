import Focsq.Verif.UplinkRoutes

/-!
# The steps that exclude an address

What a step of a call does to the route of one address, once nothing deletes this route without
adding it again. `Safe` says this of the steps that a call has before it, `Goes` is what one of them
can do, and the lemmas after it say what stays true of the address.
-/

namespace Focsq.TunRoutes

section Kinds

/-- Whether a step adds the route to the address, when there is a gateway. -/
def Act.adds (uplink : Uplink) (address : Ipv4Addr) : Act → Bool
  | .add route via => route = host address ∧ via = uplink
  | .readGateway routes => host address ∈ routes
  | _ => false

/-- Whether a step remembers the address. -/
def Act.remembers (address : Ipv4Addr) : Act → Bool
  | .remember other => other = address
  | _ => false

/-- Whether a step adds the route of everything that is remembered. -/
def Act.defers : Act → Bool
  | .defer _ => true
  | _ => false

/-- Whether the steps after this one fit it: what a call returns at is the last of its steps, and the
route to the address is only deleted to be added next. -/
def Act.Fits (uplink : Uplink) (address : Ipv4Addr) (rest : List Act) : Act → Prop
  | .remember other => rest = [.readGateway [host other]]
  | .readGateway _ | .defer none => rest = []
  | .defer (some via) => via = uplink
  | .delete route => route = host address → rest.head? = some (.add (host address) uplink)
  | .takeOver _ | .drain | .takeRoutes | .forgetGateway | .clearExcludes => False
  | _ => True

/-- Every step of the call fits those after it. -/
def Safe (uplink : Uplink) (address : Ipv4Addr) : List Act → Prop
  | [] => True
  | act :: rest => act.Fits uplink address rest ∧ Safe uplink address rest

/-- Different hosts have different routes. -/
theorem host_injective : Function.Injective host :=
  fun _ _ same => (Route.mk.inj same).1

variable {uplink : Uplink} {address : Ipv4Addr}

/-- Steps that fit anything may come first. -/
theorem safe_append {front back : List Act}
    (fits : ∀ act ∈ front, ∀ rest, act.Fits uplink address rest) (safe : Safe uplink address back) :
    Safe uplink address (front ++ back) := by
  induction front with
  | nil => exact safe
  | cons act rest ih =>
    obtain ⟨first, others⟩ := List.forall_mem_cons.mp fits
    exact ⟨first _, ih others⟩

/-- Routes are excluded one by one. -/
theorem safe_exclude (os : Os) (routes : List Route) {back : List Act}
    (safe : Safe uplink address back) :
    Safe uplink address (routes.flatMap (os.exclude uplink) ++ back) := by
  induction routes with
  | nil => exact safe
  | cons route routes ih =>
    rw [List.flatMap_cons, List.append_assoc]
    cases os with
    | windows => exact ⟨trivial, trivial, ih⟩
    | linux => exact ⟨fun same => same ▸ rfl, trivial, trivial, ih⟩

/-- A route among those that are excluded is added. -/
theorem reaches_exclude (os : Os) {routes : List Route} (member : host address ∈ routes)
    (back : List Act) :
    reaches (Act.adds uplink address) (routes.flatMap (os.exclude uplink) ++ back) = true := by
  have inside : .add (host address) uplink ∈ routes.flatMap (os.exclude uplink) := by
    refine List.mem_flatMap.mpr ⟨_, member, ?_⟩
    cases os <;> simp [Os.exclude]
  have found : reaches (Act.adds uplink address) (routes.flatMap (os.exclude uplink)) = true :=
    reaches_of_mem (exclude_goes os uplink routes) inside (decide_eq_true ⟨rfl, rfl⟩)
  exact reaches_append_left found back

/-- A call of `exclude_host_ip` is safe. -/
theorem safe_excludeHostIp (call : IpAddr) : Safe uplink address (excludeHostIp call) := by
  cases call with
  | v4 other => exact ⟨rfl, rfl, trivial⟩
  | v6 => trivial

end Kinds

section Goes

/-- What a step of such a call can do. -/
inductive Goes (os : Os) (uplink : Uplink) (address : Ipv4Addr) (world : World) :
    List Act → World → List Act → Prop where
  /-- The call has finished, or it waits for a lock. -/
  | stay (acts : List Act) : Goes os uplink address world acts world acts
  /-- The address is remembered already. -/
  | known (other : Ipv4Addr) (rest : List Act) (known : other ∈ world.dynamicExcludes) :
    Goes os uplink address world (.remember other :: rest) world []
  /-- The address is new. -/
  | learn (other : Ipv4Addr) (free : world.excludesHeld = false)
      (new : other ∉ world.dynamicExcludes) :
    Goes os uplink address world (excludeHostIp (.v4 other))
      { world with dynamicExcludes := other :: world.dynamicExcludes } [.readGateway [host other]]
  /-- There is no gateway yet. -/
  | early (routes : List Route) (rest : List Act) (without : world.gatewayRoute = none) :
    Goes os uplink address world (.readGateway routes :: rest) world []
  /-- There is one. -/
  | read (routes : List Route) :
    Goes os uplink address world [.readGateway routes] world (routes.flatMap (os.exclude uplink))
  /-- A route is deleted. -/
  | delete (route : Route) (rest : List Act)
      (fits : route = host address → rest.head? = some (.add (host address) uplink)) :
    Goes os uplink address world (.delete route :: rest)
      { world with table := world.table.filter fun entry => entry.1 ≠ route } rest
  /-- A route is added. -/
  | add (route : Route) (via : Uplink) (rest : List Act) :
    Goes os uplink address world (.add route via :: rest)
      { world with
        table := (route, via) :: world.table, added := (route, via) :: world.added } rest
  /-- What is remembered is excluded. -/
  | defer (pending : List Route) (rest : List Act)
      (same : ∀ other, host other ∈ pending ↔ other ∈ world.dynamicExcludes) :
    Goes os uplink address world (.defer (some uplink) :: rest) world
      (pending.flatMap (os.exclude uplink) ++ rest)
  /-- What is remembered is read before the gateway. -/
  | wait (pending : List Route)
      (same : ∀ other, host other ∈ pending ↔ other ∈ world.dynamicExcludes) :
    Goes os uplink address world [.defer none] world [.readGateway pending]
  /-- The step is about something else. -/
  | pass (act : Act) (rest : List Act) (after : World) (checks : act.checks = false)
      (defers : act.defers = false) (adds : act.adds uplink address = false)
      (table : after.table = world.table) (excludes : after.dynamicExcludes = world.dynamicExcludes)
      (gateway : after.gatewayRoute = world.gatewayRoute)
      (held : act ≠ .releaseExcludes → after.excludesHeld = world.excludesHeld) :
    Goes os uplink address world (act :: rest) after rest

variable {os : Os} {uplink : Uplink} {address : Ipv4Addr} {world after : World}
  {acts rest : List Act}

/-- The routes that are deferred are those of the addresses that are remembered. -/
theorem mem_pending (order : List Route) (addresses : List Ipv4Addr) (other : Ipv4Addr) :
    host other ∈ arranged order (addresses.map host) ↔ other ∈ addresses := by
  rw [mem_arranged, List.mem_map_of_injective host_injective]

/-- A step does one of these. -/
theorem next_goes (os : Os)
    (gateway : world.gatewayRoute = none ∨ world.gatewayRoute = some uplink)
    (safe : Safe uplink address acts) (order : List Route) :
    Goes os uplink address world acts (os.next world acts order).1
      (os.next world acts order).2.1 := by
  cases acts with
  | nil => exact .stay []
  | cons act rest =>
    have fits := safe.1
    cases act with
    | remember other =>
      simp only [Os.next]
      split_ifs with held member
      · exact .stay _
      · exact .known other rest member
      · rw [show rest = _ from fits]
        exact .learn other (Bool.eq_false_iff.mpr held) member
    | readGateway routes =>
      rw [show rest = _ from fits]
      rcases gateway with none | some
      · simp only [Os.next, none]
        exact .early routes [] none
      · simp only [Os.next, some, List.append_nil]
        exact .read routes
    | delete route => exact .delete route rest fits
    | add route via => exact .add route via rest
    | defer via =>
      simp only [Os.next]
      split_ifs with held
      · exact .stay _
      · cases via with
        | none =>
          rw [show rest = _ from fits]
          exact .wait _ (mem_pending order world.dynamicExcludes)
        | some via =>
          rw [show via = uplink from fits]
          exact .defer _ rest (mem_pending order world.dynamicExcludes)
    | record route | holdCleanup =>
      simp only [Os.next]
      split_ifs with held
      · exact .stay _
      · exact .pass _ rest _ rfl rfl rfl rfl rfl rfl fun _ => rfl
    | clear | note route | releaseCleanup =>
      exact .pass _ rest _ rfl rfl rfl rfl rfl rfl fun _ => rfl
    | releaseExcludes =>
      exact .pass _ rest _ rfl rfl rfl rfl rfl rfl fun other => absurd rfl other
    | takeOver via | drain | takeRoutes | forgetGateway | clearExcludes => cases fits

/-- What is left of a safe call is safe. -/
theorem Goes.safe (goes : Goes os uplink address world acts after rest)
    (safe : Safe uplink address acts) : Safe uplink address rest := by
  cases goes with
  | stay => exact safe
  | known | early => trivial
  | learn => exact ⟨rfl, trivial⟩
  | read routes =>
    have last : Safe uplink address [] := trivial
    simpa using safe_exclude os routes last
  | defer pending rest => exact safe_exclude os pending safe.2
  | wait => exact ⟨rfl, trivial⟩
  | delete | add | pass => exact safe.2

/-- The gateway stays. -/
theorem Goes.gateway (goes : Goes os uplink address world acts after rest) :
    after.gatewayRoute = world.gatewayRoute := by
  cases goes with
  | pass _ _ _ _ _ _ _ _ gateway => exact gateway
  | _ => rfl

/-- What is remembered stays remembered. -/
theorem Goes.remembered (goes : Goes os uplink address world acts after rest) {other : Ipv4Addr}
    (member : other ∈ world.dynamicExcludes) : other ∈ after.dynamicExcludes := by
  cases goes with
  | learn => exact List.mem_cons_of_mem _ member
  | pass _ _ _ _ _ _ _ excludes => rwa [excludes]
  | _ => exact member

/-- An address is remembered once. -/
theorem Goes.nodup (goes : Goes os uplink address world acts after rest)
    (nodup : world.dynamicExcludes.Nodup) : after.dynamicExcludes.Nodup := by
  cases goes with
  | learn _ _ new => exact List.nodup_cons.mpr ⟨new, nodup⟩
  | pass _ _ _ _ _ _ _ excludes => rwa [excludes]
  | _ => exact nodup

/-- Nothing is remembered while the lock is held, and only a call that has taken it gives it back. -/
theorem Goes.held (goes : Goes os uplink address world acts after rest)
    (held : world.excludesHeld = true) (quiet : .releaseExcludes ∉ acts) :
    after.excludesHeld = true ∧ after.dynamicExcludes = world.dynamicExcludes := by
  cases goes with
  | learn _ free => exact absurd (held.symm.trans free) (by decide)
  | pass act rest _ _ _ _ _ excludes _ same =>
    have other : act ≠ .releaseExcludes := fun equal => quiet (equal ▸ List.mem_cons_self)
    exact ⟨(same other).trans held, excludes⟩
  | _ => exact ⟨held, rfl⟩

/-- No call takes the lock. -/
theorem Goes.quiet (goes : Goes os uplink address world acts after rest)
    (quiet : .releaseExcludes ∉ acts) : .releaseExcludes ∉ rest := by
  have excludes (routes : List Route) :
      .releaseExcludes ∉ routes.flatMap (os.exclude uplink) := by
    intro member
    obtain ⟨route, -, inside⟩ := List.mem_flatMap.mp member
    cases os <;> simp [Os.exclude] at inside
  have tail {act : Act} {rest : List Act} (quiet : .releaseExcludes ∉ act :: rest) :
      .releaseExcludes ∉ rest :=
    fun member => quiet (List.mem_cons_of_mem _ member)
  cases goes with
  | stay => exact quiet
  | known | early => exact List.not_mem_nil
  | learn | wait => simp
  | read routes => exact excludes routes
  | defer pending rest =>
    intro member
    rcases List.mem_append.mp member with inside | later
    · exact excludes pending inside
    · exact tail quiet later
  | delete | add | pass => exact tail quiet

/-- The call gets to add the route, or it is there. -/
def Sure (uplink : Uplink) (address : Ipv4Addr) (world : World) (acts : List Act) : Prop :=
  (host address, uplink) ∈ world.table ∨ reaches (Act.adds uplink address) acts = true

/-- A route that is there or that the call gets to add is not lost. -/
theorem Goes.sure (goes : Goes os uplink address world acts after rest)
    (gateway : world.gatewayRoute = some uplink) (sure : Sure uplink address world acts) :
    Sure uplink address after rest := by
  cases goes with
  | stay => exact sure
  | known | learn => exact .inl (sure.resolve_right (not_reaches_cons rfl rfl))
  | early _ _ without => exact absurd (gateway.symm.trans without) (by simp)
  | read routes =>
    refine sure.imp_right fun found => ?_
    have member : host address ∈ routes := by
      rcases of_reaches_cons found with here | ⟨goes, -⟩
      · exact of_decide_eq_true here
      · cases goes
    rw [← List.append_nil (routes.flatMap (os.exclude uplink))]
    exact reaches_exclude os member []
  | delete route rest fits =>
    by_cases same : route = host address
    · cases rest with
      | nil => exact absurd (fits same) (by simp)
      | cons next later =>
        cases Option.some.inj (fits same)
        exact .inr (by simp [reaches, Act.adds])
    · rcases sure with inside | found
      · exact .inl (List.mem_filter.mpr ⟨inside, decide_eq_true (Ne.symm same)⟩)
      · exact .inr (reaches_rest rfl found).2
  | add route via rest =>
    rcases sure with inside | found
    · exact .inl (List.mem_cons_of_mem _ inside)
    · rcases of_reaches_cons found with here | ⟨-, later⟩
      · obtain ⟨rfl, rfl⟩ := of_decide_eq_true here
        exact .inl List.mem_cons_self
      · exact .inr later
  | defer pending rest =>
    refine sure.imp_right fun found => ?_
    exact reaches_append_right (exclude_goes os uplink pending) (reaches_rest rfl found).2
  | wait pending => exact .inl (sure.resolve_right (not_reaches_cons rfl rfl))
  | pass act rest _ _ _ adds table =>
    exact sure.imp (fun inside => table ▸ inside) fun found => (reaches_rest adds found).2

/-- A call that gets to exclude what is remembered adds the route, if the address is. -/
theorem Goes.deferred (goes : Goes os uplink address world acts after rest)
    (found : reaches Act.defers acts = true) (member : address ∈ world.dynamicExcludes) :
    reaches Act.defers rest = true ∨ reaches (Act.adds uplink address) rest = true := by
  cases goes with
  | stay => exact .inl found
  | known | learn | early | read => exact absurd found (not_reaches_cons rfl rfl)
  | delete | add => exact .inl (reaches_rest rfl found).2
  | defer pending rest same => exact .inr (reaches_exclude os ((same address).mpr member) rest)
  | wait pending same =>
    have inside : host address ∈ pending := (same address).mpr member
    exact .inr (by simp [reaches, Act.adds, inside])
  | pass act rest _ _ defers => exact .inl (reaches_rest defers found).2

/-- An address that is remembered was, or the call gets to add its route. -/
theorem Goes.learned (goes : Goes os uplink address world acts after rest)
    (member : address ∈ after.dynamicExcludes) :
    address ∈ world.dynamicExcludes ∨ reaches (Act.adds uplink address) rest = true := by
  cases goes with
  | learn other =>
    rcases List.mem_cons.mp member with rfl | old
    · exact .inr (by simp [reaches, Act.adds])
    · exact .inl old
  | pass _ _ _ _ _ _ _ excludes => exact .inl (excludes ▸ member)
  | _ => exact .inl member

/-- A call that gets to remember the address does so, or waits. -/
theorem Goes.remembers (goes : Goes os uplink address world acts after rest)
    (found : reaches (Act.remembers address) acts = true) :
    reaches (Act.remembers address) rest = true ∨ address ∈ after.dynamicExcludes := by
  cases goes with
  | stay => exact .inl found
  | known other rest known =>
    rcases of_reaches_cons found with here | ⟨goes, -⟩
    · exact .inr (of_decide_eq_true here ▸ known)
    · cases goes
  | learn other =>
    rcases of_reaches_cons found with here | ⟨goes, -⟩
    · exact .inr (of_decide_eq_true here ▸ List.mem_cons_self)
    · cases goes
  | early | read | wait => exact absurd found (not_reaches_cons rfl rfl)
  | delete | add => exact .inl (reaches_rest rfl found).2
  | defer pending rest =>
    exact .inl (reaches_append_right (exclude_goes os uplink pending) (reaches_rest rfl found).2)
  | pass act rest _ checks =>
    have other : act.remembers address = false := by
      cases act <;> first | rfl | cases checks
    exact .inl (reaches_rest other found).2

/-- Whether a step is to exclude the address. -/
def Act.excludes (uplink : Uplink) (address : Ipv4Addr) (act : Act) : Bool :=
  act.remembers address || act.adds uplink address

/-- Nothing is to exclude the address, and its route is not there. -/
structure Lost (uplink : Uplink) (address : Ipv4Addr) (world : World) : Prop where
  /-- It is not remembered. -/
  forgotten : address ∉ world.dynamicExcludes
  /-- Its route is not there. -/
  missing : (host address, uplink) ∉ world.table

/-- An address that is lost stays so. -/
theorem Goes.lost (goes : Goes os uplink address world acts after rest)
    (lost : Lost uplink address world)
    (none : ∀ act ∈ acts, act.excludes uplink address = false) :
    Lost uplink address after ∧ ∀ act ∈ rest, act.excludes uplink address = false := by
  have tail {first : Act} {rest : List Act}
      (none : ∀ act ∈ first :: rest, act.excludes uplink address = false) :
      ∀ act ∈ rest, act.excludes uplink address = false :=
    fun act member => none act (List.mem_cons_of_mem _ member)
  have others {routes : List Route} (missing : host address ∉ routes) :
      ∀ act ∈ routes.flatMap (os.exclude uplink), act.excludes uplink address = false := by
    intro act member
    obtain ⟨route, inside, made⟩ := List.mem_flatMap.mp member
    have differs : route ≠ host address := fun same => missing (same ▸ inside)
    cases os <;> simp only [Os.exclude, List.mem_cons, List.not_mem_nil, or_false] at made
    · rcases made with rfl | rfl <;> simp [Act.excludes, Act.remembers, Act.adds, differs]
    · rcases made with rfl | rfl | rfl <;> simp [Act.excludes, Act.remembers, Act.adds, differs]
  cases goes with
  | stay => exact ⟨lost, none⟩
  | known | early => exact ⟨lost, fun _ member => absurd member List.not_mem_nil⟩
  | learn other =>
    have first := none (.remember other) List.mem_cons_self
    have differs : other ≠ address := by
      rintro rfl
      simp [Act.excludes, Act.remembers] at first
    refine ⟨⟨fun member => ?_, lost.missing⟩, tail none⟩
    rcases List.mem_cons.mp member with same | old
    · exact differs same.symm
    · exact lost.forgotten old
  | read routes =>
    have first := none (.readGateway routes) List.mem_cons_self
    refine ⟨lost, others fun inside => ?_⟩
    simp [Act.excludes, Act.adds, inside] at first
  | delete route rest =>
    refine ⟨⟨lost.forgotten, fun inside => ?_⟩, tail none⟩
    exact lost.missing (List.mem_of_mem_filter inside)
  | add route via rest =>
    have first := none (.add route via) List.mem_cons_self
    refine ⟨⟨lost.forgotten, fun inside => ?_⟩, tail none⟩
    rcases List.mem_cons.mp inside with same | old
    · cases same
      simp [Act.excludes, Act.adds] at first
    · exact lost.missing old
  | defer pending rest same =>
    refine ⟨lost, fun act member => ?_⟩
    rcases List.mem_append.mp member with inside | later
    · exact others (fun listed => lost.forgotten ((same address).mp listed)) act inside
    · exact tail none act later
  | wait pending same =>
    refine ⟨lost, List.forall_mem_singleton.mpr ?_⟩
    have missing : host address ∉ pending := fun listed => lost.forgotten ((same address).mp listed)
    simp [Act.excludes, Act.remembers, Act.adds, missing]
  | pass act rest _ _ _ _ table excludes =>
    exact ⟨⟨excludes ▸ lost.forgotten, table ▸ lost.missing⟩, tail none⟩

/-- A safe call that has a step to exclude the address gets to one. -/
theorem reaches_of_safe (safe : Safe uplink address acts) {act : Act} (member : act ∈ acts)
    (excludes : act.excludes uplink address = true) :
    reaches (Act.remembers address) acts = true ∨
      reaches (Act.adds uplink address) acts = true := by
  induction acts with
  | nil => cases member
  | cons first rest ih =>
    have here {act : Act} {rest : List Act} (excludes : act.excludes uplink address = true) :
        reaches (Act.remembers address) (act :: rest) = true ∨
          reaches (Act.adds uplink address) (act :: rest) = true := by
      simp only [Act.excludes, Bool.or_eq_true] at excludes
      simp only [reaches, Bool.or_eq_true]
      exact excludes.imp .inl .inl
    rcases List.mem_cons.mp member with rfl | later
    · exact here excludes
    · cases goes : first.checks with
      | false => exact (ih safe.2 later).imp (reaches_cons goes) (reaches_cons goes)
      | true =>
        have fits := safe.1
        cases first with
        | remember other =>
          rw [show rest = _ from fits] at later
          rw [List.mem_singleton.mp later] at excludes
          have same : host address = host other := by
            simpa [Act.excludes, Act.remembers, Act.adds] using excludes
          refine .inl ?_
          simp [reaches, Act.remembers, host_injective same]
        | readGateway routes =>
          rw [show rest = _ from fits] at later
          cases later
        | defer via =>
          cases via with
          | none =>
            rw [show rest = _ from fits] at later
            cases later
          | some via => cases goes
        | _ => cases goes

end Goes

end Focsq.TunRoutes
