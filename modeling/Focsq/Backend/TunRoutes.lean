import Focsq.Lib.Tasks
import Mathlib.Data.List.Perm.Basic

/-!
# Routes past the tunnel

`tun_win.rs` and `tun_linux.rs`: `apply_tunconf`, `exclude_host_ip`, and `remove_routes` or
`teardown` as lists of steps. A step is one access to the state that they share, or one operation on
the table of routes, which succeeds. Only routes through the gateway from before the interception
are in the table here; those through the tunnel vanish with it.
-/

namespace Focsq.TunRoutes

/-- An address of IPv4. -/
abbrev Ipv4Addr : Type := UInt32

/-- The address with these parts. -/
def ipv4 (a b c d : Nat) : Ipv4Addr := .ofNat (((a * 256 + b) * 256 + c) * 256 + d)

/-- The destination of a route, by its network and the length of its mask. -/
structure Route where
  /-- The network. -/
  network : Ipv4Addr
  /-- The length of the mask. -/
  length : Nat
  deriving DecidableEq

/-- The route to a host, with `HOST_MASK`. -/
def host (address : Ipv4Addr) : Route := ⟨address, 32⟩

/-- The gateway from before the interception, and its interface. -/
structure Uplink where
  /-- `gateway`. -/
  gateway : Ipv4Addr
  /-- `interface`. -/
  interface : Ipv4Addr
  deriving DecidableEq

/-- `VK_EXCLUDE_CIDRS`. -/
def vkExcludeCidrs : List Route :=
  [⟨ipv4 87 240 128 0, 18⟩, ⟨ipv4 87 240 192 0, 19⟩, ⟨ipv4 90 156 0 0, 16⟩,
    ⟨ipv4 93 186 224 0, 21⟩, ⟨ipv4 95 142 192 0, 21⟩, ⟨ipv4 95 163 0 0, 16⟩,
    ⟨ipv4 95 213 0 0, 18⟩, ⟨ipv4 155 212 192 0, 20⟩, ⟨ipv4 185 16 28 0, 22⟩,
    ⟨ipv4 194 67 64 0, 18⟩, ⟨ipv4 195 82 146 0, 23⟩, ⟨ipv4 213 180 193 0, 24⟩,
    ⟨ipv4 77 88 0 0, 18⟩]

/-- `LEGACY_DNS_EXCLUDE_CIDRS`. -/
def legacyDnsExcludeCidrs : List Route := [⟨ipv4 8 8 8 0, 24⟩, ⟨ipv4 1 1 1 0, 24⟩]

/-- `HALF_NETS`. -/
def halfNets : List Route := [⟨ipv4 0 0 0 0, 1⟩, ⟨ipv4 128 0 0 0, 1⟩]

/-- What the calls share. -/
structure World where
  /-- The routes in the table, with the gateways they go through. -/
  table : List (Route × Uplink)
  /-- `GATEWAY_ROUTE`. -/
  gatewayRoute : Option Uplink
  /-- `DYNAMIC_EXCLUDES`. -/
  dynamicExcludes : List Ipv4Addr
  /-- Whether the loop over it holds its lock. -/
  excludesHeld : Bool
  /-- `CLEANUP_ROUTES`, or `UPLINK_ROUTES`. -/
  cleanupRoutes : List Route
  /-- Whether `apply_tunconf` holds its lock. -/
  cleanupHeld : Bool
  /-- The routes that were added, for the statements. -/
  added : List (Route × Uplink)
  deriving DecidableEq

/-- A session begins with a table. -/
def World.new (table : List (Route × Uplink)) : World := ⟨table, none, [], false, [], false, []⟩

/-- A step of a call. -/
inductive Act where
  /-- The address is inserted into `DYNAMIC_EXCLUDES`; the call returns when it is there already. -/
  | remember (address : Ipv4Addr)
  /-- `GATEWAY_ROUTE` is read; the call returns when there is none. Then the routes are added. -/
  | readGateway (routes : List Route)
  /-- A route is deleted. -/
  | delete (route : Route)
  /-- A route is added. -/
  | add (route : Route) (uplink : Uplink)
  /-- A route is pushed to the list. -/
  | record (route : Route)
  /-- `GATEWAY_ROUTE` is set. -/
  | takeOver (uplink : Uplink)
  /-- The loop over `dynamic_excludes().drain()` begins, and holds the lock. -/
  | drain
  /-- The loop is over. -/
  | releaseExcludes
  /-- `apply_deferred_excludes`, with the gateway it is called with, or without one. -/
  | defer (uplink : Option Uplink)
  /-- The lock of the list is taken. -/
  | holdCleanup
  /-- The list is cleared under the lock. -/
  | clear
  /-- A route is pushed under the lock. -/
  | note (route : Route)
  /-- The lock is given back. -/
  | releaseCleanup
  /-- Everything is taken from the list, and then it is deleted. -/
  | takeRoutes
  /-- `GATEWAY_ROUTE` is cleared. -/
  | forgetGateway
  /-- `DYNAMIC_EXCLUDES` is cleared. -/
  | clearExcludes
  deriving DecidableEq

/-- On Linux, a route through the uplink is deleted before it is added. -/
inductive Os where
  /-- `tun_win.rs`. -/
  | windows
  /-- `tun_linux.rs`. -/
  | linux
  deriving DecidableEq

/-- A route is added through the uplink, and recorded. -/
def Os.exclude (os : Os) (uplink : Uplink) (route : Route) : List Act :=
  match os with
  | .windows => [.add route uplink, .record route]
  | .linux => [.delete route, .add route uplink, .record route]

section Steps

/-- The given order, if it is one of these. Neither a set nor threads have an order of their own. -/
def arranged (order routes : List Route) : List Route := if order.Perm routes then order else routes

/-- The next step of a call. -/
def Os.next (os : Os) (world : World) (acts : List Act) (order : List Route) :
    World × List Act × Option Empty :=
  match acts with
  | [] => (world, [], none)
  | .remember address :: rest =>
    if world.excludesHeld then (world, acts, none)
    else if address ∈ world.dynamicExcludes then (world, [], none)
    else ({ world with dynamicExcludes := address :: world.dynamicExcludes }, rest, none)
  | .readGateway routes :: rest =>
    match world.gatewayRoute with
    | none => (world, [], none)
    | some uplink => (world, routes.flatMap (os.exclude uplink) ++ rest, none)
  | .delete route :: rest =>
    ({ world with table := world.table.filter fun entry => entry.1 ≠ route }, rest, none)
  | .add route uplink :: rest =>
    ({ world with
      table := (route, uplink) :: world.table, added := (route, uplink) :: world.added }, rest, none)
  | .record route :: rest =>
    if world.cleanupHeld then (world, acts, none)
    else ({ world with cleanupRoutes := world.cleanupRoutes ++ [route] }, rest, none)
  | .takeOver uplink :: rest => ({ world with gatewayRoute := some uplink }, rest, none)
  | .drain :: rest =>
    if world.excludesHeld then (world, acts, none)
    else
      ({ world with dynamicExcludes := [], excludesHeld := true },
        (arranged order (world.dynamicExcludes.map host)).map .delete ++ .releaseExcludes :: rest,
        none)
  | .releaseExcludes :: rest => ({ world with excludesHeld := false }, rest, none)
  | .defer uplink :: rest =>
    if world.excludesHeld then (world, acts, none)
    else
      let pending := arranged order (world.dynamicExcludes.map host)
      match uplink with
      | some uplink => (world, pending.flatMap (os.exclude uplink) ++ rest, none)
      | none => (world, .readGateway pending :: rest, none)
  | .holdCleanup :: rest =>
    if world.cleanupHeld then (world, acts, none)
    else ({ world with cleanupHeld := true }, rest, none)
  | .clear :: rest => ({ world with cleanupRoutes := [] }, rest, none)
  | .note route :: rest =>
    ({ world with cleanupRoutes := world.cleanupRoutes ++ [route] }, rest, none)
  | .releaseCleanup :: rest => ({ world with cleanupHeld := false }, rest, none)
  | .takeRoutes :: rest =>
    if world.cleanupHeld then (world, acts, none)
    else
      ({ world with cleanupRoutes := [] },
        (arranged order world.cleanupRoutes).map .delete ++ rest, none)
  | .forgetGateway :: rest => ({ world with gatewayRoute := none }, rest, none)
  | .clearExcludes :: rest =>
    if world.excludesHeld then (world, acts, none)
    else ({ world with dynamicExcludes := [] }, rest, none)

end Steps

section Calls

/-- What `apply_tunconf` is called with, and what it finds. -/
structure TunConf where
  /-- The default route that it finds. -/
  uplink : Uplink
  /-- `peer_ip`. -/
  peer : Ipv4Addr
  /-- The servers of `dns` that are addresses of IPv4. -/
  dnsServers : List Ipv4Addr
  /-- `system_dns_servers`, for the routes that may be stale. -/
  staleDns : List Ipv4Addr
  /-- `system_dns_servers`, for the routes that are added. -/
  dnsExcludes : List Ipv4Addr
  deriving DecidableEq

/-- `stale_routes`. -/
def TunConf.staleRoutes (conf : TunConf) : List Route :=
  halfNets ++ [host conf.peer] ++ vkExcludeCidrs ++ legacyDnsExcludeCidrs ++
    (conf.dnsServers ++ conf.staleDns).map host

/-- `apply_tunconf` of Windows, when it succeeds. -/
def applyTunconfWindows (conf : TunConf) : List Act :=
  [.takeOver conf.uplink] ++ conf.staleRoutes.map .delete ++ [.drain] ++
    vkExcludeCidrs.map (Act.add · conf.uplink) ++
      [.defer (some conf.uplink), .holdCleanup, .clear] ++
        (halfNets ++ vkExcludeCidrs).map .note ++
          conf.dnsExcludes.flatMap (fun server => [.add (host server) conf.uplink,
            .note (host server)]) ++ [.releaseCleanup]

/-- `apply_tunconf` of Linux, when it succeeds. -/
def applyTunconfLinux (conf : TunConf) : List Act :=
  [.takeOver conf.uplink, .delete (host conf.peer)] ++
    vkExcludeCidrs.flatMap (Os.linux.exclude conf.uplink) ++ [.defer none]

/-- `apply_tunconf`. -/
def Os.applyTunconf : Os → TunConf → List Act
  | .windows => applyTunconfWindows
  | .linux => applyTunconfLinux

/-- An address that a call of `exclude_host_ip` gets. -/
inductive IpAddr where
  /-- One of IPv4. -/
  | v4 (address : Ipv4Addr)
  /-- One of IPv6. -/
  | v6
  deriving DecidableEq

/-- `exclude_host_ip`. -/
def excludeHostIp : IpAddr → List Act
  | .v4 address => [.remember address, .readGateway [host address]]
  | .v6 => []

/-- `remove_routes`, or `teardown`. -/
def Os.removeRoutes : Os → List Act
  | .windows => [.takeRoutes, .forgetGateway, .clearExcludes]
  | .linux => [.forgetGateway, .clearExcludes, .takeRoutes]

/-- A call. -/
inductive Call where
  /-- `apply_tunconf`. -/
  | apply (conf : TunConf)
  /-- One that fails after it has set `GATEWAY_ROUTE`, and before it does anything to routes. -/
  | applyFails (uplink : Uplink)
  /-- `exclude_host_ip`. -/
  | exclude (address : IpAddr)
  /-- `remove_routes`, or `teardown`. -/
  | remove
  deriving DecidableEq

/-- The steps of a call. -/
def Os.acts (os : Os) : Call → List Act
  | .apply conf => os.applyTunconf conf
  | .applyFails uplink => [.takeOver uplink]
  | .exclude address => excludeHostIp address
  | .remove => os.removeRoutes

/-- The calls. -/
abbrev RoutePool : Type := Tasks.Pool World (List Act)

/-- Nothing was called. -/
def RoutePool.new (table : List (Route × Uplink)) : RoutePool := ⟨.new table, []⟩

/-- One action. -/
abbrev Os.step (os : Os) : RoutePool → Tasks.Action Call (List Route) → RoutePool × Option Empty :=
  Tasks.Pool.step os.acts os.next

end Calls

end Focsq.TunRoutes
