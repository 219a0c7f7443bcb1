import Focsq.Frontend.Import
import Focsq.Verif.Resolve

/-!
# From a link to an address

The host that a link is parsed to goes into the peer of the configuration as it is stored. A link of
the older form loses the brackets around an IPv6 address, and nothing puts them back.
-/

namespace Focsq

namespace ConnectStart

variable {δ : Type} {environment : Environment δ}

/-- What a sequence of checks ends with comes from its last one. -/
theorem bind_eq_ok {ε α β : Type} {first : Except ε α} {second : α → Except ε β} {result : β}
    (done : first >>= second = .ok result) : ∃ value, first = .ok value ∧ second value = .ok result := by
  cases first with
  | error reason => cases done
  | ok value => exact ⟨value, rfl, done⟩

/-- The address and the port of a plan are those of the profile. -/
theorem profile_of_prepare {profile : ServerProfile} {plan : Plan}
    (stored : environment.profile = .ok (some profile)) (prepared : environment.prepare = .ok plan) :
    isValidPort profile.port = true ∧ plan.ip = (profile.ip.getD []).trim ∧
      plan.port = profile.port.getD 0 := by
  unfold Environment.prepare at prepared
  obtain ⟨_, -, prepared⟩ := bind_eq_ok prepared
  obtain ⟨settings, -, prepared⟩ := bind_eq_ok prepared
  obtain ⟨found, same, prepared⟩ := bind_eq_ok prepared
  rw [stored] at same
  cases same
  obtain ⟨other, same, prepared⟩ := bind_eq_ok prepared
  cases same
  dsimp only at prepared
  by_cases missing : (profile.ip.getD []).trim.isEmpty ∨ ¬isValidPort profile.port
  · rw [if_pos missing] at prepared
    cases prepared
  · rw [if_neg missing] at prepared
    simp only [not_or, not_not] at missing
    by_cases blank : (profile.password.getD []).trim.isEmpty
    · rw [if_pos blank] at prepared
      cases prepared
    · rw [if_neg blank] at prepared
      obtain ⟨_, -, prepared⟩ := bind_eq_ok prepared
      obtain ⟨vkToken, -, prepared⟩ := bind_eq_ok prepared
      generalize (if AuthMode.ofText settings.workMode = .autoJs then HashMode.autoJs
        else HashMode.ofText settings.hashes) = hashMode at prepared
      split at prepared
      · cases prepared
      · cases prepared
        exact ⟨missing.2, rfl, rfl⟩

section Refusals

variable {α β : Type}

/-- What refuses a start does not launch the core. -/
def Refuses (check : Except Outcome α) : Prop := ∀ config, check ≠ .error (.launched config)

/-- What has a result refuses nothing. -/
theorem refuses_ok (value : α) : Refuses (.ok value) := fun _ same => by cases same

/-- An issue is no launch. -/
theorem refuses_failed (issue : Text) : Refuses (.error (.failed issue) : Except Outcome α) :=
  fun _ same => by cases same

/-- What throws is no launch. -/
theorem refuses_thrown (read : Except Text α) : Refuses (read.mapError Outcome.thrown) := by
  intro config same
  cases read <;> cases same

/-- One check after another. -/
theorem Refuses.bind {first : Except Outcome α} {second : α → Except Outcome β}
    (left : Refuses first) (right : ∀ value, Refuses (second value)) :
    Refuses (first >>= second) := by
  intro config same
  cases first with
  | error reason =>
    cases same
    exact left config rfl
  | ok value => exact right value config same

/-- The checks for the platform refuse. -/
theorem refuses_allowed (environment : Environment δ) : Refuses environment.allowed := by
  unfold Environment.allowed
  cases environment.platform with
  | windows =>
    dsimp only
    split
    · exact refuses_ok ()
    · exact refuses_failed _
  | linux =>
    dsimp only
    split
    · exact fun _ same => by cases same
    · exact refuses_failed _
    · exact refuses_ok ()
  | other => exact refuses_ok ()

/-- A missing token refuses. -/
theorem refuses_token (environment : Environment δ) (hashMode : HashMode) (authMode : AuthMode) :
    Refuses (environment.token hashMode authMode) := by
  unfold Environment.token
  split
  · split
    · exact refuses_failed _
    · split
      · exact refuses_failed _
      · exact refuses_ok _
  · exact refuses_ok _

/-- What is checked before any call refuses. -/
theorem refuses_prepare (environment : Environment δ) : Refuses environment.prepare := by
  refine (refuses_thrown _).bind fun _ => (refuses_thrown _).bind fun settings =>
    (refuses_thrown _).bind fun found => Refuses.bind ?_ fun profile => ?_
  · cases found
    · exact refuses_failed _
    · exact refuses_ok _
  · dsimp only
    split
    · exact fun _ same => by cases same
    · split
      · exact fun _ same => by cases same
      · refine (refuses_allowed environment).bind fun _ => (refuses_token environment _ _).bind
          fun vkToken => ?_
        generalize (if AuthMode.ofText settings.workMode = .autoJs then HashMode.autoJs
          else HashMode.ofText settings.hashes) = hashMode
        split
        · exact fun _ same => by cases same
        · exact refuses_ok _

end Refusals

/-- The peer of a configuration that is launched. -/
theorem peer_of_launchCore {plan : Plan} {vkValue : Text} {allowRedistribution : Bool}
    {config : AppClientConfig}
    (launched : environment.launchCore plan vkValue allowRedistribution = .launched config) :
    config.peer = plan.ip ++ ':' :: Json.writeInt plan.port := by
  unfold Environment.launchCore at launched
  split at launched
  · cases launched
  · split at launched
    · cases launched
    · cases launched
      rfl

/-- The peer that a start launches the core with is the address and the port of the profile. -/
theorem peer_of_startInternal (doubles : Json.Doubles δ) {profile : ServerProfile}
    (stored : environment.profile = .ok (some profile)) {held : Held} {api : AutoCalls.Api δ}
    {config : AppClientConfig}
    (launched : (environment.startInternal doubles held api).outcome = .launched config) :
    isValidPort profile.port = true ∧
      config.peer = (profile.ip.getD []).trim ++ ':' :: Json.writeInt (profile.port.getD 0) := by
  unfold Environment.startInternal at launched
  split at launched
  · next outcome failed =>
    exact absurd (launched ▸ failed) (refuses_prepare environment config)
  · next plan prepared =>
    obtain ⟨valid, ip, port⟩ := profile_of_prepare stored prepared
    refine ⟨valid, ?_⟩
    rw [← ip, ← port]
    unfold Environment.startPlan at launched
    split at launched
    · dsimp only at launched
      split at launched
      · cases launched
      · cases launched
      · exact peer_of_launchCore launched
    · exact peer_of_launchCore launched

end ConnectStart

namespace Import

open ConnectStart (ServerProfile Environment AppClientConfig)

section Hosts

variable {number : Nat} {link : Text} {profile : ServerProfile}

/-- The address in a link of the older form. -/
def legacyAddress (link : Text) : Option (Text × Option Int) :=
  (lastIndexOf '@' (link.drop scheme.length)).bind fun index =>
    splitAddress ((link.drop scheme.length).drop (index + 1))

/-- The host in a link, in the older form without brackets. -/
def linkHost (link : Text) : Text :=
  if link.trim.startsWith connectPrefix then
    ((queryParameters link.trim).bind fun query => parameter query "host".toList).getD []
  else (legacyAddress link.trim).elim [] Prod.fst

/-- A profile has the host and the port that it is made of. -/
theorem of_profileOf {host password : Text} {port : Option Int}
    (made : profileOf number host port password = some profile) :
    profile.ip = some host ∧ profile.port = port := by
  unfold profileOf at made
  split at made
  · cases made
    exact ⟨rfl, rfl⟩
  · cases made

/-- The host in a link is the one of its profile. -/
theorem ip_of_parse (accepted : parse number link = some profile) :
    profile.ip = some (linkHost link) := by
  unfold parse at accepted
  dsimp only at accepted
  unfold linkHost
  split at accepted
  · cases accepted
  · split at accepted
    · next form =>
      rw [if_pos form]
      unfold parseV2 at accepted
      obtain ⟨query, found, accepted⟩ := Option.bind_eq_some_iff.mp accepted
      rw [found]
      split at accepted
      · cases accepted
      · obtain ⟨host, given, accepted⟩ := Option.bind_eq_some_iff.mp accepted
        obtain ⟨password, -, accepted⟩ := Option.bind_eq_some_iff.mp accepted
        rw [Option.bind_some, given]
        split at accepted
        · cases accepted
        · exact (of_profileOf accepted).1
    · next form =>
      rw [if_neg form, legacyAddress]
      unfold parseLegacy at accepted
      obtain ⟨index, found, accepted⟩ := Option.bind_eq_some_iff.mp accepted
      rw [found, Option.bind_some]
      split at accepted
      · cases accepted
      · obtain ⟨password, -, accepted⟩ := Option.bind_eq_some_iff.mp accepted
        obtain ⟨⟨host, port⟩, split, accepted⟩ := Option.bind_eq_some_iff.mp accepted
        rw [split]
        exact (of_profileOf accepted).1

end Hosts

section Dialing

variable {δ : Type}

/-- A valid port is written with its digits. -/
theorem writeInt_port {port : Nat} : Json.writeInt (port : Int) = Nat.toDigits 10 port := by
  rw [Json.writeInt, if_neg (by omega), Int.natAbs_natCast]

/-- The peer of a profile from a link is resolved to what the host in the link stands for if and only
if that host, as the profile has it, is not an IPv6 address without brackets. -/
theorem dialable_iff_bracketed {parseUrl : Text → Option Dns.Url}
    (documented : Dns.Documented parseUrl) (network : Dns.Network) (doubles : Json.Doubles δ)
    (number : Nat) (link : Text) (profile : ServerProfile)
    (accepted : parse number link = some profile) (target : Dns.Target)
    (denotes : Dns.Denotes (linkHost link).trim target) (port : Nat)
    (numbered : profile.port = some (port : Int)) (environment : Environment δ)
    (stored : environment.profile = .ok (some profile)) (held : ConnectStart.Held)
    (api : AutoCalls.Api δ) (config : AppClientConfig)
    (launched : (environment.startInternal doubles held api).outcome = .launched config) :
    Dns.resolveSocket parseUrl network config.peer = target.resolve network (.ofNat port) ↔
      ¬Dns.IsIpv6 (linkHost link).trim := by
  obtain ⟨valid, peer⟩ := ConnectStart.peer_of_startInternal doubles stored launched
  have range : 0 < port ∧ port < 2 ^ 16 := by
    rw [numbered] at valid
    simp only [ConnectStart.isValidPort, Option.any_some, Bool.and_eq_true, decide_eq_true_eq]
      at valid
    omega
  rw [peer, ip_of_parse accepted, numbered, Option.getD_some, Option.getD_some, writeInt_port]
  exact Dns.resolveSocket_iff_bracketed network documented denotes range.1 range.2

/-- Nothing answers. -/
def quietNetwork : Dns.Network := ⟨0, fun _ => ⟨none, none⟩, false, fun _ => .error []⟩

/-- A start with hashes of one's own, in which nothing fails. -/
def plainStart (profile : ServerProfile) : Environment Text :=
  { rust := .ok ()
    settings := .ok ⟨"Ручной".toList, "Звонки".toList, "hash".toList, "device".toList,
      "firefox".toList⟩
    profile := .ok (some profile)
    platform := .other
    isAdmin := true
    rights := .ok none
    vk := ⟨none, none⟩
    generation := 1
    salt := .ok "0123456789abcdef".toList
    launch := .ok () }

/-- A server that is not asked. -/
def unaskedApi : AutoCalls.Api Text := ⟨[], [], [], [], false, []⟩

/-- The profile of a link with this host and port. -/
def linkedProfile (host : Text) (port : Int) : ServerProfile :=
  ⟨some "Сервер #1000".toList, some host, some port, some "pw".toList, none⟩

/-- The configuration with this peer. -/
def plainConfig (peer : Text) : AppClientConfig :=
  { vk := "hash".toList
    vkHashMode := .manual
    peer := peer
    workers := 9
    allowHashRedistribution := false
    deviceId := "device".toList
    password := "pw".toList
    vkAuthMode := .vkcalls
    fingerprint := "firefox".toList
    generation := 1
    salt := "0123456789abcdef".toList
    tunUds := "tun".toList
    vkJsToken := [] }

/-- The core is launched with the host and the port of the profile. -/
theorem plainStart_launched (host : Text) (port : Int) (some : host.trim.isEmpty = false)
    (valid : ConnectStart.isValidPort (.some port) = true) :
    ((plainStart (linkedProfile host port)).startInternal Json.Doubles.literals .none
      unaskedApi).outcome = .launched (plainConfig (host.trim ++ ':' :: Json.writeInt port)) := by
  have prepared : (plainStart (linkedProfile host port)).prepare = .ok
      ⟨⟨"Ручной".toList, "Звонки".toList, "hash".toList, "device".toList, "firefox".toList⟩,
        host.trim, port, "pw".toList, .manual, .vkcalls, none, 9⟩ := by
    have fine : ¬(List.isEmpty host.trim = true ∨
        ¬ConnectStart.isValidPort (.some port) = true) := by
      rw [valid]
      rintro (empty | invalid)
      · exact Bool.false_ne_true (some.symm.trans empty)
      · exact invalid rfl
    exact if_neg fine
  rw [Environment.startInternal, prepared]
  rfl

/-- A link with a name is dialed. -/
theorem dialable_iff_bracketed_name :
    Dns.resolveSocket Dns.plainUrl quietNetwork
        (Text.trim "example.com".toList ++ ':' :: Json.writeInt 1000) =
          (Dns.Target.name "example.com".toList).resolve quietNetwork (.ofNat 1000) ↔
      ¬Dns.IsIpv6 (linkHost "csqtt://pw@example.com:1000".toList).trim := by
  have host : (linkHost "csqtt://pw@example.com:1000".toList).trim = "example.com".toList := by
    decide
  have named : Dns.Denotes (linkHost "csqtt://pw@example.com:1000".toList).trim
      (.name "example.com".toList) := by
    rw [host]
    exact .name (by decide) (List.all_eq_true.mp (by decide)) (by decide)
  exact dialable_iff_bracketed Dns.plainUrl_documented quietNetwork Json.Doubles.literals 0
    "csqtt://pw@example.com:1000".toList (linkedProfile "example.com".toList 1000) (by decide)
    (.name "example.com".toList) named 1000 rfl
    (plainStart (linkedProfile "example.com".toList 1000)) rfl .none unaskedApi _
    (plainStart_launched "example.com".toList 1000 rfl rfl)

/-- The loopback address of IPv6. -/
def loopback : Dns.IpAddr := .v6 ⟨[0, 0, 0, 0, 0, 0, 0, 0, 0, 0, 0, 0, 0, 0, 0, 1], rfl⟩

/-- The loopback address, in a link of the older form, is not dialed. -/
theorem loopback_undialed :
    ¬∀ (parseUrl : Text → Option Dns.Url), Dns.Documented parseUrl →
      ∀ (network : Dns.Network) (doubles : Json.Doubles Text) (number : Nat) (link : Text)
        (profile : ServerProfile), parse number link = some profile →
      ∀ target : Dns.Target, Dns.Denotes (linkHost link).trim target →
      ∀ port : Nat, profile.port = some (port : Int) →
      ∀ environment : Environment Text, environment.profile = .ok (some profile) →
      ∀ (held : ConnectStart.Held) (api : AutoCalls.Api Text) (config : AppClientConfig),
        (environment.startInternal doubles held api).outcome = .launched config →
          Dns.resolveSocket parseUrl network config.peer =
            target.resolve network (.ofNat port) := by
  intro dialable
  have host : (linkHost "csqtt://pw@[::1]:443".toList).trim = "::1".toList := by decide
  have denoted : Dns.Denotes (linkHost "csqtt://pw@[::1]:443".toList).trim (.literal loopback) := by
    rw [host]
    exact .literal (by decide)
  have dialed := dialable Dns.plainUrl Dns.plainUrl_documented quietNetwork Json.Doubles.literals 0
    "csqtt://pw@[::1]:443".toList (linkedProfile "::1".toList 443) (by decide)
    (.literal loopback) denoted 443 rfl (plainStart (linkedProfile "::1".toList 443)) rfl .none
    unaskedApi _ (plainStart_launched "::1".toList 443 rfl rfl)
  have failed : Dns.resolveSocket Dns.plainUrl quietNetwork "::1:443".toList =
      .error (.address "::1:443".toList) := rfl
  have peer : Text.trim "::1".toList ++ ':' :: Json.writeInt 443 = "::1:443".toList := by decide
  change Dns.resolveSocket Dns.plainUrl quietNetwork
    (Text.trim "::1".toList ++ ':' :: Json.writeInt 443) = _ at dialed
  rw [peer, failed] at dialed
  cases dialed

end Dialing

end Import

end Focsq
