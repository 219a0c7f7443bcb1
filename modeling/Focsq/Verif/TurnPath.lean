import Mathlib.Data.List.Rotate
import Focsq.Backend.TurnPath
import Focsq.Lib.Fallible

/-!
# Every server gets its turn

The addresses of a credential are searched as a ring. An attempt fails only if no address can be
used, it never takes one that cannot be, and as many attempts in a row as there are addresses take
each address that can be used at least once.
-/

namespace Focsq.Session

open Endpoint

section Resolved

/-- The transports for a mode are one, of the kind that is wanted. -/
theorem wireTransports_single {mode : TurnTransportMode} {scheme : TurnScheme}
    {uriTransport : Option UriTransport} {transports : List TurnWireTransport}
    (found : wireTransports mode scheme uriTransport = .ok transports) :
    ∃ transport, transports = [transport] ∧ (transport = .udp ↔ mode = .udp) ∧
      (scheme = .turns ↔ transport = .tls) := by
  cases mode <;> cases scheme <;> rcases uriTransport with _ | _ | _ <;>
    first
    | (cases found; done)
    | (cases found; exact ⟨_, rfl, by decide, by decide⟩)

/-- What an address is resolved to is one endpoint, of the transport that is wanted. -/
theorem resolved_single {value : Text} {overrideHost overridePort : Option Text}
    {mode : TurnTransportMode} {endpoints : List TurnEndpoint}
    (resolved : resolveTurnEndpoints value overrideHost overridePort mode = .ok endpoints) :
    ∃ endpoint, endpoints = [endpoint] ∧ endpoint.host ≠ [] ∧
      (endpoint.transport = .udp ↔ mode = .udp) := by
  unfold resolveTurnEndpoints at resolved
  obtain ⟨parts, -, resolved⟩ := Fallible.bind_eq_ok resolved
  obtain ⟨original, -, resolved⟩ := Fallible.bind_eq_ok resolved
  obtain ⟨port, -, resolved⟩ := Fallible.bind_eq_ok resolved
  obtain ⟨some, resolved⟩ := Fallible.of_ite_error resolved
  obtain ⟨transports, wire, resolved⟩ := Fallible.bind_eq_ok resolved
  obtain ⟨transport, rfl, kind, -⟩ := wireTransports_single wire
  cases resolved
  exact ⟨_, rfl, by simpa using some, kind⟩

end Resolved

section Ring

variable {addresses : List Text} {config : TurnConfig}

/-- Whether an address can be used. -/
def TurnConfig.usable (config : TurnConfig) (address : Text) : Bool :=
  (config.resolve address).toBool

/-- The answer of a search. -/
def selected : Option Text → Except Failure Text
  | none => .error (.bail "Нет TURN endpoint для выбранного транспорта")
  | some address => .ok address

/-- The loop finds the first address of the rest of the ring that can be used. -/
theorem selectLoop_eq (start offset count : Nat) (whole : offset + count = addresses.length) :
    selectLoop config addresses start (List.range' offset count) =
      selected (((addresses.rotate start).drop offset).find? config.usable) := by
  induction count generalizing offset with
  | zero =>
    rw [List.drop_of_length_le (by rw [List.length_rotate]; omega)]
    rfl
  | succ count ih =>
    have inside : offset < (addresses.rotate start).length := by
      rw [List.length_rotate]
      omega
    have here : addresses[(start + offset) % addresses.length]? =
        some ((addresses.rotate start)[offset]) := by
      rw [Nat.add_comm, ← List.getElem?_rotate (by omega), List.getElem?_eq_getElem inside]
    rw [List.range'_succ, selectLoop, here, List.drop_eq_getElem_cons inside, List.find?_cons]
    dsimp only
    cases fits : config.usable (addresses.rotate start)[offset] with
    | true => exact if_pos fits
    | false =>
      rw [ih (offset + 1) (by omega)]
      exact if_neg (by rw [← TurnConfig.usable, fits]; exact Bool.false_ne_true)

/-- The ring begins where the numbers of the worker and of the attempt say. -/
theorem selectTurnAddress_eq (some : addresses ≠ []) :
    selectTurnAddress addresses config =
      selected ((addresses.rotate (config.id + config.turnEndpointCursor)).find?
        config.usable) := by
  have positive : addresses.length ≠ 0 := by simpa using some
  unfold selectTurnAddress
  dsimp only
  rw [if_neg positive, List.range_eq_range', selectLoop_eq _ 0 _ (Nat.zero_add _), List.drop_zero,
    turnEndpointIndex, ← Nat.add_mod, List.rotate_mod]

/-- The path of an address that can be used is that of the endpoint it is resolved to. -/
theorem turnPathKey_usable {address : Text} (fits : config.usable address = true) :
    ∃ endpoint, config.resolve address = .ok [endpoint] ∧
      (endpoint.transport = .udp ↔ config.turnTransport = .udp) ∧
      turnPathKey address config = .ok endpoint.socketAuthority := by
  obtain ⟨endpoints, resolved⟩ := Fallible.toBool_iff.mp fits
  obtain ⟨endpoint, rfl, -, kind⟩ := resolved_single resolved
  refine ⟨endpoint, resolved, kind, ?_⟩
  rw [turnPathKey, resolved]

/-- What a session of a worker begins with. -/
theorem turnPath_eq (some : addresses ≠ []) :
    turnPath addresses config =
      (selected ((addresses.rotate (config.id + config.turnEndpointCursor)).find?
        config.usable)).bind fun address => (turnPathKey address config).map (address, ·) := by
  rw [turnPath, List.isEmpty_eq_false_iff.mpr some, if_neg Bool.false_ne_true,
    selectTurnAddress_eq some]
  cases (addresses.rotate (config.id + config.turnEndpointCursor)).find? config.usable with
  | none => rfl
  | some address =>
    show (turnPathKey address config >>= _) = (turnPathKey address config).map _
    cases turnPathKey address config <;> rfl

/-- An attempt is made with the endpoint of an address that can be used, if there is such an
address. -/
theorem turnPath_ok (some : addresses ≠ []) :
    ((∃ path, turnPath addresses config = .ok path) ↔
        ∃ address ∈ addresses, config.usable address = true) ∧
      ∀ address path, turnPath addresses config = .ok (address, path) →
        address ∈ addresses ∧ ∃ endpoint, config.resolve address = .ok [endpoint] ∧
          (endpoint.transport = .udp ↔ config.turnTransport = .udp) ∧
          path = endpoint.socketAuthority := by
  rw [turnPath_eq some]
  cases found : (addresses.rotate (config.id + config.turnEndpointCursor)).find?
      config.usable with
  | none =>
    have none := List.find?_eq_none.mp found
    refine ⟨iff_of_false (fun ⟨_, same⟩ => by cases same) ?_, fun _ _ same => by cases same⟩
    rintro ⟨address, member, fits⟩
    exact none address (List.mem_rotate.mpr member) fits
  | some address =>
    have fits := List.find?_some found
    have member := List.mem_rotate.mp (List.mem_of_find?_eq_some found)
    obtain ⟨endpoint, resolved, kind, key⟩ := turnPathKey_usable fits
    show ((∃ path, (turnPathKey address config).map (address, ·) = .ok path) ↔ _) ∧
      ∀ _ _, (turnPathKey address config).map (address, ·) = .ok _ → _
    rw [key]
    refine ⟨iff_of_true ⟨_, rfl⟩ ⟨address, member, fits⟩, fun other path same => ?_⟩
    cases same
    exact ⟨member, endpoint, resolved, kind, rfl⟩

/-- The attempt at whose turn an address is takes it if it can be used. -/
theorem turnPath_turn {index : Nat} {address : Text} (some : addresses[index]? = some address)
    (turn : (config.id + config.turnEndpointCursor) % addresses.length = index)
    (fits : config.usable address = true) :
    ∃ path, turnPath addresses config = .ok (address, path) := by
  obtain ⟨inside, -⟩ := List.getElem?_eq_some_iff.mp some
  have nonempty : addresses ≠ [] := List.ne_nil_of_length_pos (by omega)
  have head : (addresses.rotate (config.id + config.turnEndpointCursor)).head? = .some address := by
    rw [← List.rotate_mod, turn, List.head?_rotate inside, some]
  obtain ⟨endpoint, -, -, key⟩ := turnPathKey_usable fits
  rw [turnPath_eq nonempty]
  cases ring : addresses.rotate (config.id + config.turnEndpointCursor) with
  | nil =>
    rw [ring] at head
    cases head
  | cons first rest =>
    rw [ring] at head
    cases head
    rw [List.find?_cons, fits]
    refine ⟨endpoint.socketAuthority, ?_⟩
    show (turnPathKey address config).map (address, ·) = _
    rw [key]
    rfl

/-- Among as many numbers in a row as there are places, one leads to each place. -/
theorem exists_turn {count index : Nat} (start : Nat) (inside : index < count) :
    ∃ more < count, (start + more) % count = index := by
  have positive : 0 < count := by omega
  have rest : start % count < count := Nat.mod_lt _ positive
  refine ⟨(index + (count - start % count)) % count, Nat.mod_lt _ positive, ?_⟩
  have split := Nat.div_add_mod start count
  have whole : start + (index + (count - start % count)) =
      index + count * (start / count + 1) := by
    rw [Nat.mul_succ]
    omega
  rw [Nat.add_mod_mod, whole, Nat.add_mul_mod_self_left, Nat.mod_eq_of_lt inside]

/-- The attempts of a worker: one fails only if no address can be used, each takes one that can be
used, and any as many in a row as there are addresses take all of those. -/
theorem attempts_reach_all (some : addresses ≠ []) (first : Nat) :
    (∀ cursor,
        (∃ path, turnPath addresses { config with turnEndpointCursor := cursor } = .ok path) ↔
        ∃ address ∈ addresses, config.usable address = true) ∧
      (∀ cursor address path,
        turnPath addresses { config with turnEndpointCursor := cursor } = .ok (address, path) →
          address ∈ addresses ∧ ∃ endpoint, config.resolve address = .ok [endpoint] ∧
            (endpoint.transport = .udp ↔ config.turnTransport = .udp) ∧
            path = endpoint.socketAuthority) ∧
      ∀ address ∈ addresses, config.usable address = true →
        ∃ cursor, first ≤ cursor ∧ cursor < first + addresses.length ∧
          ∃ path, turnPath addresses { config with turnEndpointCursor := cursor } =
            .ok (address, path) := by
  refine ⟨fun cursor => (turnPath_ok some).1, fun cursor => (turnPath_ok some).2, ?_⟩
  intro address member fits
  obtain ⟨index, inside, here⟩ := List.getElem_of_mem member
  obtain ⟨more, few, turn⟩ := exists_turn (config.id + first) inside
  rw [Nat.add_assoc] at turn
  exact ⟨first + more, Nat.le_add_right _ _, by omega,
    turnPath_turn (List.getElem?_eq_some_iff.mpr ⟨inside, here⟩) turn fits⟩

/-- Servers for datagrams and for streams. -/
def mixedAddresses : List Text :=
  ["turn:a.example?transport=udp".toList, "turn:b.example?transport=tcp".toList,
    "turns:c.example".toList]

/-- The fifth worker, which wants streams. -/
def streamConfig : TurnConfig where
  id := 5
  turnEndpointCursor := 0
  turnHost := none
  turnPort := some " 443".toList
  turnTransport := .tcpTls

/-- Three attempts in a row reach the server in TLS. -/
theorem mixedAddresses_reached : ∃ cursor, 7 ≤ cursor ∧ cursor < 7 + mixedAddresses.length ∧
    ∃ path, turnPath mixedAddresses { streamConfig with turnEndpointCursor := cursor } =
      .ok ("turns:c.example".toList, path) := by
  have reached := @attempts_reach_all mixedAddresses streamConfig (by decide) 7
  exact reached.2.2 "turns:c.example".toList (by decide) (by decide +kernel)

end Ring

end Focsq.Session
