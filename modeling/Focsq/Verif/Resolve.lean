import Focsq.Backend.Resolve
import Focsq.Verif.Net

/-!
# Resolving a host with a port

A host and a port with a colon in between are resolved to what the host stands for, unless the host is
an IPv6 address without brackets: then neither the parser of the standard library nor the one of the
`url` crate can tell the port from the address.
-/

namespace Focsq.Dns

/-- Whether a character can be part of a name. -/
def isNameChar (char : Char) : Bool :=
  char.isAlphanum || char == '-' || char == '_' || char == '.'

/-- What the `url` crate documents of URLs whose scheme is not a special one: the host is what comes
before a colon, unchanged, and a port has digits only. -/
structure Documented (parseUrl : Text → Option Url) : Prop where
  /-- A name and a port are taken as they are. -/
  name : ∀ (host : Text) (port : Nat), host ≠ [] → (∀ char ∈ host, isNameChar char = true) →
    0 < port → port < 2 ^ 16 →
      parseUrl ("udp://".toList ++ (host ++ ':' :: Nat.toDigits 10 port)) =
        some ⟨some host, some (.ofNat port)⟩
  /-- Behind a colon that is not in brackets there cannot be another one. -/
  colons : ∀ authority : Text, (∀ char ∈ authority, Net.isAddressChar char = true) →
    2 ≤ authority.count ':' → parseUrl ("udp://".toList ++ authority) = none

/-- What a host stands for. -/
inductive Target where
  /-- An address. -/
  | literal (address : IpAddr)
  /-- A name that is to be looked up. -/
  | name (host : Text)

/-- What a host stands for by its text. -/
inductive Denotes : Text → Target → Prop
  /-- An IPv4 or IPv6 address. -/
  | literal {host : Text} {address : IpAddr} : Net.parseIpAddr host = some address →
    Denotes host (.literal address)
  /-- An IPv6 address in brackets. -/
  | bracketed {inner : Text} {octets : Bytes.Octets 16} :
    Net.parseIpAddr inner = some (.v6 octets) →
      Denotes ('[' :: (inner ++ [']'])) (.literal (.v6 octets))
  /-- A name. -/
  | name {host : Text} : host ≠ [] → (∀ char ∈ host, isNameChar char = true) →
    Net.parseIpAddr host = none → Denotes host (.name host)

/-- What it means to resolve a target with a port. -/
def Target.resolve (network : Network) (port : UInt16) :
    Target → Except ResolveError Turn.SocketAddr
  | .literal address => .ok (.new address port)
  | .name host => network.firstAddress host port

/-- Whether a host is an IPv6 address without brackets. -/
def IsIpv6 (host : Text) : Prop := ∃ octets, Net.parseIpAddr host = some (.v6 octets)

variable {parseUrl : Text → Option Url} (network : Network)

/-- What the parser of the standard library reads is the answer. -/
theorem resolveSocket_parsed {address : Text} {socket : Turn.SocketAddr}
    (parsed : Net.parseSocketAddr address = some socket) :
    resolveSocket parseUrl network address = .ok socket := by
  rw [resolveSocket, parsed]

/-- A name is looked up, with the port behind it. -/
theorem resolveSocket_name (documented : Documented parseUrl) {host : Text} (some : host ≠ [])
    (chars : ∀ char ∈ host, isNameChar char = true) (named : Net.parseIpAddr host = none)
    {port : Nat} (positive : 0 < port) (small : port < 2 ^ 16) :
    resolveSocket parseUrl network (host ++ ':' :: Nat.toDigits 10 port) =
      network.firstAddress host (.ofNat port) := by
  have absent (char : Char) (other : isNameChar char = false) : char ∉ host := by
    intro member
    have inside := chars char member
    rw [other] at inside
    cases inside
  have unread := Net.parseSocketAddr_name named (absent ':' rfl) (absent '[' rfl)
    (Nat.toDigits 10 port)
  rw [resolveSocket, unread]
  dsimp only
  rw [documented.name host port some chars positive small]
  rfl

/-- An IPv6 address without brackets is not resolved with a port behind it. -/
theorem resolveSocket_bare (documented : Documented parseUrl) {host : Text} (bare : IsIpv6 host)
    (port : Nat) :
    resolveSocket parseUrl network (host ++ ':' :: Nat.toDigits 10 port) =
      .error (.address (host ++ ':' :: Nat.toDigits 10 port)) := by
  obtain ⟨octets, parsed⟩ := bare
  obtain ⟨chars, colons⟩ := Net.ipv6Text_of_parse parsed
  have all (char : Char) (member : char ∈ host ++ ':' :: Nat.toDigits 10 port) :
      Net.isAddressChar char = true := by
    rcases List.mem_append.mp member with early | late
    · exact chars char early
    · rcases List.mem_cons.mp late with rfl | digit
      · rfl
      · have decimal := Nat.isDigit_of_mem_toDigits (by decide) (by decide) digit
        exact Net.isAddressChar_of_decimal (by
          rw [Reader.isDigit, Reader.toDigit_decimal decimal]
          rfl)
  have many : 2 ≤ (host ++ ':' :: Nat.toDigits 10 port).count ':' := by
    rw [List.count_append]
    omega
  rw [resolveSocket, Net.parseSocketAddr_bare parsed]
  dsimp only
  rw [documented.colons _ all many]
  rfl

/-- What is in brackets is no address without them. -/
theorem not_isIpv6_bracketed (rest : Text) : ¬IsIpv6 ('[' :: rest) := by
  rintro ⟨octets, parsed⟩
  have bracket := (Net.ipv6Text_of_parse parsed).1 '[' List.mem_cons_self
  cases bracket

/-- A host with a port behind it is resolved to what the host stands for if and only if the host is
not an IPv6 address without brackets. -/
theorem resolveSocket_iff_bracketed (documented : Documented parseUrl) {host : Text}
    {target : Target} (denotes : Denotes host target) {port : Nat} (positive : 0 < port)
    (small : port < 2 ^ 16) :
    resolveSocket parseUrl network (host ++ ':' :: Nat.toDigits 10 port) =
      target.resolve network (.ofNat port) ↔ ¬IsIpv6 host := by
  cases denotes with
  | literal parsed =>
    rename_i address
    cases address with
    | v4 octets =>
      refine iff_of_true (resolveSocket_parsed network (Net.parseSocketAddr_v4 parsed small)) ?_
      rintro ⟨other, same⟩
      rw [parsed] at same
      cases same
    | v6 octets =>
      refine iff_of_false ?_ fun never => never ⟨octets, parsed⟩
      rw [resolveSocket_bare network documented ⟨octets, parsed⟩]
      intro same
      cases same
  | bracketed parsed =>
    rename_i inner octets
    refine iff_of_true ?_ (not_isIpv6_bracketed _)
    have whole : '[' :: (inner ++ [']']) ++ ':' :: Nat.toDigits 10 port =
        '[' :: (inner ++ ']' :: ':' :: Nat.toDigits 10 port) := by
      rw [List.cons_append, List.append_assoc]
      rfl
    rw [whole]
    exact resolveSocket_parsed network (Net.parseSocketAddr_v6 parsed small)
  | name some chars named =>
    refine iff_of_true (resolveSocket_name network documented some chars named positive small) ?_
    rintro ⟨octets, parsed⟩
    rw [named] at parsed
    cases parsed

section Instance

/-- The digits of a port and their value. -/
def plainPort (digits : Text) : Option UInt16 :=
  (Reader.parseWith (Reader.number 10 none true (2 ^ 16)) digits).map .ofNat

/-- `Url::parse` for an authority of names, digits and colons: the host ends at the first colon, and
what comes behind it is a port. -/
def plainUrl (text : Text) : Option Url :=
  let authority := text.drop "udp://".toList.length
  let host := authority.takeWhile (· != ':')
  if host = [] then none
  else (plainPort (authority.dropWhile (· != ':')).tail).map fun port => ⟨some host, some port⟩

/-- The first colon ends the host. -/
theorem split_host {host : Text} (noColon : ':' ∉ host) (rest : Text) :
    (host ++ ':' :: rest).takeWhile (· != ':') = host ∧
      (host ++ ':' :: rest).dropWhile (· != ':') = ':' :: rest := by
  have all : ∀ char ∈ host, (char != ':') = true := fun char member =>
    bne_iff_ne.mpr fun same => noColon (same ▸ member)
  have colon : (':' != ':') = false := rfl
  have stop := @Reader.takeWhile_stop ':' (· != ':') colon host rest
  rw [stop.1, stop.2, List.takeWhile_eq_self_iff.mpr all, List.dropWhile_eq_nil_iff.mpr all]
  exact ⟨rfl, rfl⟩

/-- This is how the crate documents it. -/
theorem plainUrl_documented : Documented plainUrl where
  name host port some chars positive small := by
    have noColon : ':' ∉ host := fun member => by cases chars ':' member
    have split := split_host noColon (Nat.toDigits 10 port)
    have digits : plainPort (Nat.toDigits 10 port) = .some (.ofNat port) := by
      rw [plainPort, Reader.parseWith_eq_some.mpr (Reader.number_toDigits small)]
      rfl
    unfold plainUrl
    rw [List.drop_left' rfl]
    dsimp only
    rw [split.1, split.2, if_neg some, List.tail_cons, digits]
    rfl
  colons authority chars many := by
    unfold plainUrl
    rw [List.drop_left' rfl]
    dsimp only
    by_cases empty : authority.takeWhile (· != ':') = []
    · exact if_pos empty
    · rw [if_neg empty, Option.map_eq_none_iff, plainPort, Option.map_eq_none_iff,
        Option.eq_none_iff_forall_ne_some]
      intro value parsed
      have decimal := ((Reader.takes_number 10 none true (2 ^ 16)).parsed parsed).2.1
      have front : (authority.takeWhile (· != ':')).count ':' = 0 := by
        refine List.count_eq_zero.mpr fun member => ?_
        have other := List.mem_takeWhile_imp member
        exact absurd other (by decide)
      have back : (authority.dropWhile (· != ':')).tail.count ':' = 0 := by
        refine List.count_eq_zero.mpr fun member => ?_
        cases decimal ':' member
      have few : (authority.dropWhile (· != ':')).count ':' ≤
          (authority.dropWhile (· != ':')).tail.count ':' + 1 := by
        cases authority.dropWhile (· != ':') with
        | nil => exact Nat.zero_le _
        | cons first more =>
          rw [List.tail_cons, List.count_cons]
          split <;> omega
      rw [← @List.takeWhile_append_dropWhile _ (· != ':') authority, List.count_append, front]
        at many
      omega

end Instance

end Focsq.Dns
