import Mathlib.Logic.Relation
import Focsq.Backend.SelectiveFec

/-!
# Two readers of transport headers

The class of a packet and whether it is sent twice depend on its transport protocol, and each of
them has its own function that finds it. On IPv6 packets the two agree. On IPv4 packets only the one
of `selective_fec.rs` leaves out later fragments, so that `striped_scheduler.rs` takes the payload of
a fragment for a transport header.
-/

namespace Focsq.Transports

open StripedScheduler (internetTransport getRange packetClass sizeClass)
open SelectiveFec (Transport transportOf extensionHeader)

/-- Both find the same protocol with the same bytes, or neither finds one. -/
def Agree (packet : List UInt8) : Prop :=
  match internetTransport packet with
  | some (protocol, offset) =>
    offset ≤ packet.length ∧ transportOf packet = some ⟨protocol, packet.drop offset⟩
  | none => transportOf packet = none

/-- `fragment & 0x1fff` — the fragment offset of an IPv4 packet. -/
def fragmentOffset (packet : List UInt8) : Nat :=
  Bytes.fromBe (Bytes.slice packet 6 8) &&& 0x1fff

/-- An IPv4 packet with its whole header that is not the first fragment of its datagram. -/
def LaterIpv4 (packet : List UInt8) : Prop :=
  packet[0]?.getD 0 >>> 4 = 4 ∧ 20 ≤ (packet[0]?.getD 0 &&& 0x0f).toNat * 4 ∧
    (packet[0]?.getD 0 &&& 0x0f).toNat * 4 ≤ packet.length ∧ fragmentOffset packet ≠ 0

instance (packet : List UInt8) : Decidable (LaterIpv4 packet) :=
  inferInstanceAs (Decidable (_ ∧ _))

/-- One turn of the loop of the scheduler. -/
theorem striped_turn (packet : List UInt8) (turns : Nat) (protocol : UInt8) (offset : Nat) :
    StripedScheduler.ipv6Loop packet (turns + 1) protocol offset =
      match extensionHeader packet protocol offset with
      | .refuse => none
      | .leave => some (protocol, offset)
      | .onward protocol offset =>
        if packet.length < offset then none
        else StripedScheduler.ipv6Loop packet turns protocol offset := by
  rw [StripedScheduler.ipv6Loop]
  unfold extensionHeader
  by_cases options : protocol = 0 ∨ protocol = 43 ∨ protocol = 60
  · rw [if_pos options, if_pos options]
    cases getRange packet offset (offset + 2) <;> rfl
  · rw [if_neg options, if_neg options]
    by_cases fragment : protocol = 44
    · rw [if_pos fragment, if_pos fragment]
      cases getRange packet offset (offset + 8) with
      | none => rfl
      | some header =>
        dsimp only
        split <;> rfl
    · rw [if_neg fragment, if_neg fragment]
      by_cases authentication : protocol = 51
      · rw [if_pos authentication, if_pos authentication]
        cases getRange packet offset (offset + 2) <;> rfl
      · rw [if_neg authentication, if_neg authentication]

/-- The two loops over IPv6 extension headers are the same. -/
theorem ipv6Loop_eq (packet : List UInt8) (turns : Nat) (protocol : UInt8) (offset : Nat) :
    StripedScheduler.ipv6Loop packet turns protocol offset =
      SelectiveFec.ipv6Loop packet turns protocol offset := by
  induction turns generalizing protocol offset with
  | zero => rfl
  | succ turns ih =>
    rw [striped_turn, SelectiveFec.ipv6Loop]
    cases extensionHeader packet protocol offset with
    | refuse => rfl
    | leave => rfl
    | onward protocol offset =>
      dsimp only
      rw [ih]

/-- The loop ends within the packet. -/
theorem ipv6Loop_inside (packet : List UInt8) (turns : Nat) (protocol : UInt8) (offset : Nat)
    (inside : offset ≤ packet.length) {found : UInt8 × Nat}
    (result : SelectiveFec.ipv6Loop packet turns protocol offset = some found) :
    found.2 ≤ packet.length := by
  induction turns generalizing protocol offset with
  | zero =>
    cases result
    exact inside
  | succ turns ih =>
    rw [SelectiveFec.ipv6Loop] at result
    cases header : extensionHeader packet protocol offset with
    | refuse =>
      rw [header] at result
      cases result
    | leave =>
      rw [header] at result
      cases result
      exact inside
    | onward next later =>
      rw [header] at result
      dsimp only at result
      by_cases beyond : packet.length < later
      · rw [if_pos beyond] at result
        cases result
      · rw [if_neg beyond] at result
        exact ih next later (by omega) result

/-- The chain of headers of an IPv6 packet: an extension header names the protocol after it. -/
inductive Follows (packet : List UInt8) : UInt8 × Nat → UInt8 × Nat → Prop where
  /-- Hop-by-hop options, a routing header or destination options. -/
  | options {protocol : UInt8} {offset : Nat} {header : List UInt8}
      (kind : protocol = 0 ∨ protocol = 43 ∨ protocol = 60)
      (read : getRange packet offset (offset + 2) = some header) :
      Follows packet (protocol, offset)
        (header[0]?.getD 0, offset + ((header[1]?.getD 0).toNat + 1) * 8)
  /-- A fragment header. -/
  | fragment {offset : Nat} {header : List UInt8}
      (read : getRange packet offset (offset + 8) = some header) :
      Follows packet (44, offset) (header[0]?.getD 0, offset + 8)
  /-- An authentication header. -/
  | authentication {offset : Nat} {header : List UInt8}
      (read : getRange packet offset (offset + 2) = some header) :
      Follows packet (51, offset)
        (header[0]?.getD 0, offset + ((header[1]?.getD 0).toNat + 2) * 4)

/-- An IPv6 packet whose chain has a fragment header with an offset. -/
def LaterIpv6 (packet : List UInt8) : Prop :=
  packet[0]?.getD 0 >>> 4 = 6 ∧ ∃ offset header,
    Relation.ReflTransGen (Follows packet) (packet[6]?.getD 0, 40) (44, offset) ∧
      getRange packet offset (offset + 8) = some header ∧
        Bytes.fromBe (Bytes.slice header 2 4) &&& 0xfff8 ≠ 0

/-- The protocol has ports, and the packet is classified by what stands at its offset. -/
def HasPorts (protocol : UInt8) : Prop := protocol = 6 ∨ protocol = 17

instance (protocol : UInt8) : Decidable (HasPorts protocol) :=
  inferInstanceAs (Decidable (_ ∨ _))

/-- The two functions agree on a packet, and none of them takes the payload of a later fragment for
a header with ports. -/
def Coincide (packet : List UInt8) : Prop :=
  Agree packet ∧ (LaterIpv4 packet ∨ LaterIpv6 packet →
    ∀ protocol offset, internetTransport packet = some (protocol, offset) → ¬HasPorts protocol)

/-- Where the chain goes on, the loop goes on or refuses the packet. -/
theorem Follows.turn {packet : List UInt8} {here next : UInt8 × Nat}
    (follows : Follows packet here next) :
    ¬HasPorts here.1 ∧ (extensionHeader packet here.1 here.2 = .refuse ∨
      extensionHeader packet here.1 here.2 = .onward next.1 next.2) := by
  cases follows with
  | options kind read =>
    refine ⟨?_, .inr ?_⟩
    · rintro (tcp | udp)
      · subst tcp
        revert kind
        decide
      · subst udp
        revert kind
        decide
    · simp only [extensionHeader, if_pos kind, read]
  | fragment read =>
    refine ⟨show ¬HasPorts 44 by decide, ?_⟩
    have other : ¬((44 : UInt8) = 0 ∨ (44 : UInt8) = 43 ∨ (44 : UInt8) = 60) := by decide
    simp only [extensionHeader, if_neg other, if_true, read]
    split
    · exact .inl rfl
    · exact .inr rfl
  | authentication read =>
    refine ⟨show ¬HasPorts 51 by decide, .inr ?_⟩
    have other : ¬((51 : UInt8) = 0 ∨ (51 : UInt8) = 43 ∨ (51 : UInt8) = 60) := by decide
    have apart : ¬(51 : UInt8) = 44 := by decide
    simp only [extensionHeader, if_neg other, if_neg apart, if_true, read]

/-- A fragment header with an offset is refused. -/
theorem extensionHeader_later {packet header : List UInt8} {offset : Nat}
    (read : getRange packet offset (offset + 8) = some header)
    (later : Bytes.fromBe (Bytes.slice header 2 4) &&& 0xfff8 ≠ 0) :
    extensionHeader packet 44 offset = .refuse := by
  have other : ¬((44 : UInt8) = 0 ∨ (44 : UInt8) = 43 ∨ (44 : UInt8) = 60) := by decide
  simp only [extensionHeader, if_neg other, if_true, read, if_pos later]

/-- Before a fragment header with an offset the loop finds no ports. -/
theorem ipv6Loop_later {packet header : List UInt8} {offset : Nat}
    (read : getRange packet offset (offset + 8) = some header)
    (later : Bytes.fromBe (Bytes.slice header 2 4) &&& 0xfff8 ≠ 0) {here : UInt8 × Nat}
    (chain : Relation.ReflTransGen (Follows packet) here (44, offset)) (turns : Nat)
    {found : UInt8 × Nat}
    (result : SelectiveFec.ipv6Loop packet turns here.1 here.2 = some found) :
    ¬HasPorts found.1 := by
  induction chain using Relation.ReflTransGen.head_induction_on generalizing turns with
  | refl =>
    cases turns with
    | zero =>
      cases result
      change ¬HasPorts 44
      decide
    | succ turns =>
      rw [SelectiveFec.ipv6Loop, extensionHeader_later read later] at result
      cases result
  | head follows _ ih =>
    obtain ⟨portless, turn⟩ := follows.turn
    cases turns with
    | zero =>
      cases result
      exact portless
    | succ turns =>
      rw [SelectiveFec.ipv6Loop] at result
      rcases turn with refused | onward
      · rw [refused] at result
        cases result
      · rw [onward] at result
        dsimp only at result
        split at result
        · cases result
        · exact ih turns result

section Versions

variable {first : UInt8} {rest : List UInt8}

/-- What both functions find in an IPv4 packet, up to fragments. -/
theorem ipv4_cases (rest : List UInt8) (version : first >>> 4 = 4) :
    (LaterIpv4 (first :: rest) ∧ (internetTransport (first :: rest)).isSome = true ∧
        transportOf (first :: rest) = none) ∨
      (¬LaterIpv4 (first :: rest) ∧ Agree (first :: rest)) := by
  have four : transportOf (first :: rest) = SelectiveFec.ipv4Transport (first :: rest) := by
    simp only [transportOf, List.head?_cons, version, if_true]
  have found : internetTransport (first :: rest) =
      if 20 ≤ (first &&& 0x0f).toNat * 4 ∧ (first &&& 0x0f).toNat * 4 ≤ (first :: rest).length then
        some ((first :: rest)[9]?.getD 0, (first &&& 0x0f).toNat * 4)
      else none := by
    simp only [internetTransport, List.head?_cons, version, if_true]
  have byte : (first :: rest)[0]?.getD 0 = first := rfl
  unfold Agree
  rw [found, four, SelectiveFec.ipv4Transport, byte]
  by_cases whole : 20 ≤ (first &&& 0x0f).toNat * 4 ∧
      (first &&& 0x0f).toNat * 4 ≤ (first :: rest).length
  · have long : ¬((first :: rest).length < 20 ∨ first >>> 4 ≠ 4) := by
      rintro (short | other)
      · omega
      · exact other version
    rw [if_pos whole, if_neg long]
    dsimp only
    rw [if_neg (by omega)]
    by_cases later : fragmentOffset (first :: rest) = 0
    · have same : ¬Bytes.fromBe (Bytes.slice (first :: rest) 6 8) &&& 0x1fff ≠ 0 :=
        fun offset => offset later
      rw [if_neg same]
      exact .inr ⟨fun fragment => fragment.2.2.2 later, whole.2, rfl⟩
    · have same : Bytes.fromBe (Bytes.slice (first :: rest) 6 8) &&& 0x1fff ≠ 0 := later
      rw [if_pos same]
      exact .inl ⟨⟨version, whole.1, whole.2, later⟩, rfl, rfl⟩
  · right
    refine ⟨fun fragment => whole ⟨fragment.2.1, fragment.2.2.1⟩, ?_⟩
    rw [if_neg whole]
    dsimp only
    split
    · rfl
    · rw [if_pos (by omega)]

/-- Both functions find the same in an IPv6 packet. -/
theorem ipv6_agree (rest : List UInt8) (version : first >>> 4 = 6) :
    Agree (first :: rest) ∧ internetTransport (first :: rest) =
      if 40 ≤ (first :: rest).length then
        SelectiveFec.ipv6Loop (first :: rest) 8 ((first :: rest)[6]?.getD 0) 40
      else none := by
  have other : ¬(6 : UInt8) = 4 := by decide
  have six : transportOf (first :: rest) = SelectiveFec.ipv6Transport (first :: rest) := by
    simp only [transportOf, List.head?_cons, version, if_neg other, if_true]
  have found : internetTransport (first :: rest) =
      if 40 ≤ (first :: rest).length then
        SelectiveFec.ipv6Loop (first :: rest) 8 ((first :: rest)[6]?.getD 0) 40
      else none := by
    simp only [internetTransport, List.head?_cons, version, if_neg other, true_and,
      StripedScheduler.ipv6Transport, ipv6Loop_eq]
  refine ⟨?_, found⟩
  have byte : (first :: rest)[0]?.getD 0 = first := rfl
  unfold Agree
  rw [found, six, SelectiveFec.ipv6Transport, byte]
  by_cases long : 40 ≤ (first :: rest).length
  · have whole : ¬((first :: rest).length < 40 ∨ first >>> 4 ≠ 6) := by
      rintro (short | wrong)
      · omega
      · exact wrong version
    rw [if_pos long, if_neg whole]
    cases result : SelectiveFec.ipv6Loop (first :: rest) 8 ((first :: rest)[6]?.getD 0) 40 with
    | none => rfl
    | some found =>
      obtain ⟨protocol, offset⟩ := found
      have inside := ipv6Loop_inside _ _ _ _ long result
      have range : getRange (first :: rest) offset (first :: rest).length =
          some ((first :: rest).drop offset) := by
        rw [getRange, if_pos ⟨inside, Nat.le_refl _⟩, Bytes.slice, List.take_length]
      dsimp only at inside ⊢
      rw [range]
      exact ⟨inside, rfl⟩
  · rw [if_neg long, if_pos (.inl (by omega))]

end Versions

/-- The two functions agree on a packet exactly when it is no later fragment of an IPv4 datagram. -/
theorem coincide_iff (packet : List UInt8) : Coincide packet ↔ ¬LaterIpv4 packet := by
  cases packet with
  | nil =>
    have none : ¬LaterIpv4 [] := by decide
    refine ⟨fun _ => none, fun _ => ⟨rfl, ?_⟩⟩
    intro _ protocol offset found
    cases found
  | cons first rest =>
    by_cases four : first >>> 4 = 4
    · rcases ipv4_cases rest four with ⟨later, found, refused⟩ | ⟨whole, agree⟩
      · refine ⟨fun coincide => ?_, fun whole => absurd later whole⟩
        obtain ⟨transport, found⟩ := Option.isSome_iff_exists.mp found
        have agree := coincide.1
        unfold Agree at agree
        rw [found, refused] at agree
        cases agree.2
      · refine ⟨fun _ => whole, fun _ => ⟨agree, ?_⟩⟩
        rintro (later | later)
        · exact absurd later whole
        · have six : first >>> 4 = 6 := later.1
          rw [four] at six
          exact absurd six (by decide)
    · have other : ¬LaterIpv4 (first :: rest) := fun later => four later.1
      refine ⟨fun _ => other, fun _ => ?_⟩
      by_cases six : first >>> 4 = 6
      · obtain ⟨agree, walk⟩ := ipv6_agree rest six
        refine ⟨agree, ?_⟩
        rintro (later | ⟨_, offset, header, chain, read, bits⟩) protocol place found
        · exact absurd later other
        · rw [walk] at found
          split at found
          · exact ipv6Loop_later read bits chain 8 found
          · cases found
      · have neither : internetTransport (first :: rest) = none ∧
            transportOf (first :: rest) = none := by
          simp [internetTransport, transportOf, four, six]
        refine ⟨?_, fun _ protocol offset found => ?_⟩
        · unfold Agree
          rw [neither.1]
          exact neither.2
        · rw [neither.1] at found
          cases found

/-- Where only the scheduler finds a transport the functions do not agree. -/
theorem not_coincide {packet : List UInt8} {found : UInt8 × Nat}
    (read : internetTransport packet = some found) (refused : transportOf packet = none) :
    ¬Coincide packet := by
  rintro ⟨agree, _⟩
  unfold Agree at agree
  rw [read, refused] at agree
  cases agree.2

/-- The second fragment of a UDP datagram whose payload goes on with the given bytes. -/
def laterFragment (payload : List UInt8) : List UInt8 :=
  Bytes.be 20 0x450000cc000000b940110000c0000201c0000202 ++ payload ++ List.replicate 180 0

/-- What its payload looks like decides on its class: with 53 where a port would be it goes with the
short packets. The other function does not look at it. -/
theorem laterFragment_read :
    ¬(∀ packet, Coincide packet) ∧
      internetTransport (laterFragment [0, 53, 0, 0]) = some (17, 20) ∧
      packetClass (laterFragment [0, 53, 0, 0]) = .small ∧
      packetClass (laterFragment [0, 0, 0, 0]) = .medium ∧
      transportOf (laterFragment [0, 53, 0, 0]) = none := by
  have found : internetTransport (laterFragment [0, 53, 0, 0]) = some (17, 20) := by
    decide +kernel
  have refused : transportOf (laterFragment [0, 53, 0, 0]) = none := by decide +kernel
  exact ⟨fun always => not_coincide found refused (always _), found, by decide +kernel,
    by decide +kernel, refused⟩

end Focsq.Transports
