import Focsq.Backend.ReaderLoop
import Focsq.Lib.Mealy
import Focsq.Verif.FlowFrame
import Focsq.Verif.Protocol

/-!
# Messages and packets are told apart

Everything that a session receives is handled in exactly one way, because no message begins like
one of another kind. Nor does an IP packet begin like a message: the letters would be an IPv4 header
whose version is another one, which is too short, or whose total length is more than a packet can
have. So no packet is lost to a message.
-/

namespace Focsq.Session

open Dispatcher FlowFrame Packet Protocol Repair

variable {notifies : Notify} {ω : Type}

section Statement

/-- Messages that the loop acts on. -/
inductive Message where
  /-- The panel restarts. -/
  | panelRestart
  /-- A command to repair streams. -/
  | repair
  /-- A command about streams that are alive. -/
  | alive
  /-- What the coordinator waits for. -/
  | shutdown
  /-- An answer with the configuration. -/
  | config
  deriving DecidableEq

/-- Branches of the loop. -/
inductive ReaderBranch where
  /-- The loop acts on a message. -/
  | message (kind : Message)
  /-- It ignores one. -/
  | control
  /-- It drops what is no IP packet. -/
  | dropped
  /-- It returns a packet. -/
  | returned
  deriving DecidableEq

/-- The branch that an event comes from. -/
def ReaderEvent.branch : ReaderEvent → ReaderBranch
  | .panelRestart => .message .panelRestart
  | .repair _ _ => .message .repair
  | .alive _ _ => .message .alive
  | .shutdown => .message .shutdown
  | .config _ => .message .config
  | .control => .control
  | .dropped => .dropped
  | .returned _ => .returned

/-- A packet is a message of a kind, whatever else it might be. -/
def Message.Is (runtime : ReaderRuntime notifies ω) (payload : List UInt8) : Message → Prop
  | .panelRestart => payload = panelRestartNotice
  | .repair => ∃ command, parseStreamRepair payload = some command
  | .alive => ∃ command, parseStreamAlive payload = some command
  | .shutdown => endsShutdown payload = true ∧ runtime.shutdown.state.active = true ∧
      runtime.shutdown.state.completed = false
  | .config => ascii "TUNCONF:" <+: payload

/-- A branch is for a packet, whatever others might be. -/
def ReaderBranch.Suits (runtime : ReaderRuntime notifies ω) (packet : List UInt8) :
    ReaderBranch → Prop
  | .message kind => kind.Is runtime packet
  | .control => isControlResponse packet = true ∧ ∀ kind : Message, ¬kind.Is runtime packet
  | .dropped => isControlResponse packet = false ∧ isIpPacket (payload packet) = false
  | .returned => isControlResponse packet = false ∧ isIpPacket (payload packet) = true

/-- The version of IP. -/
def ipVersion (packet : List UInt8) : UInt8 := packet.headD 0 >>> 4

/-- The field of the IPv4 header with the length of the packet. -/
def totalLength (packet : List UInt8) : Nat := Bytes.fromBe (Bytes.slice packet 2 4)

/-- An IPv4 packet has the length that its header says, which is at most 2240. -/
def LengthSaid (packet : List UInt8) : Prop :=
  ipVersion packet = 4 ∧ totalLength packet = packet.length ∧ packet.length ≤ 2240 ∨
    ipVersion packet = 6

/-- Whether the loop returns what it receives. -/
def isInbound (packet : PacketBuf) : Bool :=
  !isControlResponse packet.asSlice && isIpPacket (payload packet.asSlice)

/-- The packet that is returned. -/
def ReaderEvent.packet : ReaderEvent → Option PacketBuf
  | .returned packet => some packet
  | _ => none

end Statement

section Messages

/-- How messages begin that the loop acts on. -/
def messageLeads : List (Message × List UInt8) :=
  [(.panelRestart, panelRestartNotice), (.repair, streamRepairPrefix), (.alive, streamAlivePrefix),
    (.shutdown, ascii "OK:disconnected"), (.shutdown, ascii "DENIED:"), (.config, ascii "TUNCONF:")]

/-- What ends a shutdown begins with one of two words. -/
theorem endsShutdown_lead {response : List UInt8} (ends : endsShutdown response = true) :
    ascii "OK:disconnected" <+: response ∨ ascii "DENIED:" <+: response := by
  rcases Bool.or_eq_true_iff.mp ends with whole | begins
  · rw [beq_iff_eq.mp whole]
    exact .inl (List.prefix_refl _)
  · exact .inr (List.isPrefixOf_iff_prefix.mp begins)

/-- Messages begin as they do. -/
theorem Message.Is.lead {runtime : ReaderRuntime notifies ω} {payload : List UInt8}
    {message : Message} (here : message.Is runtime payload) :
    ∃ lead, (message, lead) ∈ messageLeads ∧ lead <+: payload := by
  cases message with
  | panelRestart =>
    have same : payload = panelRestartNotice := here
    exact ⟨panelRestartNotice, by simp [messageLeads], by rw [same]⟩
  | repair =>
    obtain ⟨command, parsed⟩ := here
    exact ⟨_, by simp [messageLeads], lead_of_parseStreamCommand parsed⟩
  | alive =>
    obtain ⟨command, parsed⟩ := here
    exact ⟨_, by simp [messageLeads], lead_of_parseStreamCommand parsed⟩
  | shutdown =>
    rcases endsShutdown_lead here.1 with ok | denied
    · exact ⟨_, by simp [messageLeads], ok⟩
    · exact ⟨_, by simp [messageLeads], denied⟩
  | config => exact ⟨_, by simp [messageLeads], here⟩

/-- Messages of different kinds do not begin alike. -/
theorem messageLeads_differ : ∀ left ∈ messageLeads, ∀ right ∈ messageLeads,
    left.2 <+: right.2 → left.1 = right.1 := by
  decide +kernel

/-- No message is of two kinds. -/
theorem Message.Is.unique {runtime : ReaderRuntime notifies ω} {payload : List UInt8}
    {message other : Message} (here : message.Is runtime payload)
    (there : other.Is runtime payload) : message = other := by
  obtain ⟨lead, member, begins⟩ := here.lead
  obtain ⟨otherLead, otherMember, otherBegins⟩ := there.lead
  rcases List.prefix_or_prefix_of_prefix begins otherBegins with shorter | longer
  · exact messageLeads_differ _ member _ otherMember shorter
  · exact (messageLeads_differ _ otherMember _ member longer).symm

/-- How control messages begin, the notice included. -/
def controlLeads : List (List UInt8) := panelRestartNotice :: controlPrefixes

/-- A control message begins as it should. -/
theorem lead_of_isControlResponse {response : List UInt8}
    (control : isControlResponse response = true) : ∃ lead ∈ controlLeads, lead <+: response := by
  rcases Bool.or_eq_true_iff.mp control with notice | begins
  · have same : response = panelRestartNotice := beq_iff_eq.mp notice
    exact ⟨panelRestartNotice, List.mem_cons_self, by rw [same]⟩
  · obtain ⟨lead, member, here⟩ := List.any_eq_true.mp begins
    exact ⟨lead, List.mem_cons_of_mem _ member, List.isPrefixOf_iff_prefix.mp here⟩

/-- Messages are control messages. -/
theorem Message.Is.control {runtime : ReaderRuntime notifies ω} {payload : List UInt8}
    {message : Message} (here : message.Is runtime payload) : isControlResponse payload = true := by
  have known : ∀ lead ∈ messageLeads, lead.1 = .panelRestart ∨ lead.2 ∈ controlPrefixes := by
    decide +kernel
  obtain ⟨lead, member, begins⟩ := here.lead
  rcases known _ member with notice | listed
  · have notice : message = .panelRestart := notice
    subst notice
    have same : payload = panelRestartNotice := here
    rw [isControlResponse, isPanelRestartNotice, same, beq_self_eq_true, Bool.true_or]
  · refine Bool.or_eq_true_iff.mpr (.inr (List.any_eq_true.mpr ⟨lead, listed, ?_⟩))
    exact List.isPrefixOf_iff_prefix.mpr begins

end Messages

section Branches

/-- When the coordinator takes a response. -/
theorem observeControlResponse_snd (runtime : ReaderRuntime notifies ω) (payload : List UInt8) :
    (runtime.shutdown.observeControlResponse payload).2 = true ↔
      Message.shutdown.Is runtime payload := by
  unfold ShutdownCoordinator.observeControlResponse ShutdownState.observe Message.Is
  cases endsShutdown payload <;> cases runtime.shutdown.state.active <;>
    cases runtime.shutdown.state.completed <;> simp

/-- The loop acts on a message. -/
theorem branch_of_message (runtime : ReaderRuntime notifies ω) (packet : PacketBuf)
    {message : Message} (here : message.Is runtime packet.asSlice) :
    (readerLoop runtime packet).2.branch = .message message := by
  have other {kind : Message} (differ : kind ≠ message) : ¬kind.Is runtime packet.asSlice :=
    fun there => differ (there.unique here)
  have notice (differ : Message.panelRestart ≠ message) :
      isPanelRestartNotice packet.asSlice = false :=
    Bool.eq_false_iff.mpr fun notice => other differ (beq_iff_eq.mp notice)
  have repair (differ : Message.repair ≠ message) : parseStreamRepair packet.asSlice = none :=
    Option.eq_none_iff_forall_ne_some.mpr fun command parsed => other differ ⟨command, parsed⟩
  have alive (differ : Message.alive ≠ message) : parseStreamAlive packet.asSlice = none :=
    Option.eq_none_iff_forall_ne_some.mpr fun command parsed => other differ ⟨command, parsed⟩
  have shutdown (differ : Message.shutdown ≠ message) :
      (runtime.shutdown.observeControlResponse packet.asSlice).2 = false :=
    Bool.eq_false_iff.mpr fun observed =>
      other differ ((observeControlResponse_snd runtime packet.asSlice).mp observed)
  cases message with
  | panelRestart =>
    have same : isPanelRestartNotice packet.asSlice = true := beq_iff_eq.mpr here
    simp [readerLoop, same, ReaderEvent.branch]
  | repair =>
    obtain ⟨command, parsed⟩ := here
    simp [readerLoop, notice (by decide), parsed, ReaderEvent.branch]
  | alive =>
    obtain ⟨command, parsed⟩ := here
    simp [readerLoop, notice (by decide), repair (by decide), parsed, ReaderEvent.branch]
  | shutdown =>
    have observed := (observeControlResponse_snd runtime packet.asSlice).mpr here
    simp [readerLoop, notice (by decide), repair (by decide), alive (by decide), observed,
      ReaderEvent.branch]
  | config =>
    have begins := List.isPrefixOf_iff_prefix.mpr here
    simp [readerLoop, notice (by decide), repair (by decide), alive (by decide),
      shutdown (by decide), deliverInbound, begins, ReaderEvent.branch]

/-- What is no message that the loop acts on changes nothing. -/
theorem readerLoop_of_none (runtime : ReaderRuntime notifies ω) (packet : PacketBuf)
    (none_is : ∀ message : Message, ¬message.Is runtime packet.asSlice) :
    readerLoop runtime packet = (runtime,
      if isControlResponse packet.asSlice then .control
      else if !isIpPacket (payload packet.asSlice) then .dropped
      else .returned packet) := by
  have notice : isPanelRestartNotice packet.asSlice = false :=
    Bool.eq_false_iff.mpr fun notice => none_is .panelRestart (beq_iff_eq.mp notice)
  have repair : parseStreamRepair packet.asSlice = none :=
    Option.eq_none_iff_forall_ne_some.mpr fun command parsed => none_is .repair ⟨command, parsed⟩
  have alive : parseStreamAlive packet.asSlice = none :=
    Option.eq_none_iff_forall_ne_some.mpr fun command parsed => none_is .alive ⟨command, parsed⟩
  have shutdown : (runtime.shutdown.observeControlResponse packet.asSlice).2 = false :=
    Bool.eq_false_iff.mpr fun observed =>
      none_is .shutdown ((observeControlResponse_snd runtime packet.asSlice).mp observed)
  have config : (ascii "TUNCONF:").isPrefixOf packet.asSlice = false :=
    Bool.eq_false_iff.mpr fun begins => none_is .config (List.isPrefixOf_iff_prefix.mp begins)
  simp only [readerLoop, notice, repair, alive, shutdown, deliverInbound, config,
    Bool.false_eq_true, if_false]

/-- The loop takes a branch that suits. -/
theorem branch_of_suits (runtime : ReaderRuntime notifies ω) (packet : PacketBuf)
    {branch : ReaderBranch} (suits : branch.Suits runtime packet.asSlice) :
    (readerLoop runtime packet).2.branch = branch := by
  cases branch with
  | message message => exact branch_of_message runtime packet suits
  | control =>
    rw [readerLoop_of_none runtime packet suits.2, if_pos suits.1]
    rfl
  | dropped =>
    have none_is (message : Message) : ¬message.Is runtime packet.asSlice :=
      fun here => Bool.false_ne_true (suits.1.symm.trans here.control)
    simp only [readerLoop_of_none runtime packet none_is, suits.1, suits.2, Bool.not_false,
      Bool.false_eq_true, if_true, if_false]
    rfl
  | returned =>
    have none_is (message : Message) : ¬message.Is runtime packet.asSlice :=
      fun here => Bool.false_ne_true (suits.1.symm.trans here.control)
    simp only [readerLoop_of_none runtime packet none_is, suits.1, suits.2, Bool.not_true,
      Bool.false_eq_true, if_false]
    rfl

/-- Some branch suits. -/
theorem exists_suits (runtime : ReaderRuntime notifies ω) (packet : List UInt8) :
    ∃ branch : ReaderBranch, branch.Suits runtime packet := by
  by_cases known : ∃ message : Message, message.Is runtime packet
  · obtain ⟨message, here⟩ := known
    exact ⟨.message message, here⟩
  · cases control : isControlResponse packet with
    | true => exact ⟨.control, control, not_exists.mp known⟩
    | false =>
      cases ip : isIpPacket (payload packet) with
      | true => exact ⟨.returned, control, ip⟩
      | false => exact ⟨.dropped, control, ip⟩

/-- The loop takes the branch that suits, and no other one does. -/
theorem branch_eq_iff (runtime : ReaderRuntime notifies ω) (packet : PacketBuf)
    (branch : ReaderBranch) :
    (readerLoop runtime packet).2.branch = branch ↔ branch.Suits runtime packet.asSlice := by
  refine ⟨fun taken => ?_, branch_of_suits runtime packet⟩
  obtain ⟨other, suits⟩ := exists_suits runtime packet.asSlice
  rw [← taken, branch_of_suits runtime packet suits]
  exact suits

/-- When a packet is returned, and it is the one that was received. -/
theorem readerLoop_packet (runtime : ReaderRuntime notifies ω) (packet : PacketBuf) :
    (readerLoop runtime packet).2.packet = if isInbound packet then some packet else none := by
  by_cases known : ∃ message : Message, message.Is runtime packet.asSlice
  · obtain ⟨message, here⟩ := known
    have branch := branch_of_message runtime packet here
    have control := here.control
    cases event : (readerLoop runtime packet).2 with
    | returned other =>
      rw [event] at branch
      cases branch
    | panelRestart | repair | alive | shutdown | config | control | dropped =>
      simp [ReaderEvent.packet, isInbound, control]
  · rw [readerLoop_of_none runtime packet (not_exists.mp known)]
    unfold isInbound
    cases isControlResponse packet.asSlice <;> cases isIpPacket (payload packet.asSlice) <;> rfl

end Branches

section Packets

/-- No control message begins like a frame. -/
theorem controlLeads_frame : ∀ lead ∈ controlLeads,
    ¬lead <+: frameMagic ∧ ¬frameMagic <+: lead := by
  decide +kernel

/-- Nor like an IP packet: another version, a header that is too short, or a packet that is too
long. -/
theorem controlLeads_ip : ∀ lead ∈ controlLeads, 4 ≤ lead.length ∧ ipVersion lead ≠ 6 ∧
    (ipVersion lead = 4 → (lead.headD 0 &&& 0x0f).toNat * 4 < 20 ∨ 2240 < totalLength lead) := by
  decide +kernel

/-- An IPv4 packet has a header of 20 bytes at least. -/
theorem headerLen_of_isIpPacket {packet : List UInt8} (ip : isIpPacket packet = true)
    (version : ipVersion packet = 4) : 20 ≤ (packet.headD 0 &&& 0x0f).toNat * 4 := by
  cases packet with
  | nil => cases ip
  | cons first rest =>
    have version : first >>> 4 = 4 := version
    simp only [isIpPacket, List.head?_cons, version, ↓reduceIte] at ip
    by_cases short : (first :: rest).length < 20
    · rw [if_pos short] at ip
      cases ip
    · rw [if_neg short] at ip
      exact (of_decide_eq_true ip).1

/-- No IP packet is a control message. -/
theorem isControlResponse_ip {packet : List UInt8} (ip : isIpPacket packet = true)
    (said : LengthSaid packet) : isControlResponse packet = false := by
  refine Bool.eq_false_iff.mpr fun control => ?_
  obtain ⟨lead, member, rest, whole⟩ := lead_of_isControlResponse control
  obtain ⟨long, other, four⟩ := controlLeads_ip lead member
  have first : packet.headD 0 = lead.headD 0 := by
    cases lead with
    | nil => simp at long
    | cons letter letters => rw [← whole, List.cons_append, List.headD_cons, List.headD_cons]
  have version : ipVersion packet = ipVersion lead := by rw [ipVersion, ipVersion, first]
  have total : totalLength packet = totalLength lead :=
    congrArg Bytes.fromBe (whole ▸ Bytes.slice_append_left lead rest 2 4 long)
  rcases said with ⟨ipv4, length, small⟩ | ipv6
  · have header := headerLen_of_isIpPacket ip ipv4
    rw [first] at header
    rcases four (version ▸ ipv4) with short | large
    · omega
    · omega
  · exact other (version ▸ ipv6)

/-- No frame is a control message. -/
theorem isControlResponse_frame (header : FrameHeader) (packet : List UInt8) :
    isControlResponse (header.encode ++ packet) = false := by
  refine Bool.eq_false_iff.mpr fun control => ?_
  obtain ⟨lead, member, begins⟩ := lead_of_isControlResponse control
  have magic : frameMagic <+: header.encode ++ packet := by
    unfold FrameHeader.encode
    simp only [List.append_assoc]
    exact List.prefix_append _ _
  rcases List.prefix_or_prefix_of_prefix begins magic with shorter | longer
  · exact (controlLeads_frame lead member).1 shorter
  · exact (controlLeads_frame lead member).2 longer

/-- Every IP packet is returned, with its frame or as it is. -/
theorem isInbound_ip (packet : PacketBuf) (ip : List UInt8) (valid : isIpPacket ip = true)
    (said : LengthSaid ip)
    (bytes : packet.asSlice = ip ∨ ∃ header : FrameHeader, packet.asSlice = header.encode ++ ip) :
    isInbound packet = true := by
  unfold isInbound
  rcases bytes with bare | ⟨header, framed⟩
  · rw [bare, isControlResponse_ip valid said, payload_isIpPacket ip valid, valid]
    rfl
  · rw [framed, isControlResponse_frame, payload_encode, valid]
    rfl

end Packets

section Run

/-- What the loop returns of all that it receives. -/
theorem returned_run (runtime : ReaderRuntime notifies ω) (packets : List PacketBuf) :
    (Mealy.outputs readerLoop runtime packets).filterMap ReaderEvent.packet =
      packets.filter isInbound := by
  induction packets generalizing runtime with
  | nil => rfl
  | cons packet rest ih =>
    rw [Mealy.outputs, List.filterMap_cons, readerLoop_packet, ih]
    cases inbound : isInbound packet with
    | true => simp [inbound]
    | false => simp [inbound]

/-- The loop takes exactly one branch for everything it receives; an IP packet is returned as it
was received, in its frame or without one; only packets are returned, and over a whole run these are
the packets that were received. -/
theorem readerLoop_demultiplexes (runtime : ReaderRuntime notifies ω) (packet : PacketBuf)
    (packets : List PacketBuf) :
    (∃! branch : ReaderBranch, branch.Suits runtime packet.asSlice) ∧
      (readerLoop runtime packet).2.branch.Suits runtime packet.asSlice ∧
      (∀ ip, isIpPacket ip = true → LengthSaid ip →
        (packet.asSlice = ip ∨
          ∃ header : FrameHeader, packet.asSlice = header.encode ++ ip) →
        isControlResponse packet.asSlice = false ∧
          readerLoop runtime packet = (runtime, .returned packet)) ∧
      (∀ other, (readerLoop runtime packet).2 = .returned other →
        other = packet ∧ isIpPacket (payload packet.asSlice) = true) ∧
      (Mealy.outputs readerLoop runtime packets).filterMap ReaderEvent.packet =
        packets.filter isInbound := by
  refine ⟨?_, (branch_eq_iff runtime packet _).mp rfl, ?_, ?_, returned_run runtime packets⟩
  · refine ⟨_, (branch_eq_iff runtime packet _).mp rfl, fun branch suits => ?_⟩
    exact ((branch_eq_iff runtime packet branch).mpr suits).symm
  · intro ip valid said bytes
    have inbound := isInbound_ip packet ip valid said bytes
    obtain ⟨control, sound⟩ := Bool.and_eq_true_iff.mp inbound
    have control : isControlResponse packet.asSlice = false := Bool.not_eq_true' _ |>.mp control
    have none_is (message : Message) : ¬message.Is runtime packet.asSlice :=
      fun here => Bool.false_ne_true (control.symm.trans here.control)
    refine ⟨control, ?_⟩
    simp only [readerLoop_of_none runtime packet none_is, control, sound, Bool.not_true,
      Bool.false_eq_true, if_false]
  · intro other returned
    have same := readerLoop_packet runtime packet
    rw [returned] at same
    by_cases inbound : isInbound packet = true
    · rw [if_pos inbound] at same
      exact ⟨Option.some.inj same, (Bool.and_eq_true_iff.mp inbound).2⟩
    · rw [if_neg inbound] at same
      cases same

/-- An IPv4 header without anything behind it. -/
def bareHeader : List UInt8 :=
  [0x45, 0, 0, 20, 0, 0, 0, 0, 64, 6, 0, 0, 10, 0, 0, 1, 10, 0, 0, 2]

/-- It is received at the start of a buffer. -/
def barePacket : PacketBuf := .holding bareHeader 0 (by decide)

/-- At first nothing has happened. -/
def freshRuntime : ReaderRuntime .counted Unit := ⟨.new .counted 9, .new .counted Unit⟩

/-- The packet is returned. -/
theorem barePacket_returned : isControlResponse barePacket.asSlice = false ∧
    readerLoop freshRuntime barePacket = (freshRuntime, .returned barePacket) :=
  (readerLoop_demultiplexes freshRuntime barePacket []).2.2.1 bareHeader (by decide)
    (.inl ⟨by decide, by decide, by decide⟩) (.inl (PacketBuf.asSlice_holding _ _ _))

end Run

end Focsq.Session
