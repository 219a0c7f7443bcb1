import Focsq.Backend.Obfs
import Focsq.Backend.ReplayWindow

/-!
# Authenticated packets of a session

The reader of a session drops every packet that `authenticate_inbound` of `session.rs` refuses:
what does not look like RTP, what does not open under the key, and what the replay window of the
session has seen.
-/

namespace Focsq.Session

open Packet Obfs

/-- `ReplayProtection` — the replay window of a session. -/
structure ReplayProtection where
  /-- Window over the RTP sequence numbers. -/
  rtp : ReplayWindow
  deriving DecidableEq

/-- `ReplayProtection::default` — nothing has been received. -/
def ReplayProtection.default : ReplayProtection := ⟨.default⟩

/-- `authenticate_inbound` — an accepted packet is returned as it is then, unwrapped in place. -/
def authenticateInbound (cipher : ObfsCipher) (config : ObfsConfig) (replay : ReplayProtection)
    (packet : PacketBuf) : ReplayProtection × Option PacketBuf :=
  if isRtpPacket packet.asSlice then
    match cipher.unwrap packet config.mode with
    | .error _ => (replay, none)
    | .ok (packet, sequence) =>
      let (rtp, accepted) := replay.rtp.acceptRtp sequence
      (⟨rtp⟩, if accepted then some packet else none)
  else (replay, none)

/-- `is_ip_packet` — whether a packet has the length its IP header asks for. -/
def isIpPacket (packet : List UInt8) : Bool :=
  match packet.head? with
  | none => false
  | some first =>
    if first >>> 4 = 4 then
      if packet.length < 20 then false
      else
        let headerLen := (first &&& 0x0f).toNat * 4
        decide (20 ≤ headerLen ∧ headerLen ≤ packet.length)
    else if first >>> 4 = 6 then decide (40 ≤ packet.length)
    else false

end Focsq.Session
