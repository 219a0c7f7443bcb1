import Focsq.Backend.FlowFrame

/-!
# Framing of outbound packets

`dispatcher.rs` reads IP packets from the tunnel device and frames them before they are handed
to the sessions.
-/

namespace Focsq.Dispatcher

open Packet FlowFrame

/-- `frame_outbound_packet` — prepend a frame header, if the packet is to have one; the answer is
whether the packet can be sent. -/
def frameOutboundPacket (sequences : FlowSequencer) (packet : PacketBuf) :
    Except Failure (Bool × FlowSequencer × PacketBuf) :=
  match sequences.next packet.asSlice with
  | (sequences, none) => .ok (true, sequences, packet)
  | (sequences, some header) =>
    match packet.prepend frameLen with
    | .error _ => .ok (false, sequences, packet)
    | .ok packet => do
      let packet ← packet.write packet.start header.encode
      return (true, sequences, packet)

end Focsq.Dispatcher
