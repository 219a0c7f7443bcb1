import Focsq.Backend.FlowFrame
import Focsq.Backend.Repair
import Focsq.Backend.Session
import Focsq.Backend.Shutdown

/-!
# What a session receives

The server sends packets and control messages over the same stream. The loop that reads them
recognises a message by how it begins, and everything else is a packet if it has an IP header, in
its frame or as it is. Only such packets go on to the TUN device, which would refuse others.
-/

namespace Focsq.Session

open Dispatcher FlowFrame Packet Protocol Repair

/-- What the loop uses and changes. The counters of what it has logged are left out. -/
structure ReaderRuntime (notifies : Notify) (ω : Type) where
  /-- The slots of the workers. -/
  repair : RepairState notifies
  /-- The coordinator. -/
  shutdown : ShutdownCoordinator notifies ω

/-- What the loop does with what it has received. -/
inductive ReaderEvent where
  /-- It reports that the panel restarts. -/
  | panelRestart
  /-- It applies a command to repair streams. -/
  | repair (command : StreamRepairCommand) (result : RepairApplyResult)
  /-- It applies a command about streams that are alive. -/
  | alive (command : StreamRepairCommand) (applied : Nat)
  /-- The coordinator has waited for it. -/
  | shutdown
  /-- It passes the configuration on, if there is one. -/
  | config (config : Option String)
  /-- It ignores another control message. -/
  | control
  /-- It drops what is no IP packet. -/
  | dropped
  /-- It passes a packet to `return_packet` of the dispatcher. -/
  | returned (packet : PacketBuf)
  deriving DecidableEq

variable {notifies : Notify} {ω : Type}

/-- The configuration that an answer holds. -/
def configOf (response : List UInt8) : Option String :=
  match parseConfigResponse response with
  | .ok (.config config) => some config
  | .ok .noConfig | .error _ => none

/-- The end of the loop in `reader_loop`, for what is no message that changes something. -/
def deliverInbound (packet : PacketBuf) : ReaderEvent :=
  if (ascii "TUNCONF:").isPrefixOf packet.asSlice then .config (configOf packet.asSlice)
  else if isControlResponse packet.asSlice then .control
  else if !isIpPacket (payload packet.asSlice) then .dropped
  else .returned packet

/-- The loop in `reader_loop`, for what was received and authenticated. -/
def readerLoop (runtime : ReaderRuntime notifies ω) (packet : PacketBuf) :
    ReaderRuntime notifies ω × ReaderEvent :=
  if isPanelRestartNotice packet.asSlice then (runtime, .panelRestart)
  else
    match parseStreamRepair packet.asSlice with
    | some command =>
      ({ runtime with repair := (runtime.repair.applyRepair command).1 },
        .repair command (runtime.repair.applyRepair command).2)
    | none =>
      match parseStreamAlive packet.asSlice with
      | some command =>
        ({ runtime with repair := (runtime.repair.applyAlive command).1 },
          .alive command (runtime.repair.applyAlive command).2)
      | none =>
        if (runtime.shutdown.observeControlResponse packet.asSlice).2 then
          ({ runtime with
              shutdown := (runtime.shutdown.observeControlResponse packet.asSlice).1 },
            .shutdown)
        else (runtime, deliverInbound packet)

end Focsq.Session
