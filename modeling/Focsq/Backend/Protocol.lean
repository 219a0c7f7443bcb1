import Focsq.Lib.Bytes

/-!
# Control messages

Besides IP packets, the server sends control messages over the same streams. `protocol.rs` tells
them apart by how they begin, and parses those that ask for streams to be restarted or confirm that
they are alive. Such a message counts the streams of the client, whose number `lib.rs` normalises.
-/

namespace Focsq.Protocol

/-- Bytes of an ASCII literal. -/
def ascii (text : String) : List UInt8 := text.toList.map fun letter => UInt8.ofNat letter.toNat

/-- `PANEL_RESTART_NOTICE`. -/
def panelRestartNotice : List UInt8 :=
  0xff :: ascii "CSQTT_PANEL_RESTART_V1" ++ [0x00, 0x91, 0x7d, 0x03, 0xa8]
/-- `STREAM_REPAIR_PREFIX`. -/
def streamRepairPrefix : List UInt8 := 0xff :: ascii "CSQTT_STREAM_REPAIR_V1"
/-- `STREAM_ALIVE_PREFIX`. -/
def streamAlivePrefix : List UInt8 := 0xff :: ascii "CSQTT_STREAM_ALIVE_V1"
/-- `MAX_STREAM_WORKERS`. -/
def maxStreamWorkers : UInt16 := 126

/-- `WIRE_PROTOCOL_REVISION`. -/
def wireProtocolRevision : String := "CSQTT-WIRE-3"

/-- `config_request` — the request for the configuration. -/
def configRequest (localPort deviceId password : String) (generationId : UInt64) (salt : String)
    (workerId : Nat) (desiredCount : Option Nat) : String :=
  let desiredCount := desiredCount.elim "" toString
  s!"GETCONF:{localPort}|{deviceId}|{password}|{generationId}|{salt}|{workerId}|{desiredCount}|{wireProtocolRevision}"

/-- `ConfigResponse` — the answer to a request for the configuration. -/
inductive ConfigResponse where
  /-- `Config` — the configuration as text. -/
  | config (text : String)
  /-- `NoConfig`. -/
  | noConfig
  deriving DecidableEq, Repr

/-- Why an answer is no configuration. -/
inductive ResponseError where
  /-- It is not a text. -/
  | utf8
  /-- `bail!` with its message. -/
  | bail (message : String)
  deriving DecidableEq, Repr

/-- The message about a denied request. -/
def deniedMessage (reason : String) : String :=
  match reason with
  | "wrong_password" => "FATAL_AUTH: неверный пароль подключения"
  | "expired" => "FATAL_AUTH: срок действия пароля истёк"
  | "device_mismatch" => "FATAL_AUTH: пароль привязан к другому устройству"
  | "protocol_mismatch" | "invalid_worker_count" =>
    "FATAL_PROTOCOL: клиент и сервер используют разные версии протокола; " ++
      "выполните деплой из этой версии приложения"
  | _ => "FATAL_AUTH: доступ запрещён (" ++ reason ++ ")"

/-- `parse_config_response`. -/
def parseConfigResponse (response : List UInt8) : Except ResponseError ConfigResponse :=
  match String.fromUTF8? ⟨response.toArray⟩ with
  | none => .error .utf8
  | some text =>
    if text = "NOCONF" then .ok .noConfig
    else if "DENIED:".toList.isPrefixOf text.toList then
      .error (.bail (deniedMessage (String.ofList (text.toList.drop 7))))
    else if "TUNCONF:".toList.isPrefixOf text.toList then .ok (.config text)
    else .error (.bail "unexpected GETCONF response")

/-- `is_panel_restart_notice`. -/
def isPanelRestartNotice (response : List UInt8) : Bool := response == panelRestartNotice

/-- How control messages begin. -/
def controlPrefixes : List (List UInt8) :=
  [ascii "TUNCONF:", ascii "NOCONF", ascii "DENIED:", ascii "READY_OK", ascii "OK:disconnected",
    streamRepairPrefix, streamAlivePrefix]

/-- `is_control_response`. -/
def isControlResponse (response : List UInt8) : Bool :=
  isPanelRestartNotice response || controlPrefixes.any fun lead => lead.isPrefixOf response

/-- `is_config_response`. -/
def isConfigResponse (response : List UInt8) : Bool :=
  [ascii "TUNCONF:", ascii "NOCONF", ascii "DENIED:"].any fun lead => lead.isPrefixOf response

/-- `disconnect_request`. -/
def disconnectRequest (deviceId salt : String) : String := s!"DISCONNECT:{deviceId}|{salt}"

/-- `StreamRepairCommand` — some of the streams are to be restarted, or are alive. -/
structure StreamRepairCommand where
  /-- The number of the command. -/
  sequence : UInt64
  /-- How many streams there are. -/
  desiredCount : UInt16
  /-- The numbers of those it is about. -/
  workerIds : List UInt16
  deriving DecidableEq, Repr

/-- The loop of `parse_stream_command` over the numbers of streams. -/
def readWorkerIds (desiredCount : UInt16) : List UInt8 → Option (List UInt16)
  | high :: low :: rest =>
    let workerId := UInt16.ofNat (Bytes.fromBe [high, low])
    if workerId = 0 ∨ desiredCount < workerId then none
    else (readWorkerIds desiredCount rest).map fun workerIds => workerId :: workerIds
  | _ => some []

/-- `parse_stream_command`. -/
def parseStreamCommand (payload lead : List UInt8) : Option StreamRepairCommand :=
  if lead.isPrefixOf payload then
    let rest := payload.drop lead.length
    if rest.length < 11 then none
    else
      let sequence := UInt64.ofNat (Bytes.fromBe (Bytes.slice rest 0 8))
      let desiredCount := UInt16.ofNat (Bytes.fromBe (Bytes.slice rest 8 10))
      let count := (rest[10]?.getD 0).toNat
      let ids := rest.drop 11
      if sequence = 0 ∨ desiredCount = 0 ∨ maxStreamWorkers < desiredCount ∨
          ids.length ≠ count * 2 then none
      else
        (readWorkerIds desiredCount ids).bind fun workerIds =>
          if workerIds.isEmpty then none else some { sequence, desiredCount, workerIds }
  else none

/-- `parse_stream_repair`. -/
def parseStreamRepair (payload : List UInt8) : Option StreamRepairCommand :=
  parseStreamCommand payload streamRepairPrefix

/-- `parse_stream_alive`. -/
def parseStreamAlive (payload : List UInt8) : Option StreamRepairCommand :=
  parseStreamCommand payload streamAlivePrefix

/-- `WORKERS_PER_GROUP`. -/
def workersPerGroup : Nat := 9
/-- `GROUPS_PER_VK_HASH`. -/
def groupsPerVkHash : Nat := 3
/-- `MAX_VK_HASHES`. -/
def maxVkHashes : Nat := 6
/-- `MAX_WORKERS`. -/
def maxWorkers : Nat := maxVkHashes * groupsPerVkHash * workersPerGroup

/-- `normalize_worker_count` — whole groups of workers. -/
def normalizeWorkerCount (requested : Nat) : Nat :=
  min (max requested workersPerGroup) maxWorkers / workersPerGroup * workersPerGroup

/-- `normalize_worker_count_for_hashes` — as many groups as there are hashes for. -/
def normalizeWorkerCountForHashes (requested hashCount : Nat) (allowHashRedistribution : Bool) :
    Nat :=
  if allowHashRedistribution then normalizeWorkerCount requested
  else
    let maximum := min (max hashCount 1) maxVkHashes * groupsPerVkHash * workersPerGroup
    min (normalizeWorkerCount requested) maximum

end Focsq.Protocol
