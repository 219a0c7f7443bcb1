import Mathlib.Data.List.Find
import Focsq.Backend.TunTable
import Focsq.Verif.UriCoding

/-!
# Requests that are read back, and tables that are read

The requests for a route say what they were made for, whoever reads them as netlink messages. What
the kernel writes as the table of routes is read as the routes it has.
-/

namespace Focsq.TunLinux

open Reader Tlv

section Texts

/-- An address as it is written. -/
def Ipv4Addr.text (address : Ipv4Addr) : Text :=
  ['.'].intercalate (address.val.map fun octet => Nat.toDigits 10 octet.toNat)

/-- A network as it is written. -/
def cidr (network : Ipv4Addr) (length : Nat) : Text :=
  network.text ++ '/' :: Nat.toDigits 10 length

/-- An octet has at most three digits, and no zero in front of others. -/
theorem octet_digits : ∀ value : Fin 256, (Nat.toDigits 10 value).length ≤ 3 ∧
    ((Nat.toDigits 10 value).head? = some '0' → (Nat.toDigits 10 value).length ≤ 1) := by
  decide +kernel

/-- The digits of a number are read, up to something else. -/
theorem digits_append (value : Nat) {rest : Text}
    (ends : ∀ char ∈ rest.head?, isDigit 10 char = false) :
    (Nat.toDigits 10 value ++ rest).takeWhile (isDigit 10) = Nat.toDigits 10 value ∧
      (Nat.toDigits 10 value ++ rest).dropWhile (isDigit 10) = rest := by
  have digits (char : Char) (member : char ∈ Nat.toDigits 10 value) : isDigit 10 char = true := by
    rw [isDigit, toDigit_decimal (Nat.isDigit_of_mem_toDigits (by decide) (by decide) member)]
    rfl
  rw [List.takeWhile_append_of_pos digits, List.dropWhile_append_of_pos digits]
  cases rest with
  | nil => exact ⟨List.append_nil _, rfl⟩
  | cons char rest =>
    have other : isDigit 10 char = false := ends char rfl
    rw [List.takeWhile_cons_of_neg (by simp [other]), List.dropWhile_cons_of_neg (by simp [other])]
    exact ⟨List.append_nil _, rfl⟩

/-- An octet is read as it was written. -/
theorem octet_toDigits (octet : UInt8) {rest : Text}
    (ends : ∀ char ∈ rest.head?, isDigit 10 char = false) :
    Net.octet (Nat.toDigits 10 octet.toNat ++ rest) = some (octet.toNat, rest) := by
  obtain ⟨short, strict⟩ := octet_digits ⟨octet.toNat, octet.toNat_lt⟩
  obtain ⟨taken, left⟩ := digits_append octet.toNat ends
  have decimal (char : Char) (member : char ∈ Nat.toDigits 10 octet.toNat) :
      char.isDigit = true := Nat.isDigit_of_mem_toDigits (by decide) (by decide) member
  have same : valueOf 10 (Nat.toDigits 10 octet.toNat) = octet.toNat := by
    rw [valueOf_decimal decimal, Nat.ofDigitChars_ten_toDigits]
  have first : (Nat.toDigits 10 octet.toNat ++ rest).head? =
      (Nat.toDigits 10 octet.toNat).head? := by
    cases digits : Nat.toDigits 10 octet.toNat with
    | nil => exact absurd digits Nat.toDigits_ne_nil
    | cons char rest => rfl
  rw [Net.octet]
  unfold Reader.number
  dsimp only
  rw [taken, left, same, first]
  refine if_neg ?_
  rintro (empty | excess | large | ⟨-, zero, long⟩)
  · exact Nat.toDigits_ne_nil empty
  · have most : 3 < (Nat.toDigits 10 octet.toNat).length := of_decide_eq_true excess
    exact absurd short (Nat.not_le.mpr most)
  · exact absurd octet.toNat_lt (Nat.not_lt.mpr large)
  · exact absurd (strict zero) (Nat.not_le.mpr long)

/-- The text of an address, octet by octet. -/
theorem text_eq (a b c d : UInt8) :
    Ipv4Addr.text ⟨[a, b, c, d], rfl⟩ =
      Nat.toDigits 10 a.toNat ++ '.' :: (Nat.toDigits 10 b.toNat ++ '.' ::
        (Nat.toDigits 10 c.toNat ++ '.' :: (Nat.toDigits 10 d.toNat ++ []))) := by
  simp [Ipv4Addr.text, List.intercalate, List.intersperse]

/-- An address is read as it was written. -/
theorem readIpv4Addr_text (address : Ipv4Addr) :
    parseWith Net.readIpv4Addr address.text = some address := by
  obtain ⟨octets, four⟩ := address
  match octets, four with
  | [a, b, c, d], four =>
    have dot (rest : Text) : ∀ char ∈ ('.' :: rest).head?, isDigit 10 char = false := by
      intro char member
      cases member
      decide
    have later (index : Nat) (rest : Text) :
        separator '.' (index + 1) Net.octet ('.' :: rest) = Net.octet rest := rfl
    rw [parseWith_eq_some, text_eq, Net.readIpv4Addr]
    rw [bind_apply, separator, if_pos rfl, octet_toDigits a (dot _), Option.bind_some,
      bind_apply, later, octet_toDigits b (dot _), Option.bind_some,
      bind_apply, later, octet_toDigits c (dot _), Option.bind_some,
      bind_apply, later, octet_toDigits d (fun _ member => by cases member), Option.bind_some]
    simp only [UInt8.ofNat_toNat]
    rfl

/-- A network is read as it was written. -/
theorem parseCidr_cidr (network : Ipv4Addr) {length : Nat} (fits : length ≤ 32) :
    parseCidr (cidr network length) = .ok (network, length) := by
  have free : '/' ∉ network.text := by
    obtain ⟨octets, four⟩ := network
    match octets, four with
    | [a, b, c, d], four =>
      have apart (octet : UInt8) : '/' ∉ Nat.toDigits 10 octet.toNat := fun member =>
        absurd (Nat.isDigit_of_mem_toDigits (by decide) (by decide) member) (by decide)
      rw [text_eq]
      simp [apart]
  have small : length < 256 := by omega
  have split : Str.splitOnce "/".toList (cidr network length) =
      some (network.text, Nat.toDigits 10 length) := Str.splitOnce_append free _
  rw [parseCidr, split]
  dsimp only
  rw [readIpv4Addr_text, Str.parseUnsigned_toDigits small]
  dsimp only
  rw [if_neg (Nat.not_lt.mpr fits)]

end Texts

section Requests

/-- A request as it is read. -/
structure Request where
  /-- The header. -/
  header : NlMsgHeader
  /-- The description of the route. -/
  message : RtMsg
  /-- The attributes. -/
  records : List Record
  deriving DecidableEq

/-- The description of a route that these bytes are. -/
def readRtMsg : List UInt8 → Option RtMsg
  | [family, dstLen, srcLen, tos, table, protocol, scope, kind, a, b, c, d] =>
    some
      { family, dstLen, srcLen, tos, table, protocol, scope, kind
        flags := .ofNat (fromLe [a, b, c, d]) }
  | _ => none

/-- The request that these bytes are: its length is that of the bytes, and the attributes fill up
what is behind the description. -/
def readRequest (bytes : List UInt8) : Option Request := do
  let header ← readHeader bytes 0
  if header.length.toNat = bytes.length then
    let message ← readRtMsg ((bytes.drop 16).take 12)
    let records ← decode bytes.length (bytes.drop 28)
    return ⟨header, message, records⟩
  else none

/-- A number of two bytes. -/
theorem le_two (value : Nat) : ∃ low high, le 2 value = [low, high] :=
  match le 2 value, length_le 2 value with
  | [low, high], _ => ⟨low, high, rfl⟩

/-- A number of four bytes. -/
theorem le_four (value : Nat) : ∃ a b c d, le 4 value = [a, b, c, d] :=
  match le 4 value, length_le 4 value with
  | [a, b, c, d], _ => ⟨a, b, c, d, rfl⟩

/-- A number of 16 bits is read back. -/
theorem ofNat_fromLe_two {value : UInt16} {digits : List UInt8}
    (written : le 2 value.toNat = digits) : UInt16.ofNat (fromLe digits) = value := by
  rw [← written, fromLe_le value.toNat_lt, UInt16.ofNat_toNat]

/-- A number of 32 bits is read back. -/
theorem ofNat_fromLe_four {value : UInt32} {digits : List UInt8}
    (written : le 4 value.toNat = digits) : UInt32.ofNat (fromLe digits) = value := by
  rw [← written, fromLe_le value.toNat_lt, UInt32.ofNat_toNat]

/-- A header has 16 bytes. -/
theorem length_header (header : NlMsgHeader) : header.bytes.length = 16 := by
  simp [NlMsgHeader.bytes]

/-- A description has twelve bytes. -/
theorem length_rtMsg (message : RtMsg) : message.bytes.length = 12 := by
  simp [RtMsg.bytes]

/-- A header that was written is read back. -/
theorem readHeader_bytes (header : NlMsgHeader) (rest : List UInt8) :
    readHeader (header.bytes ++ rest) 0 = some header := by
  have long : 0 + sizeOfHeader ≤ (header.bytes ++ rest).length := by
    rw [List.length_append, length_header]
    exact Nat.le_add_right 16 _
  rw [readHeader, if_pos long]
  obtain ⟨length, type, flags, sequence, port⟩ := header
  obtain ⟨a, b, c, d, lengthBytes⟩ := le_four length.toNat
  obtain ⟨e, f, typeBytes⟩ := le_two type.toNat
  obtain ⟨g, h, flagsBytes⟩ := le_two flags.toNat
  obtain ⟨i, j, k, l, sequenceBytes⟩ := le_four sequence.toNat
  obtain ⟨m, n, o, p, portBytes⟩ := le_four port.toNat
  rw [NlMsgHeader.bytes]
  dsimp only
  rw [lengthBytes, typeBytes, flagsBytes, sequenceBytes, portBytes]
  show some (NlMsgHeader.mk (.ofNat (fromLe [a, b, c, d])) (.ofNat (fromLe [e, f]))
    (.ofNat (fromLe [g, h])) (.ofNat (fromLe [i, j, k, l])) (.ofNat (fromLe [m, n, o, p]))) = _
  rw [ofNat_fromLe_four lengthBytes, ofNat_fromLe_two typeBytes, ofNat_fromLe_two flagsBytes,
    ofNat_fromLe_four sequenceBytes, ofNat_fromLe_four portBytes]

/-- A description that was written is read back. -/
theorem readRtMsg_bytes (message : RtMsg) : readRtMsg message.bytes = some message := by
  obtain ⟨family, dstLen, srcLen, tos, table, protocol, scope, kind, flags⟩ := message
  obtain ⟨a, b, c, d, flagsBytes⟩ := le_four flags.toNat
  rw [RtMsg.bytes]
  dsimp only
  rw [flagsBytes]
  show some (RtMsg.mk _ _ _ _ _ _ _ _ (.ofNat (fromLe [a, b, c, d]))) = _
  rw [ofNat_fromLe_four flagsBytes]

/-- What is a multiple of four bytes long is not filled up. -/
theorem padded_eq {buffer : List UInt8} (aligned : buffer.length % 4 = 0) :
    padded buffer = buffer := by
  rw [padded, padding, aligned]
  exact List.append_nil _

/-- An attribute is written as a record. -/
theorem pushRta_eq {buffer : List UInt8} (aligned : buffer.length % 4 = 0) (kind : UInt16)
    (payload : List UInt8) :
    pushRta buffer kind payload = buffer ++ Record.encode ⟨kind, payload⟩ := by
  have same : padding (buffer ++ le 2 (4 + payload.length) ++ le 2 kind.toNat ++ payload).length =
      padding payload.length := by
    rw [padding, padding]
    congr 1
    simp only [List.length_append, length_le]
    omega
  rw [pushRta, padded, same, Record.encode]
  simp only [List.append_assoc]

/-- The length is that of the header that is written. -/
theorem withLength_bytes (header : NlMsgHeader) {rest : List UInt8}
    (short : 16 + rest.length < 2 ^ 32) :
    withLength (header.bytes ++ rest) =
      { header with length := .ofNat (16 + rest.length) }.bytes ++ rest := by
  have total : (header.bytes ++ rest).length = 16 + rest.length := by
    rw [List.length_append, length_header]
  have digits : (UInt32.ofNat (16 + rest.length)).toNat = 16 + rest.length :=
    UInt32.toNat_ofNat_of_lt' short
  rw [withLength, total, NlMsgHeader.bytes, NlMsgHeader.bytes]
  dsimp only
  rw [digits]
  simp only [List.append_assoc]
  exact Bytes.splice_segment [] _ _ _ ((length_le _ _).trans (length_le _ _).symm)

/-- A request that was written is read back. -/
theorem readRequest_bytes (header : NlMsgHeader) (message : RtMsg) {records : List Record}
    (fit : ∀ record ∈ records, 4 + record.payload.length < 65536)
    (short : 28 + (encode records).length < 2 ^ 32) :
    readRequest (withLength (header.bytes ++ message.bytes ++ encode records)) =
      some ⟨{ header with length := .ofNat (28 + (encode records).length) }, message, records⟩ := by
  have rest : (message.bytes ++ encode records).length = 12 + (encode records).length := by
    rw [List.length_append, length_rtMsg]
  have length : 16 + (message.bytes ++ encode records).length = 28 + (encode records).length := by
    omega
  rw [List.append_assoc, withLength_bytes header (length ▸ short), length]
  generalize written : ({ header with
    length := .ofNat (28 + (encode records).length) } : NlMsgHeader) = full
  have total : (full.bytes ++ (message.bytes ++ encode records)).length =
      28 + (encode records).length := by
    rw [List.length_append, length_header, length]
  have said : full.length.toNat = 28 + (encode records).length := by
    rw [← written]
    exact UInt32.toNat_ofNat_of_lt' short
  have middle : ((full.bytes ++ (message.bytes ++ encode records)).drop 16).take 12 =
      message.bytes := by
    rw [List.drop_left' (length_header full), List.take_left' (length_rtMsg message)]
  have behind : (full.bytes ++ (message.bytes ++ encode records)).drop 28 = encode records := by
    rw [← List.append_assoc]
    refine List.drop_left' ?_
    rw [List.length_append, length_header, length_rtMsg]
  have enough : records.length ≤ 28 + (encode records).length :=
    Nat.le_trans (length_le_encode records) (Nat.le_add_left _ _)
  rw [readRequest, readHeader_bytes, total, middle, behind, readRtMsg_bytes,
    decode_encode fit enough]
  show (if full.length.toNat = _ then _ else _) = _
  rw [if_pos said]
  rfl

/-- The length of a network that is parsed. -/
theorem length_le_of_parse {destination : Text} {network : Ipv4Addr} {length : Nat}
    (parsed : parseCidr destination = .ok (network, length)) : length ≤ 32 := by
  rw [parseCidr] at parsed
  split at parsed
  · cases parsed
  · split at parsed
    · cases parsed
    · split at parsed
      · cases parsed
      · split at parsed
        · cases parsed
        · rename_i fits
          cases parsed
          exact Nat.not_lt.mp fits

/-- What a request asks for. -/
structure RouteChange where
  /-- Whether the route is deleted. -/
  deletes : Bool
  /-- The network. -/
  network : Option (List UInt8)
  /-- The length of its mask. -/
  length : Nat
  /-- The gateway. -/
  gateway : Option (List UInt8)
  /-- The interface. -/
  interface : Option (List UInt8)
  /-- Whether there will be an answer. -/
  answered : Bool
  deriving DecidableEq

/-- The payload of the attribute of a kind. -/
def Request.attribute (request : Request) (kind : UInt16) : Option (List UInt8) :=
  (request.records.find? fun record => record.kind == kind).map Record.payload

/-- What a request asks for, if it is one about a route of IPv4 in the main table. -/
def Request.change (request : Request) : Option RouteChange :=
  if (request.header.type = rtmNewroute ∨ request.header.type = rtmDelroute) ∧
      request.header.flags &&& nlmRequest ≠ 0 ∧ request.message.family = afInet ∧
      request.message.table = rtTableMain ∧ request.message.kind = rtnUnicast then
    some
      { deletes := request.header.type == rtmDelroute
        network := request.attribute rtaDst
        length := request.message.dstLen.toNat
        gateway := request.attribute rtaGateway
        interface := request.attribute rtaOif
        answered := request.header.flags &&& nlmAck != 0 }
  else none

/-- What a request asks for that was written with attributes of four bytes. -/
theorem written_change (header : NlMsgHeader) (message : RtMsg) {records : List Record}
    (four : ∀ record ∈ records, record.payload.length = 4) (few : records.length ≤ 3) :
    (readRequest (withLength (header.bytes ++ message.bytes ++ encode records))).bind
        Request.change =
      Request.change
        ⟨{ header with length := .ofNat (28 + (encode records).length) }, message, records⟩ := by
  have size : (encode records).length = 8 * records.length := by
    clear few
    induction records with
    | nil => rfl
    | cons record records ih =>
      have here := four record List.mem_cons_self
      have bytes : record.encode.length = 8 := by
        rw [Record.encode, here, List.length_append, List.length_append, List.length_append,
          length_le, length_le, here]
        rfl
      rw [encode, List.flatMap_cons, List.length_append, bytes, ← encode,
        ih fun other member => four other (List.mem_cons_of_mem _ member), List.length_cons]
      omega
  have fit (record : Record) (member : record ∈ records) : 4 + record.payload.length < 65536 := by
    rw [four record member]
    decide
  rw [readRequest_bytes header message fit (by omega), Option.bind_some]

/-- A header and a description are a multiple of four bytes. -/
theorem aligned_start (header : NlMsgHeader) (message : RtMsg) :
    (header.bytes ++ message.bytes).length % 4 = 0 := by
  rw [List.length_append, length_header, length_rtMsg]

/-- A length of a mask fits into a byte. -/
theorem toNat_length {length : Nat} (fits : length ≤ 32) : (UInt8.ofNat length).toNat = length :=
  UInt8.toNat_ofNat_of_lt' (by
    show length < 256
    omega)

/-- What a request asks for whose fields are as `route_add` and `route_del` write them. -/
theorem change_eq {kind flags : UInt16} (known : kind = rtmNewroute ∨ kind = rtmDelroute)
    (asks : flags &&& nlmRequest ≠ 0) (size sequence : UInt32) (dstLen scope : UInt8)
    (records : List Record) :
    Request.change ⟨⟨size, kind, flags, sequence, 0⟩,
        ⟨afInet, dstLen, 0, 0, rtTableMain, rtProtocolStatic, scope, rtnUnicast, 0⟩, records⟩ =
      some
        { deletes := kind == rtmDelroute
          network := (records.find? fun record => record.kind == rtaDst).map Record.payload
          length := dstLen.toNat
          gateway := (records.find? fun record => record.kind == rtaGateway).map Record.payload
          interface := (records.find? fun record => record.kind == rtaOif).map Record.payload
          answered := flags &&& nlmAck != 0 } := by
  rw [Request.change, if_pos ⟨known, asks, rfl, rfl, rfl⟩]
  rfl

/-- The request to delete a route. -/
theorem delRequest_read (sequence : UInt32) (network : Ipv4Addr) {length : Nat}
    (fits : length ≤ 32) :
    (readRequest (delRequest sequence network length)).bind Request.change =
      some ⟨true, some network.val, length, none, none, true⟩ := by
  have four : ∀ record ∈ [Record.mk rtaDst network.val], record.payload.length = 4 := by
    intro record member
    rw [List.mem_singleton.mp member]
    exact network.property
  have written : delRequest sequence network length =
      withLength ((nlHeader sequence 0 rtmDelroute (nlmRequest ||| nlmAck)).bytes ++
        (RtMsg.mk afInet (.ofNat length) 0 0 rtTableMain rtProtocolStatic rtScopeNowhere
          rtnUnicast 0).bytes ++ encode [⟨rtaDst, network.val⟩]) := by
    rw [delRequest, padded_eq (aligned_start _ _), pushRta_eq (aligned_start _ _), encode,
      List.flatMap_singleton]
  rw [written, written_change _ _ four (Nat.le_add_left 1 2)]
  have asks : (nlmRequest ||| nlmAck) &&& nlmRequest ≠ 0 := by decide
  have answered : ((nlmRequest ||| nlmAck) &&& nlmAck != 0) = true := by decide
  refine (change_eq (.inr rfl) asks _ _ _ _ _).trans ?_
  rw [toNat_length fits]
  rw [answered]
  simp [rtaDst, rtaGateway, rtaOif]

/-- The attributes of a request to add a route. -/
def addRecords (network : Ipv4Addr) (gateway : Option Ipv4Addr) (interface : Int32) :
    List Record :=
  ⟨rtaDst, network.val⟩ :: (gateway.toList.map fun gateway => ⟨rtaGateway, gateway.val⟩) ++
    [⟨rtaOif, le 4 interface.toUInt32.toNat⟩]

/-- The request to add a route. -/
theorem addRequest_read (sequence : UInt32) (network : Ipv4Addr) {length : Nat}
    (fits : length ≤ 32) (gateway : Option Ipv4Addr) (interface : Int32) :
    (readRequest (addRequest sequence network length gateway interface)).bind Request.change =
      some ⟨false, some network.val, length, gateway.map Subtype.val,
        some (le 4 interface.toUInt32.toNat), true⟩ := by
  have four : ∀ record ∈ addRecords network gateway interface, record.payload.length = 4 := by
    have host := network.property
    cases gateway with
    | none => simp [addRecords, host]
    | some gateway =>
      have other := gateway.property
      simp [addRecords, host, other]
  have few : (addRecords network gateway interface).length ≤ 3 := by
    cases gateway with
    | none => exact Nat.le_add_left 2 1
    | some gateway => exact Nat.le_refl 3
  have aligned {buffer : List UInt8} (start : buffer.length % 4 = 0) (record : Record) :
      (buffer ++ record.encode).length % 4 = 0 := by
    have piece := length_encode record
    rw [List.length_append]
    omega
  have written : addRequest sequence network length gateway interface =
      withLength ((nlHeader sequence 0 rtmNewroute
          (nlmRequest ||| nlmCreate ||| nlmExcl ||| nlmAck)).bytes ++
        (RtMsg.mk afInet (.ofNat length) 0 0 rtTableMain rtProtocolStatic
          (if gateway.isSome then rtScopeUniverse else rtScopeLink) rtnUnicast 0).bytes ++
        encode (addRecords network gateway interface)) := by
    have start := aligned_start (nlHeader sequence 0 rtmNewroute
      (nlmRequest ||| nlmCreate ||| nlmExcl ||| nlmAck)) (RtMsg.mk afInet (.ofNat length) 0 0
        rtTableMain rtProtocolStatic (if gateway.isSome then rtScopeUniverse else rtScopeLink)
          rtnUnicast 0)
    unfold addRequest
    dsimp only
    rw [padded_eq start, pushRta_eq start]
    cases gateway with
    | none =>
      dsimp only
      rw [pushRta_eq (aligned start _)]
      simp [addRecords, encode]
    | some gateway =>
      dsimp only
      rw [pushRta_eq (aligned start _), pushRta_eq (aligned (aligned start _) _)]
      simp [addRecords, encode]
  rw [written, written_change _ _ four few]
  have asks : (nlmRequest ||| nlmCreate ||| nlmExcl ||| nlmAck) &&& nlmRequest ≠ 0 := by decide
  have answered : ((nlmRequest ||| nlmCreate ||| nlmExcl ||| nlmAck) &&& nlmAck != 0) = true := by
    decide
  have adds : (rtmNewroute == rtmDelroute) = false := by decide
  refine (change_eq (.inl rfl) asks _ _ _ _ _).trans ?_
  rw [toNat_length fits]
  rw [answered, adds]
  cases gateway with
  | none => simp [addRecords, rtaDst, rtaGateway, rtaOif]
  | some gateway => simp [addRecords, rtaDst, rtaGateway, rtaOif]

/-- Whatever the destination is, what is sent for it is read as the route that it names, after the
request to delete the old one; and every network with its length names itself. -/
theorem routes_requested (sequence : UInt32) (destination : Text) (gateway : Option Ipv4Addr)
    (interface : Int32) (ensure : Bool) :
    (match parseCidr destination with
      | .error reason =>
        routeAdd sequence destination gateway interface ensure = .error reason ∧
          (routeDel sequence destination).1 = []
      | .ok (network, length) =>
        if length = 0 then
          (∃ reason, routeAdd sequence destination gateway interface ensure = .error reason) ∧
            (routeDel sequence destination).1 = []
        else
          ∃ deleted added next,
            (routeDel sequence destination).1 = [deleted] ∧
            routeAdd sequence destination gateway interface ensure =
              .ok ((if ensure then [deleted] else []) ++ [added], next) ∧
            (readRequest deleted).bind Request.change =
              some ⟨true, some network.val, length, none, none, true⟩ ∧
            (readRequest added).bind Request.change =
              some ⟨false, some network.val, length, gateway.map Subtype.val,
                some (le 4 interface.toUInt32.toNat), true⟩) ∧
      ∀ network length, length ≤ 32 → parseCidr (cidr network length) = .ok (network, length) := by
  refine ⟨?_, fun network length fits => parseCidr_cidr network fits⟩
  cases parsed : parseCidr destination with
  | error reason =>
    constructor
    · rw [routeAdd, parsed]
      rfl
    · rw [routeDel, parsed]
  | ok named =>
    obtain ⟨network, length⟩ := named
    have fits := length_le_of_parse parsed
    dsimp only
    by_cases zero : length = 0
    · rw [if_pos zero]
      constructor
      · refine ⟨"маршрут 0/0 не поддерживается — используйте half-маршруты 0/1 + 128/1".toList, ?_⟩
        rw [routeAdd, parsed]
        show (if length = 0 then _ else _) = _
        rw [if_pos zero]
        rfl
      · rw [routeDel, parsed]
        dsimp only
        rw [if_pos zero]
    · rw [if_neg zero]
      have deletes (number : UInt32) : routeDel number destination =
          ([delRequest number network length], number + 1) := by
        rw [routeDel, parsed]
        dsimp only
        rw [if_neg zero]
      refine ⟨delRequest sequence network length,
        addRequest (if ensure then sequence + 1 else sequence) network length gateway interface,
        (if ensure then sequence + 1 else sequence) + 1,
        by rw [deletes], ?_, delRequest_read sequence network fits,
        addRequest_read _ network fits gateway interface⟩
      rw [routeAdd, parsed]
      show (if length = 0 then _ else _) = _
      rw [if_neg zero]
      cases ensure with
      | false => rfl
      | true =>
        dsimp only
        rw [if_pos rfl, deletes]
        rfl

end Requests

section Numbers

/-- The hexadecimal digits of a number, so many of them. -/
def hexText : Nat → Nat → Text
  | 0, _ => []
  | width + 1, value => hexText width (value / 16) ++ [Import.hexDigit (value % 16)]

/-- The value of a hexadecimal digit. -/
theorem toDigit_hexDigit (value : Nat) :
    toDigit 16 (Import.hexDigit (value % 16)) = some (value % 16) := by
  have all : ∀ digit : Fin 16, toDigit 16 (Import.hexDigit digit) = some digit.val := by decide
  exact all ⟨value % 16, Nat.mod_lt _ (by decide)⟩

/-- What is written is made of digits. -/
theorem isDigit_hexText (width value : Nat) : ∀ char ∈ hexText width value,
    isDigit 16 char = true := by
  induction width generalizing value with
  | zero => exact fun _ member => absurd member List.not_mem_nil
  | succ width ih =>
    intro char member
    rcases List.mem_append.mp member with front | last
    · exact ih _ char front
    · rw [List.mem_singleton.mp last, isDigit, toDigit_hexDigit]
      rfl

/-- The digits stand for the number, up to what does not fit. -/
theorem valueOf_hexText (width value : Nat) :
    valueOf 16 (hexText width value) = value % 16 ^ width := by
  induction width generalizing value with
  | zero => exact (Nat.mod_one value).symm
  | succ width ih =>
    have before : valueOf 16 (hexText (width + 1) value) =
        valueOf 16 (hexText width (value / 16)) * 16 + value % 16 := by
      rw [hexText, valueOf, List.foldl_append, List.foldl_cons, List.foldl_nil, toDigit_hexDigit,
        valueOf]
      rfl
    rw [before, ih, Nat.pow_succ, Nat.mul_comm (16 ^ width), Nat.mod_mul]
    omega

/-- A number is read as it was written. -/
theorem parseHex_hexText {width : Nat} (positive : 0 < width) {value : UInt32}
    (fits : value.toNat < 16 ^ width) : parseHex (hexText width value.toNat) = some value := by
  have digits := isDigit_hexText width value.toNat
  have nonempty : hexText width value.toNat ≠ [] := by
    obtain ⟨width, rfl⟩ := Nat.exists_eq_add_of_lt positive
    rw [Nat.zero_add, hexText]
    exact List.append_ne_nil_of_right_ne_nil _ (List.cons_ne_nil _ _)
  have unsigned : (hexText width value.toNat).head? ≠ some '+' := by
    intro plus
    have digit := digits '+' (List.mem_of_mem_head? plus)
    exact absurd digit (by decide)
  have taken : (hexText width value.toNat).takeWhile (isDigit 16) = hexText width value.toNat :=
    List.takeWhile_eq_self_iff.mpr digits
  have left : (hexText width value.toNat).dropWhile (isDigit 16) = [] :=
    List.dropWhile_eq_nil_iff.mpr digits
  have small : value.toNat < 2 ^ 32 := value.toNat_lt
  have read : Reader.number 16 none true (2 ^ 32) (hexText width value.toNat) =
      some (value.toNat, []) := by
    unfold Reader.number
    dsimp only
    rw [taken, left, valueOf_hexText, Nat.mod_eq_of_lt fits]
    refine if_neg ?_
    rintro (empty | excess | large | ⟨strict, -⟩)
    · exact nonempty empty
    · exact Bool.false_ne_true excess
    · omega
    · cases strict
  rw [parseHex, Str.withoutPlus, if_neg unsigned, parseWith_eq_some.mpr read, Option.map_some,
    UInt32.ofNat_toNat]

/-- Bytes that are swapped twice are as they were. -/
theorem swapBytes_swapBytes (value : UInt32) : swapBytes (swapBytes value) = value := by
  have four : (Bytes.be 4 value.toNat).reverse.length = 4 := by
    rw [List.length_reverse, Bytes.length_be]
  rw [swapBytes, swapBytes, Bytes.be_uint32 four, List.reverse_reverse, Bytes.uint32_be]

/-- An address is that of its number. -/
theorem ofU32_toU32 (address : Ipv4Addr) : Ipv4Addr.ofU32 address.toU32 = address :=
  Subtype.ext (Bytes.be_uint32 address.property)

/-- Addresses with the same number. -/
theorem toU32_inj {first second : Ipv4Addr} : first.toU32 = second.toU32 ↔ first = second :=
  ⟨fun same => by rw [← ofU32_toU32 first, same, ofU32_toU32], fun same => by rw [same]⟩

/-- Masks that are the same have the same length. -/
theorem prefixMask_inj {first second : Nat} (left : first ≤ 32) (right : second ≤ 32) :
    prefixMask first = prefixMask second ↔ first = second := by
  have all : ∀ first second : Fin 33, prefixMask first = prefixMask second → first = second := by
    decide +kernel
  refine ⟨fun same => ?_, fun same => by rw [same]⟩
  have equal := all ⟨first, Nat.lt_succ_of_le left⟩ ⟨second, Nat.lt_succ_of_le right⟩ same
  exact congrArg Fin.val equal

end Numbers

section Rows

/-- A route of the kernel. -/
structure KernelRoute where
  /-- The interface. -/
  interface : Text
  /-- The network. -/
  network : Ipv4Addr
  /-- The length of its mask. -/
  length : Nat
  /-- The gateway. -/
  gateway : Ipv4Addr
  /-- The flags. -/
  flags : UInt16
  /-- How often the route is referred to. -/
  references : Nat
  /-- How often it was used. -/
  uses : Nat
  /-- Its metric. -/
  metric : Nat
  /-- What is known of the connections over it. -/
  limits : Nat × Nat × Nat
  deriving DecidableEq

/-- A number of the table, as it lies in memory. -/
def columnText (value : UInt32) : Text := hexText 8 (swapBytes value).toNat

/-- The columns of a route. -/
def KernelRoute.columns (route : KernelRoute) : List Text :=
  [columnText route.network.toU32, columnText route.gateway.toU32, hexText 4 route.flags.toNat,
    Nat.toDigits 10 route.references, Nat.toDigits 10 route.uses, Nat.toDigits 10 route.metric,
    columnText (prefixMask route.length), Nat.toDigits 10 route.limits.1,
    Nat.toDigits 10 route.limits.2.1, Nat.toDigits 10 route.limits.2.2]

/-- A line of the table, filled up with blanks. -/
def filled (text : Text) : Text := text ++ List.replicate (127 - text.length) ' '

/-- The first line of the table. -/
def tableTitle : Text :=
  "Iface\tDestination\tGateway \tFlags\tRefCnt\tUse\tMetric\tMask\t\tMTU\tWindow\tIRTT".toList

/-- The line of a route. -/
def KernelRoute.line (route : KernelRoute) : Text :=
  filled (['\t'].intercalate (route.interface :: route.columns))

/-- What the kernel writes about its routes. -/
def kernelTable (routes : List KernelRoute) : Text :=
  (filled tableTitle :: routes.map KernelRoute.line).flatMap (· ++ ['\n'])

/-- The name of an interface has no white space, and the mask is one of IPv4. -/
structure KernelRoute.Named (route : KernelRoute) : Prop where
  /-- There is a name. -/
  nonempty : route.interface ≠ []
  /-- There is no white space in it. -/
  solid : ∀ char ∈ route.interface, Str.isWhitespace char = false
  /-- The length of the mask. -/
  fits : route.length ≤ 32

/-- The row of a route. -/
def KernelRoute.row (route : KernelRoute) : RouteRow where
  interface := route.interface
  destination := route.network.toU32
  mask := prefixMask route.length
  gateway := route.gateway.toU32
  flags := route.flags.toUInt32

/-- A number of the table is read as it is. -/
theorem parseHex_columnText (value : UInt32) :
    (parseHex (columnText value)).map swapBytes = some value := by
  have small : (swapBytes value).toNat < 16 ^ 8 := (swapBytes value).toNat_lt
  rw [columnText, parseHex_hexText (by decide) small, Option.map_some, swapBytes_swapBytes]

/-- The flags are read as they are. -/
theorem parseHex_flags (flags : UInt16) :
    parseHex (hexText 4 flags.toNat) = some flags.toUInt32 := by
  have same : flags.toUInt32.toNat = flags.toNat := UInt16.toNat_toUInt32 flags
  have small : flags.toUInt32.toNat < 16 ^ 4 := same ▸ flags.toNat_lt
  rw [← same, parseHex_hexText (by decide) small]

/-- Hexadecimal digits are words. -/
theorem hexText_word {width : Nat} (positive : 0 < width) (value : Nat) :
    hexText width value ≠ [] ∧ ∀ char ∈ hexText width value, Str.isWhitespace char = false := by
  have all : ∀ digit : Fin 16, Str.isWhitespace (Import.hexDigit digit) = false := by decide
  induction width generalizing value with
  | zero => cases positive
  | succ width ih =>
    refine ⟨List.append_ne_nil_of_right_ne_nil _ (List.cons_ne_nil _ _), fun char member => ?_⟩
    rcases List.mem_append.mp member with front | last
    · cases width with
      | zero => cases front
      | succ width => exact (ih (Nat.succ_pos width) _).2 char front
    · rw [List.mem_singleton.mp last]
      exact all ⟨value % 16, Nat.mod_lt _ (by decide)⟩

/-- Decimal digits are words. -/
theorem digits_word (value : Nat) :
    Nat.toDigits 10 value ≠ [] ∧
      ∀ char ∈ Nat.toDigits 10 value, Str.isWhitespace char = false := by
  refine ⟨Nat.toDigits_ne_nil, fun char member => ?_⟩
  have digit := Nat.isDigit_of_mem_toDigits (by decide) (by decide) member
  have range : 48 ≤ char.toNat ∧ char.toNat ≤ 57 := by
    simpa [Char.isDigit, UInt32.le_iff_toNat_le, and_comm] using digit
  refine Bool.and_eq_false_iff.mpr (.inl ?_)
  rw [Bool.eq_false_iff, ne_eq]
  intro white
  simp only [Text.isWhite, Bool.or_eq_true, Bool.and_eq_true, decide_eq_true_eq, beq_iff_eq]
    at white
  omega

/-- The columns of a route are words. -/
theorem columns_words {route : KernelRoute} (named : route.Named) :
    ∀ word ∈ route.interface :: route.columns,
      word ≠ [] ∧ ∀ char ∈ word, Str.isWhitespace char = false := by
  intro word member
  rcases List.mem_cons.mp member with rfl | column
  · exact ⟨named.nonempty, named.solid⟩
  · simp only [KernelRoute.columns, List.mem_cons, List.not_mem_nil, or_false] at column
    rcases column with rfl | rfl | rfl | rfl | rfl | rfl | rfl | rfl | rfl | rfl
    all_goals first | exact hexText_word (by decide) _ | exact digits_word _

/-- The line of a route is read as its row. -/
theorem parseRouteRow_line {route : KernelRoute} (named : route.Named) :
    parseRouteRow route.line = some route.row := by
  have split := Str.splitWhitespace_intercalate (by decide : Str.isWhitespace '\t' = true)
    (127 - (['\t'].intercalate (route.interface :: route.columns)).length) _ _
    (columns_words named)
  obtain ⟨destination, read, first⟩ :=
    Option.map_eq_some_iff.mp (parseHex_columnText route.network.toU32)
  obtain ⟨gateway, heard, second⟩ :=
    Option.map_eq_some_iff.mp (parseHex_columnText route.gateway.toU32)
  obtain ⟨mask, seen, third⟩ :=
    Option.map_eq_some_iff.mp (parseHex_columnText (prefixMask route.length))
  rw [parseRouteRow, KernelRoute.line, filled, split, KernelRoute.columns]
  dsimp only
  rw [read, heard, parseHex_flags, seen]
  show some (RouteRow.mk route.interface (swapBytes destination) (swapBytes mask)
    (swapBytes gateway) route.flags.toUInt32) = some route.row
  rw [first, second, third]
  rfl

/-- What is written for a route stays on its line. -/
theorem line_free {route : KernelRoute} (named : route.Named) :
    '\n' ∉ route.line ∧
      '\r' ∉ route.line := by
  have apart (char : Char) (white : Str.isWhitespace char = true) (other : char ≠ '\t')
      (blank : char ≠ ' ') :
      char ∉ route.line := by
    intro member
    rcases List.mem_append.mp member with text | padding
    · rcases Str.mem_intercalate text with tab | ⟨word, place, inside⟩
      · exact other tab
      · have solid := (columns_words named word place).2 char inside
        exact Bool.false_ne_true (solid.symm.trans white)
    · exact blank (List.eq_of_mem_replicate padding)
  exact ⟨apart _ (by decide) (by decide) (by decide), apart _ (by decide) (by decide) (by decide)⟩

/-- What the kernel writes is read as the routes that it has. -/
theorem parseRouteRows_kernelTable {routes : List KernelRoute}
    (named : ∀ route ∈ routes, route.Named) :
    parseRouteRows (kernelTable routes) = routes.map KernelRoute.row := by
  have free : ∀ text ∈ filled tableTitle :: routes.map KernelRoute.line,
      '\n' ∉ text ∧ '\r' ∉ text := by
    intro text member
    rcases List.mem_cons.mp member with rfl | line
    · decide
    · obtain ⟨route, place, rfl⟩ := List.mem_map.mp line
      exact line_free (named route place)
  rw [parseRouteRows, kernelTable, Str.lines_terminated free, List.drop_one, List.tail_cons,
    List.filterMap_map]
  have rows : ∀ route ∈ routes,
      (parseRouteRow ∘ KernelRoute.line) route = (some ∘ KernelRoute.row) route :=
    fun route place => parseRouteRow_line (named route place)
  rw [List.filterMap_congr rows, List.filterMap_eq_map]

/-- What is found in the table is what the kernel has: a route is there if there is one with its
network, its length, its gateway and its interface, and the default gateway is that of the first
route to everywhere that has one. -/
theorem routes_found {routes : List KernelRoute} (named : ∀ route ∈ routes, route.Named)
    (destination : Text) (gateway : Ipv4Addr) (interface : Text)
    (interfaceIndex : Text → Except Text Int32) :
    routeExists (kernelTable routes) destination gateway interface =
      (parseCidr destination).map (fun wanted =>
        decide (∃ route ∈ routes, route.network = wanted.1 ∧ route.length = wanted.2 ∧
          route.interface = interface ∧ route.gateway = gateway)) ∧
      findDefaultGateway interfaceIndex (kernelTable routes) =
        match routes.find? fun route =>
            route.network.val = [0, 0, 0, 0] ∧ route.length = 0 ∧ route.flags &&& 2 ≠ 0 with
        | some route => (interfaceIndex route.interface).map (route.gateway, ·)
        | none => .error "default-маршрут не найден — нет сети?".toList := by
  constructor
  · rw [routeExists]
    cases parsed : parseCidr destination with
    | error reason => rfl
    | ok wanted =>
      obtain ⟨network, length⟩ := wanted
      have fits := length_le_of_parse parsed
      refine congrArg Except.ok (Bool.eq_iff_iff.mpr ?_)
      dsimp only
      rw [parseRouteRows_kernelTable named, List.any_map, List.any_eq_true, decide_eq_true_iff]
      refine exists_congr fun route => and_congr_right fun place => ?_
      have mask := prefixMask_inj (named route place).fits fits
      simp only [Function.comp_apply, KernelRoute.row, Bool.and_eq_true, beq_iff_eq, toU32_inj,
        mask, ofU32_toU32, and_assoc]
  · have same (route : KernelRoute) (place : route ∈ routes) :
        (route.row.destination == 0 && route.row.mask == 0 && route.row.flags &&& 2 != 0) =
          decide (route.network.val = [0, 0, 0, 0] ∧ route.length = 0 ∧
            route.flags &&& 2 ≠ 0) := by
      refine Bool.eq_iff_iff.mpr ?_
      have mask := prefixMask_inj (named route place).fits (Nat.zero_le 32)
      have zero : route.network.toU32 = Ipv4Addr.toU32 ⟨[0, 0, 0, 0], rfl⟩ ↔
          route.network = ⟨[0, 0, 0, 0], rfl⟩ := toU32_inj
      have network : route.network.toU32 = 0 ↔ route.network.val = [0, 0, 0, 0] :=
        zero.trans Subtype.ext_iff
      have flags : route.flags.toUInt32 &&& 2 = 0 ↔ route.flags &&& 2 = 0 := by
        rw [← UInt16.toUInt32_inj, UInt16.toUInt32_and]
        rfl
      rw [decide_eq_true_iff, Bool.and_eq_true, Bool.and_eq_true, beq_iff_eq, beq_iff_eq,
        bne_iff_ne, and_assoc]
      exact and_congr network (and_congr mask (not_congr flags))
    rw [findDefaultGateway, parseRouteRows_kernelTable named, List.find?_map]
    have found : routes.find? ((fun row : RouteRow =>
        row.destination == 0 && row.mask == 0 && row.flags &&& 2 != 0) ∘ KernelRoute.row) =
        routes.find? fun route => route.network.val = [0, 0, 0, 0] ∧ route.length = 0 ∧
          route.flags &&& 2 ≠ 0 := List.find?_congr same
    rw [found]
    cases routes.find? fun route => route.network.val = [0, 0, 0, 0] ∧ route.length = 0 ∧
        route.flags &&& 2 ≠ 0 with
    | none => rfl
    | some route =>
      show (interfaceIndex route.interface).map (Ipv4Addr.ofU32 route.gateway.toU32, ·) = _
      rw [ofU32_toU32]

/-- A default route over one interface, and a network behind another. -/
def homeRoutes : List KernelRoute :=
  [{ interface := "wg0".toList
     network := ⟨[10, 66, 67, 0], rfl⟩
     length := 24
     gateway := ⟨[0, 0, 0, 0], rfl⟩
     flags := 1
     references := 0
     uses := 0
     metric := 0
     limits := (0, 0, 0) },
   { interface := "eth0".toList
     network := ⟨[0, 0, 0, 0], rfl⟩
     length := 0
     gateway := ⟨[192, 168, 8, 1], rfl⟩
     flags := 3
     references := 0
     uses := 0
     metric := 100
     limits := (0, 0, 0) }]

/-- The default gateway of these routes is found behind the other route. -/
theorem homeRoutes_found :
    routeExists (kernelTable homeRoutes) "10.66.67.0/24".toList ⟨[0, 0, 0, 0], rfl⟩ "wg0".toList =
      .ok true ∧
      findDefaultGateway (fun _ => .ok 2) (kernelTable homeRoutes) =
        .ok (⟨[192, 168, 8, 1], rfl⟩, 2) := by
  have solid (name : Text) (free : name.all (!Str.isWhitespace ·) = true) :
      ∀ char ∈ name, Str.isWhitespace char = false := fun char member => by
    simpa using List.all_eq_true.mp free char member
  have named : ∀ route ∈ homeRoutes, route.Named := by
    intro route member
    rcases List.mem_cons.mp member with rfl | last
    · exact ⟨by decide, solid _ (by decide), by decide⟩
    · rw [List.mem_singleton.mp last]
      exact ⟨by decide, solid _ (by decide), by decide⟩
  obtain ⟨exists_iff, found⟩ := routes_found named "10.66.67.0/24".toList ⟨[0, 0, 0, 0], rfl⟩
    "wg0".toList fun _ => .ok 2
  have parsed : parseCidr "10.66.67.0/24".toList = .ok (⟨[10, 66, 67, 0], rfl⟩, 24) :=
    
    parseCidr_cidr ⟨[10, 66, 67, 0], rfl⟩ (by decide : 24 ≤ 32)
  rw [exists_iff, found, parsed]
  exact ⟨congrArg Except.ok (decide_eq_true ⟨_, List.mem_cons_self, rfl, rfl, rfl, rfl⟩), rfl⟩

end Rows

end Focsq.TunLinux
