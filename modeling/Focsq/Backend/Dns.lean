import Focsq.Backend.TurnMessage
import Focsq.Lib.Text

/-!
# Names and addresses

`dns.rs` asks a server for the addresses of a name and reads its answer with a cursor. The answer
comes from the network: whatever its bytes are, the cursor has to stay inside it.

The loop over the labels of a name is a recursion on fuel. Every label takes at least one byte, so
that more fuel than the message has bytes is enough.
-/

namespace Focsq.Dns

/-- `DNS_A_RECORD`. -/
def dnsARecord : UInt16 := 1

/-- `DNS_AAAA_RECORD`. -/
def dnsAaaaRecord : UInt16 := 28

/-- `IpAddr`. -/
abbrev IpAddr : Type := Turn.IpAddr

/-- Why there is no result. -/
inductive DnsError where
  /-- `некорректное DNS-имя`, with the name. -/
  | name (host : Text)
  /-- `некорректная DNS-метка`, with the label. -/
  | label (label : Text)
  /-- Any other message. -/
  | message (text : String)
  /-- An index out of range, or a sum that is. -/
  | panic
  /-- There is no fuel left. -/
  | unfinished
  deriving DecidableEq

/-- A slice of bytes; none has more than `isize::MAX`. -/
structure Slice where
  /-- The bytes. -/
  bytes : List UInt8
  /-- A slice fits in the address space. -/
  fits : bytes.length < 2 ^ 63

section Sums

/-- `checked_add` on `usize`. -/
def checkedAdd (left right : Nat) : Option Nat :=
  if left + right < 2 ^ 64 then some (left + right) else none

/-- `+` on `usize`. -/
def add (left right : Nat) : Except DnsError Nat :=
  if left + right < 2 ^ 64 then .ok (left + right) else .error .panic

/-- `checked_add`, with a filter for positions in the message and a message if there is none. -/
def checkedIn (message : Slice) (offset amount : Nat) (context : String) : Except DnsError Nat :=
  match (checkedAdd offset amount).filter fun value => value ≤ message.bytes.length with
  | some value => .ok value
  | none => .error (.message context)

end Sums

/-- `bail!` under a condition. -/
def bailIf (condition : Prop) [Decidable condition] (reason : DnsError) : Except DnsError Unit :=
  if condition then .error reason else .ok ()

section Query

/-- `is_ascii`. -/
def isAscii (text : Text) : Bool := text.all fun letter => letter.toNat < 128

/-- `as_bytes`. -/
def asBytes (text : Text) : List UInt8 := text.flatMap String.utf8EncodeChar

/-- The loop of `build_query` over the labels. -/
def pushLabels (query : List UInt8) : List Text → Except DnsError (List UInt8)
  | [] => .ok query
  | label :: rest =>
    if label.isEmpty ∨ 63 < label.utf8Length ∨ ¬isAscii label then .error (.label label)
    else pushLabels (query ++ UInt8.ofNat label.utf8Length :: asBytes label) rest

/-- The header of a query with one question. -/
def queryHeader (queryId : UInt16) : List UInt8 :=
  Bytes.be 2 queryId.toNat ++ Bytes.be 2 0x0100 ++ Bytes.be 2 1 ++ Bytes.be 2 0 ++ Bytes.be 2 0 ++
    Bytes.be 2 0

/-- `build_query`. -/
def buildQuery (host : Text) (queryId recordType : UInt16) : Except DnsError (List UInt8) := do
  let host := host.rdropWhile (· == '.')
  bailIf (host.isEmpty ∨ 253 < Text.utf8Length host) (.name host)
  let query ← pushLabels (queryHeader queryId) (host.splitOn '.')
  pure (query ++ [0] ++ Bytes.be 2 recordType.toNat ++ Bytes.be 2 1)

end Query

section Response

/-- `read_u16`. -/
def readU16 (message : Slice) (offset : Nat) : Except DnsError UInt16 := do
  let stop ← add offset 2
  if stop ≤ message.bytes.length then
    pure (UInt16.ofNat (Bytes.fromBe (Bytes.slice message.bytes offset stop)))
  else throw (.message "обрезанный DNS-заголовок")

/-- Where the turn of the loop of `skip_name` ends. -/
inductive Turn where
  /-- The name ends at this position. -/
  | returned (offset : Nat)
  /-- There is a label at this position. -/
  | again (offset : Nat)
  deriving DecidableEq

/-- A turn of the loop of `skip_name`. -/
def skipLabel (message : Slice) (offset : Nat) : Except DnsError Turn :=
  match message.bytes[offset]? with
  | none => .error (.message "повреждён DNS name")
  | some length =>
    if length &&& 0xc0 = 0xc0 then
      (checkedIn message offset 2 "повреждён DNS compression pointer").map .returned
    else if length &&& 0xc0 ≠ 0 then .error (.message "некорректный DNS name")
    else
      match checkedAdd offset 1 with
      | none => .error (.message "переполнение DNS name")
      | some offset =>
        if length = 0 then .ok (.returned offset)
        else (checkedIn message offset length.toNat "обрезанный DNS name").map .again

/-- The loop of `skip_name`. -/
def skipLabels (message : Slice) : Nat → Nat → Except DnsError Nat
  | 0, _ => .error .unfinished
  | fuel + 1, offset =>
    match skipLabel message offset with
    | .error reason => .error reason
    | .ok (.returned offset) => .ok offset
    | .ok (.again offset) => skipLabels message fuel offset

/-- `skip_name`. -/
def skipName (message : Slice) (offset : Nat) : Except DnsError Nat :=
  skipLabels message (message.bytes.length + 1) offset

/-- The loop of `parse_response` over the questions. -/
def skipQuestions (response : Slice) : Nat → Nat → Except DnsError Nat
  | 0, offset => .ok offset
  | questions + 1, offset => do
    let offset ← skipName response offset
    let offset ← checkedIn response offset 4 "повреждён DNS-вопрос"
    skipQuestions response questions offset

/-- `[]` on a slice. -/
def index (response : Slice) (offset : Nat) : Except DnsError UInt8 :=
  match response.bytes[offset]? with
  | some byte => .ok byte
  | none => .error .panic

/-- The four bytes of an address, read one by one. -/
def readV4 (response : Slice) (offset : Nat) : Except DnsError IpAddr := do
  let first ← index response offset
  let second ← index response (← add offset 1)
  let third ← index response (← add offset 2)
  let fourth ← index response (← add offset 3)
  pure (.v4 ⟨[first, second, third, fourth], rfl⟩)

/-- The range of an address copied into an array. -/
def readV6 (response : Slice) (start stop : Nat) : Except DnsError IpAddr :=
  if stop ≤ response.bytes.length then
    if same : (Bytes.slice response.bytes start stop).length = 16 then
      .ok (.v6 ⟨Bytes.slice response.bytes start stop, same⟩)
    else .error .panic
  else .error .panic

/-- An address is added unless it is there. -/
def addAddress (addresses : List IpAddr) (address : IpAddr) : List IpAddr :=
  if addresses.contains address then addresses else addresses ++ [address]

/-- An address is read and added if the record has one of this kind. -/
def addIf (condition : Prop) [Decidable condition] (address : Except DnsError IpAddr)
    (addresses : List IpAddr) : Except DnsError (List IpAddr) :=
  if condition then address.map (addAddress addresses) else .ok addresses

/-- A turn of the loop of `parse_response` over the answers. -/
def readAnswer (response : Slice) (offset : Nat) (addresses : List IpAddr) :
    Except DnsError (Nat × List IpAddr) := do
  let offset ← skipName response offset
  let recordType ← readU16 response offset
  let recordClass ← readU16 response (← add offset 2)
  let dataLength := (← readU16 response (← add offset 8)).toNat
  let dataOffset ← checkedIn response offset 10 "повреждён DNS-ответ"
  let nextOffset ← checkedIn response dataOffset dataLength "повреждён DNS resource record"
  let addresses ← addIf (recordClass = 1 ∧ recordType = dnsARecord ∧ dataLength = 4)
    (readV4 response dataOffset) addresses
  let addresses ← addIf (recordClass = 1 ∧ recordType = dnsAaaaRecord ∧ dataLength = 16)
    (readV6 response dataOffset nextOffset) addresses
  pure (nextOffset, addresses)

/-- The loop of `parse_response` over the answers. -/
def readAnswers (response : Slice) : Nat → Nat → List IpAddr → Except DnsError (List IpAddr)
  | 0, _, addresses => .ok addresses
  | answers + 1, offset, addresses => do
    let (offset, addresses) ← readAnswer response offset addresses
    readAnswers response answers offset addresses

/-- What `parse_response` checks of the header; the result is the number of questions and answers. -/
def readHeader (response : Slice) (queryId : UInt16) : Except DnsError (Nat × Nat) := do
  bailIf (response.bytes.length < 12) (.message "слишком короткий DNS-ответ")
  let responseId ← readU16 response 0
  bailIf (responseId ≠ queryId) (.message "DNS-ответ с чужим идентификатором")
  let flags ← readU16 response 2
  bailIf (flags &&& 0x8000 = 0) (.message "DNS-ответ без флага response")
  bailIf (flags &&& 0x0200 ≠ 0) (.message "DNS-ответ требует TCP-повторения")
  let status := flags &&& 0x000f
  bailIf (status ≠ 0) (.message s!"DNS-ответ с кодом {status}")
  let questions := (← readU16 response 4).toNat
  let answers := (← readU16 response 6).toNat
  pure (questions, answers)

/-- `parse_response`. -/
def parseResponse (response : Slice) (queryId : UInt16) : Except DnsError (List IpAddr) := do
  let (questions, answers) ← readHeader response queryId
  let offset ← skipQuestions response questions 12
  readAnswers response answers offset []

end Response

end Focsq.Dns
