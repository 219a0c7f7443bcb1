import Focsq.Lib.Bytes
import Focsq.Backend.Packet

/-!
# STUN messages

`stun_codec.rs` decodes a datagram as a STUN message: it checks the header, walks once over the
attributes to see that they tile the body, and keeps the bytes. Attributes are read from the
bytes again when they are looked up.

The two walks are recursions on fuel. Every attribute takes at least four bytes, so the length of
the datagram is enough.
-/

namespace Focsq.Stun

/-- `HEADER_SIZE` — length of a message header. -/
def headerSize : Nat := 20

/-- `MAGIC_COOKIE` — in every message. -/
def magicCookie : UInt32 := 0x2112a442

/-- `ATTR_FINGERPRINT` — checksum of a message. -/
def attrFingerprint : UInt16 := 0x8028

/-- `FINGERPRINT_XOR` — combined with the checksum. -/
def fingerprintXor : UInt32 := 0x5354554e

/-- `Class` — kind of a message. -/
inductive Class where
  /-- A request. -/
  | request
  /-- A message that is not answered. -/
  | indication
  /-- A positive answer. -/
  | success
  /-- A negative answer. -/
  | error
  deriving DecidableEq, Repr

/-- `Attribute` — an attribute and where it is in the message. -/
structure Attribute where
  /-- Its type. -/
  kind : UInt16
  /-- Its value, without padding. -/
  value : List UInt8
  /-- Where its type starts. -/
  headerStart : Nat
  /-- Where its value starts and where it ends. -/
  valueRange : Nat × Nat
  deriving DecidableEq, Repr

/-- `Message` — a decoded message. -/
structure Message where
  /-- The datagram. -/
  raw : List UInt8
  /-- Method and class. -/
  kind : UInt16
  /-- Transaction identifier. -/
  transaction : Bytes.Octets 12
  /-- Where the attributes end. -/
  stop : Nat
  deriving DecidableEq, Repr

/-- Two bytes as a number, `u16::from_be_bytes`. -/
def u16At (raw : List UInt8) (position : Nat) : UInt16 :=
  UInt16.ofNat (Bytes.fromBe (Bytes.slice raw position (position + 2)))

/-- A length with its padding to a multiple of four, `(length + 3) & !3`. -/
def padded (length : Nat) : Nat := (length + 3) / 4 * 4

/-- The loop of `decode` over the attributes. -/
def checkAttributes (raw : List UInt8) (stop : Nat) : Nat → Nat → Except Failure Unit
  | 0, _ => .ok ()
  | fuel + 1, position =>
    if position < stop then
      if stop - position < 4 then .error (.bail "STUN attribute header truncated")
      else
        let length := (u16At raw (position + 2)).toNat
        let valueStart := position + 4
        let next := valueStart + padded length
        if stop < next || stop < valueStart + length then
          .error (.bail "STUN attribute value truncated")
        else checkAttributes raw stop fuel next
    else .ok ()

/-- `Message::decode`. -/
def Message.decode (raw : List UInt8) : Except Failure Message := do
  if raw.length < headerSize then throw (.bail "STUN header truncated")
  let kind := u16At raw 0
  if kind &&& 0xc000 != 0 then throw (.bail "STUN type has non-zero leading bits")
  if kind == 0 then throw (.bail "STUN type zero is reserved")
  if Bytes.slice raw 4 8 != Bytes.be 4 magicCookie.toNat then
    throw (.bail "STUN magic cookie mismatch")
  let declared := (u16At raw 2).toNat
  if declared % 4 != 0 then throw (.bail "STUN message length is not aligned")
  let stop := headerSize + declared
  if raw.length != stop then throw (.bail "STUN datagram length mismatch")
  checkAttributes raw stop raw.length headerSize
  return { raw, kind, transaction := .ofList (Bytes.slice raw 8 20), stop }

/-- `class` — the two class bits. -/
def Message.class (message : Message) : Class :=
  match (((message.kind >>> 4) &&& (1 : UInt16)) |||
    ((message.kind >>> 7) &&& (2 : UInt16))).toNat with
  | 0 => .request
  | 1 => .indication
  | 2 => .success
  | _ => .error

/-- `method` — the other bits. -/
def Message.method (message : Message) : UInt16 :=
  (message.kind &&& (0x000f : UInt16)) ||| ((message.kind >>> 1) &&& (0x0070 : UInt16)) |||
    ((message.kind >>> 2) &&& (0x0f80 : UInt16))

/-- The attribute `Attributes::next` reads at a position. -/
def attributeAt (raw : List UInt8) (headerStart : Nat) : Attribute :=
  let kind := u16At raw headerStart
  let length := (u16At raw (headerStart + 2)).toNat
  let valueStart := headerStart + 4
  let valueEnd := valueStart + length
  { kind := if kind == 0x8020 then 0x0020 else kind
    value := Bytes.slice raw valueStart valueEnd
    headerStart
    valueRange := (valueStart, valueEnd) }

/-- Where the attribute after one starts. -/
def Attribute.next (entry : Attribute) : Nat :=
  entry.valueRange.1 + padded (entry.valueRange.2 - entry.valueRange.1)

/-- What the iterator `Attributes` yields from a position on. -/
def attributesFrom (raw : List UInt8) (stop : Nat) : Nat → Nat → List Attribute
  | 0, _ => []
  | fuel + 1, position =>
    if stop ≤ position then []
    else attributeAt raw position :: attributesFrom raw stop fuel (attributeAt raw position).next

/-- `attributes` — all attributes in order. -/
def Message.attributes (message : Message) : List Attribute :=
  attributesFrom message.raw message.stop message.raw.length headerSize

/-- `Attributes` — the iterator over the attributes of a message. -/
structure Attributes where
  /-- The datagram. -/
  raw : List UInt8
  /-- Where the next attribute starts. -/
  position : Nat
  /-- Where the attributes end. -/
  stop : Nat
  deriving DecidableEq, Repr

/-- `attributes` — the iterator at the first attribute. -/
def Message.iterator (message : Message) : Attributes where
  raw := message.raw
  position := headerSize
  stop := message.stop

/-- Two bytes as a number, if they are there. -/
def indexedU16 (raw : List UInt8) (position : Nat) : Option UInt16 := do
  let high ← raw[position]?
  let low ← raw[position + 1]?
  return UInt16.ofNat (Bytes.fromBe [high, low])

/-- A part of a slice, if it is there. -/
def indexedSlice (raw : List UInt8) (start stop : Nat) : Option (List UInt8) :=
  if stop ≤ raw.length then some (Bytes.slice raw start stop) else none

/-- `Attributes::next`. There is no result where an index is out of bounds and the source panics. -/
def Attributes.next (attributes : Attributes) : Option (Option Attribute × Attributes) :=
  if attributes.stop ≤ attributes.position then some (none, attributes)
  else do
    let headerStart := attributes.position
    let kind ← indexedU16 attributes.raw headerStart
    let length := (← indexedU16 attributes.raw (headerStart + 2)).toNat
    let valueStart := headerStart + 4
    let valueEnd := valueStart + length
    let value ← indexedSlice attributes.raw valueStart valueEnd
    let entry :=
      { kind := if kind == 0x8020 then 0x0020 else kind
        value
        headerStart
        valueRange := (valueStart, valueEnd) }
    some (some entry, { attributes with position := valueStart + padded length })

/-- `attribute` — the first attribute of a type. -/
def Message.attribute (message : Message) (target : UInt16) : Option Attribute :=
  message.attributes.find? (fun entry => entry.kind == target)

/-- `fingerprint_valid` — whether the checksum is right and comes last, if there is one. The
checksum, `crc32fast::hash`, is a parameter. -/
def Message.fingerprintValid (crc32 : List UInt8 → UInt32) (message : Message) : Option Bool :=
  match message.attribute attrFingerprint with
  | none => none
  | some entry =>
    if entry.value.length != 4 || entry.headerStart + 8 != message.stop then some false
    else
      let expected := crc32 (message.raw.take entry.headerStart) ^^^ fingerprintXor
      some (UInt32.ofNat (Bytes.fromBe entry.value) == expected)

end Focsq.Stun
