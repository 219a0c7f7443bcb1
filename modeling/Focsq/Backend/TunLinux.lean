import Focsq.Lib.Bytes
import Focsq.Lib.Loops

/-!
# Answers of the kernel

`tun_linux.rs` asks the kernel for routes over a netlink socket and walks over the messages that
come back, from one header to the next. A read behind the bytes that were received is a result of
its own here. Numbers have the byte order of the machine, which is little-endian.
-/

namespace Focsq.TunLinux

/-- `NLMSG_ERROR`. -/
def nlmsgError : UInt16 := 2

/-- `NlMsgHeader`. -/
structure NlMsgHeader where
  /-- `length`. -/
  length : UInt32
  /-- `type_`. -/
  type : UInt16
  /-- `flags`. -/
  flags : UInt16
  /-- `sequence`. -/
  sequence : UInt32
  /-- `port`. -/
  port : UInt32
  deriving DecidableEq

/-- `size_of::<NlMsgHeader>()`. -/
def sizeOfHeader : Nat := 16

/-- `nlmsg_align` — the length rounded up to a multiple of four. -/
-- `usize` has 64 bits, so that the sum with a length of 32 bits is in range.
def nlmsgAlign (length : Nat) : Nat := (length + 3) / 4 * 4

/-- The number in a range, with its lowest byte first. -/
def number (received : List UInt8) (start width : Nat) : Nat :=
  Bytes.fromBe (Bytes.slice received start (start + width)).reverse

/-- The header at a position, if it was received. -/
def readHeader (received : List UInt8) (offset : Nat) : Option NlMsgHeader :=
  if offset + sizeOfHeader ≤ received.length then
    some
      { length := UInt32.ofNat (number received offset 4)
        type := UInt16.ofNat (number received (offset + 4) 2)
        flags := UInt16.ofNat (number received (offset + 6) 2)
        sequence := UInt32.ofNat (number received (offset + 8) 4)
        port := UInt32.ofNat (number received (offset + 12) 4) }
  else none

/-- The code at a position, if it was received. -/
def readCode (received : List UInt8) (offset : Nat) : Option Int32 :=
  if offset + 4 ≤ received.length then some (UInt32.ofNat (number received offset 4)).toInt32
  else none

/-- Whether a message is an error, and received with its code. -/
def isError (received : List UInt8) (offset : Nat) (header : NlMsgHeader) : Bool :=
  header.type == nlmsgError && sizeOfHeader + 4 ≤ header.length.toNat &&
    offset + sizeOfHeader + 4 ≤ received.length

/-- How the walk over what was received ends. -/
inductive Walk where
  /-- There is no other message. -/
  | finished
  /-- `Ok(None)` — the kernel has no error. -/
  | acknowledged
  /-- `Ok(Some(..))` — the kernel has an error, with this code. -/
  | refused (code : Int32)
  /-- A read behind what was received. -/
  | outside
  deriving DecidableEq

/-- A turn of the inner loop of `receive_netlink_error`. -/
def walkTurn (received : List UInt8) (offset : Nat) : Loops.Turn Nat Walk :=
  if offset + sizeOfHeader ≤ received.length then
    match readHeader received offset with
    | none => .done .outside
    | some header =>
      if isError received offset header then
        match readCode received (offset + sizeOfHeader) with
        | none => .done .outside
        | some code => .done (if code = 0 then .acknowledged else .refused code)
      else .again (offset + nlmsgAlign header.length.toNat)
  else .done .finished

/-- The inner loop of `receive_netlink_error`, with so many turns at most. -/
def walk (received : List UInt8) (fuel : Nat) : Option Walk :=
  Loops.run (walkTurn received) fuel 0

end Focsq.TunLinux
