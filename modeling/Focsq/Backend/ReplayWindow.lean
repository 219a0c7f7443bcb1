import Mathlib.Data.UInt

/-!
# The replay window of a session

`ReplayWindow` of `session.rs` keeps the highest accepted counter and one bit for each of the
16384 counters up to it, in a ring of 256 words. An RTP sequence number has 16 bits; it is first
extended to the 64-bit counter nearest to the highest one.
-/

namespace Focsq.Session

/-- `ReplayWindow` — the highest accepted counter and the ring of accepted ones. -/
structure ReplayWindow where
  /-- The highest accepted counter. -/
  highest : Option UInt64
  /-- One bit per counter, at the counter modulo 16384. -/
  seen : Vector UInt64 256
  deriving DecidableEq

/-- `ReplayWindow::default` — nothing has been accepted. -/
def ReplayWindow.default : ReplayWindow := ⟨none, Vector.replicate 256 0⟩

/-- Place of a counter in the ring. -/
def bitIndex (counter : UInt64) : Nat := (counter % 16384).toNat

/-- The word of the ring a counter falls into. -/
def wordIndex (counter : UInt64) : Fin 256 :=
  ⟨bitIndex counter / 64, by
    have bound : (counter % 16384).toNat = counter.toNat % 16384 := UInt64.toNat_mod _ _
    unfold bitIndex
    omega⟩

/-- The bit of a counter within its word. -/
def bitMask (counter : UInt64) : UInt64 := 1 <<< UInt64.ofNat (bitIndex counter % 64)

/-- `set_bit` — mark a counter. -/
def setBit (seen : Vector UInt64 256) (counter : UInt64) : Vector UInt64 256 :=
  seen.set (wordIndex counter) (seen[wordIndex counter] ||| bitMask counter)

/-- `clear_bit` — unmark a counter. -/
def clearBit (seen : Vector UInt64 256) (counter : UInt64) : Vector UInt64 256 :=
  seen.set (wordIndex counter) (seen[wordIndex counter] &&& ~~~bitMask counter)

/-- `test_bit` — whether a counter is marked. -/
def testBit (seen : Vector UInt64 256) (counter : UInt64) : Bool :=
  (seen[wordIndex counter] &&& bitMask counter) != 0

/-- `ReplayWindow::accept` — the second component is what it returns. -/
def ReplayWindow.accept (window : ReplayWindow) (counter : UInt64) : ReplayWindow × Bool :=
  match window.highest with
  | none => (⟨some counter, setBit window.seen counter⟩, true)
  | some highest =>
    if counter > highest then
      let shift := counter - highest
      let seen :=
        if shift ≥ 16384 then Vector.replicate 256 0
        else (List.range' 1 shift.toNat).foldl
          (fun seen i => clearBit seen (highest + UInt64.ofNat i)) window.seen
      (⟨some counter, setBit seen counter⟩, true)
    else
      let age := highest - counter
      if age ≥ 16384 then (window, false)
      else if testBit window.seen counter then (window, false)
      else ({ window with seen := setBit window.seen counter }, true)

/-- `u64::saturating_add`. -/
def saturatingAdd (left right : UInt64) : UInt64 :=
  if left.toNat + right.toNat < 2 ^ 64 then left + right else UInt64.ofNat (2 ^ 64 - 1)

/-- `1 << 16` — the number of RTP sequence numbers. -/
def turn : UInt64 := 65536

/-- `1 << 15` — half of them. -/
def halfTurn : UInt64 := 32768

/-- The extension of `accept_rtp`: the counter it passes on to `accept`. -/
def extendRtp (highest : Option UInt64) (sequence : UInt16) : UInt64 :=
  match highest with
  | none => sequence.toUInt64
  | some highest =>
    let base := highest &&& ~~~65535
    let extended := base ||| sequence.toUInt64
    if saturatingAdd extended halfTurn < highest then saturatingAdd extended turn
    else if extended > saturatingAdd highest halfTurn ∧ extended ≥ turn then extended - turn
    else extended

/-- `ReplayWindow::accept_rtp` — extend the sequence number and offer the counter. -/
def ReplayWindow.acceptRtp (window : ReplayWindow) (sequence : UInt16) : ReplayWindow × Bool :=
  window.accept (extendRtp window.highest sequence)

end Focsq.Session
