import Focsq.Backend.NativeCore
import Focsq.Lib.Checked
import Focsq.Lib.Loops

/-!
# The retransmission loop

`expire_transactions` of `turn_core.rs` once more, with what the loop can fail at: an index behind
the end of the pending requests, and a counter that overflows. Whether there is another turn depends
on how many requests are pending then. The loop takes a note of every request that it queues again.
-/

namespace Focsq.Turn

open Checked

/-- The variables of the loop, and the requests that it has queued again. -/
structure Expiring where
  /-- `index`. -/
  index : Nat
  /-- `self`. -/
  inner : Inner
  /-- The requests that were queued again. -/
  sent : List Pending

/-- `self.pending.remove(index)`. -/
def Inner.removePending (inner : Inner) (index : Nat) : Except Panic (Pending × Inner) := do
  let pending ← Checked.index inner.pending index
  return (pending, { inner with pending := inner.pending.eraseIdx index })

/-- Give up the request at the index. -/
def Expiring.giveUp (loop : Expiring) (now : Nat) : Except Panic Expiring := do
  let (pending, inner) ← loop.inner.removePending loop.index
  let inner := inner.removeQueuedTransaction pending.transaction
  return { loop with inner := inner.completeFailure pending.operation resultTimeout 0 now }

/-- Send the request at the index again. -/
def Expiring.sendAgain (loop : Expiring) (now : Nat) : Except Panic Expiring := do
  let found ← Checked.index loop.inner.pending loop.index
  let inner := loop.inner.queuePacket found.packet
  let pending ← Checked.index inner.pending loop.index
  let transmissions ← Checked.add 8 pending.transmissions 1
  let rto := min (pending.rto * 2) maxRto
  let pending := { pending with transmissions, rto, nextAttempt := now + rto }
  return ⟨loop.index + 1, { inner with pending := inner.pending.set loop.index pending },
    loop.sent ++ [found]⟩

/-- The body of the loop. -/
def Expiring.body (loop : Expiring) (now : Nat) : Except Panic Expiring := do
  let pending ← Checked.index loop.inner.pending loop.index
  if now < pending.nextAttempt then
    return { loop with index := loop.index + 1 }
  else do
    let pending ← Checked.index loop.inner.pending loop.index
    if maxTransmissions ≤ pending.transmissions then loop.giveUp now
    else if loop.inner.transport = .stream then loop.giveUp now
    else loop.sendAgain now

/-- A turn of the loop, if there is another one. -/
def Expiring.turn (now : Nat) (loop : Expiring) : Loops.Turn Expiring (Except Panic Expiring) :=
  if loop.index < loop.inner.pending.length then
    match loop.body now with
    | .ok loop => .again loop
    | .error panic => .done (.error panic)
  else .done (.ok loop)

/-- What the loop comes to, if there is enough fuel. -/
def Inner.runExpiring (inner : Inner) (now fuel : Nat) : Option (Except Panic Expiring) :=
  Loops.run (Expiring.turn now) fuel ⟨0, inner, []⟩

end Focsq.Turn
