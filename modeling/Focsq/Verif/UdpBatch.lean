import Focsq.Backend.UdpBatch

/-!
# Every datagram of a batch is sent once

Each attempt to send a batch sends its first datagrams and says how many, so that a batch that is
sent in the end is sent in its order, with nothing left out and nothing twice.
-/

namespace Focsq.UdpBatch

/-- What comes of an attempt: the first datagrams are sent, and none when it would block. -/
structure SendsFirst (already : Nat) (datagrams : List Datagram)
    (outcome : Except IoError Nat × List Datagram) : Prop where
  /-- The count is that of the datagrams that are sent. -/
  counted : ∀ count, outcome.1 = .ok count →
    ∃ more, count = already + more ∧ outcome.2 = datagrams.take more
  /-- Nothing is sent when it would block. -/
  blocked : outcome.1 = .error .wouldBlock → already = 0 ∧ outcome.2 = []

/-- Some datagrams are sent. -/
theorem sendsFirst_ok (already more : Nat) (datagrams : List Datagram) :
    SendsFirst already datagrams (.ok (already + more), datagrams.take more) := by
  constructor
  · intro count counted
    exact ⟨more, (Except.ok.inj counted).symm, rfl⟩
  · intro blocks
    cases blocks

/-- The attempt fails. -/
theorem sendsFirst_error {already : Nat} {datagrams wire : List Datagram} {error : IoError}
    (blocked : error = .wouldBlock → already = 0 ∧ wire = []) :
    SendsFirst already datagrams (.error error, wire) := by
  constructor
  · intro count counted
    cases counted
  · exact fun blocks => blocked (Except.error.inj blocks)

/-- Sending one by one sends the first datagrams. -/
theorem portableLoop_sends (attempt : Attempt) (sent : Nat) (datagrams : List Datagram) :
    SendsFirst sent datagrams (portableLoop attempt sent datagrams) := by
  induction datagrams generalizing sent with
  | nil => exact sendsFirst_ok sent 0 []
  | cons datagram rest ih =>
    obtain ⟨counted, blocked⟩ := ih (sent + 1)
    rw [portableLoop]
    cases attempt.trySend sent with
    | ok length =>
      dsimp only
      split
      · constructor
        · intro count total
          obtain ⟨more, sum, first⟩ := counted count total
          refine ⟨more + 1, by omega, ?_⟩
          rw [List.take_succ_cons, ← first]
        · intro blocks
          have never := (blocked blocks).1
          omega
      · refine sendsFirst_error fun blocks => ?_
        cases blocks
    | error error =>
      dsimp only
      split
      · exact sendsFirst_ok sent 0 _
      · rename_i stopped
        refine sendsFirst_error fun blocks => ?_
        have none : ¬0 < sent := fun some => stopped ⟨blocks, some⟩
        exact ⟨by omega, rfl⟩

/-- One call of `sendmmsg` sends the first datagrams. -/
theorem trySendMmsg_sends (attempt : Attempt) (datagrams : List Datagram) :
    SendsFirst 0 datagrams (trySendMmsg attempt datagrams) := by
  rw [trySendMmsg]
  split
  · exact sendsFirst_ok 0 0 _
  · cases attempt.sendMmsg with
    | error error => exact sendsFirst_error fun _ => ⟨rfl, rfl⟩
    | ok sent =>
      dsimp only
      split
      · exact sendsFirst_error fun _ => ⟨rfl, rfl⟩
      · split
        · refine sendsFirst_error fun blocks => ?_
          cases blocks
        · have first := sendsFirst_ok 0 sent datagrams
          rwa [Nat.zero_add] at first

/-- An attempt sends the first datagrams, with either system. -/
theorem trySendConnected_sends (attempt : Attempt) (datagrams : List Datagram) :
    SendsFirst 0 datagrams (trySendConnected attempt datagrams) := by
  have portable := portableLoop_sends attempt 0 datagrams
  have mmsg := trySendMmsg_sends attempt datagrams
  unfold trySendConnected
  by_cases many : maxDatagrams < datagrams.length
  · rw [if_pos many]
    refine sendsFirst_error fun blocks => ?_
    cases blocks
  · rw [if_neg many]
    split
    · exact portable
    · split
      · exact portable
      · exact mmsg

/-- A loop that comes to its end has sent every datagram once and in order. -/
theorem sendLoop_sends (attempts : List Attempt) (datagrams : List Datagram)
    (sent : (sendLoop attempts datagrams).1 = .ok ()) :
    (sendLoop attempts datagrams).2 = datagrams := by
  induction attempts generalizing datagrams with
  | nil =>
    cases datagrams with
    | nil => rfl
    | cons datagram rest => cases sent
  | cons attempt attempts ih =>
    cases datagrams with
    | nil => rfl
    | cons datagram rest =>
      obtain ⟨counted, blocked⟩ := trySendConnected_sends attempt (datagram :: rest)
      rw [sendLoop] at sent ⊢
      cases writable : attempt.writable with
      | error error =>
        rw [writable] at sent
        cases sent
      | ok ready =>
        rw [writable] at sent
        dsimp only at sent ⊢
        cases tried : trySendConnected attempt (datagram :: rest) with
        | mk result wire =>
          rw [tried] at sent counted blocked
          cases result with
          | ok count =>
            obtain ⟨more, sum, first⟩ := counted count rfl
            rw [Nat.zero_add] at sum
            subst sum
            dsimp only at sent first ⊢
            rw [ih _ sent, first]
            exact List.take_append_drop count _
          | error error =>
            cases error with
            | wouldBlock =>
              have none := (blocked rfl).2
              dsimp only at sent none ⊢
              rw [ih _ sent, none]
              rfl
            | unavailable => cases sent
            | other message => cases sent

/-- A batch that is sent is sent once and in order, in however many attempts. -/
theorem sendConnected_sends {attempts : List Attempt} {datagrams : List Datagram}
    (sent : (sendConnected attempts datagrams).1 = .ok ()) :
    (sendConnected attempts datagrams).2 = datagrams := by
  unfold sendConnected at sent ⊢
  by_cases many : maxDatagrams < datagrams.length
  · rw [if_pos many] at sent
    cases sent
  · rw [if_neg many] at sent ⊢
    exact sendLoop_sends attempts datagrams sent

/-- A system that takes the whole batch at once sends it. -/
theorem sendConnected_once {attempt : Attempt} {datagrams : List Datagram}
    (short : datagrams.length ≤ maxDatagrams) (writable : attempt.writable = .ok ())
    (enabled : attempt.sendMmsgEnabled = true)
    (takes : attempt.sendMmsg = .ok datagrams.length) :
    (sendConnected [attempt] datagrams).1 = .ok () := by
  rw [sendConnected, if_neg (Nat.not_lt.mpr short)]
  cases datagrams with
  | nil => rfl
  | cons datagram rest =>
    have some : ¬(datagram :: rest).length = 0 := Nat.succ_ne_zero _
    have all : trySendConnected attempt (datagram :: rest) =
        (.ok (datagram :: rest).length, datagram :: rest) := by
      rw [trySendConnected, if_neg (Nat.not_lt.mpr short), enabled, trySendMmsg, takes]
      dsimp only
      rw [if_neg some, if_neg (Nat.lt_irrefl _), List.take_length]
      rfl
    rw [sendLoop, writable, all]
    dsimp only
    rw [List.drop_length, sendLoop]

end Focsq.UdpBatch
