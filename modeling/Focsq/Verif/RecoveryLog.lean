import Focsq.Backend.RecoveryLog

/-!
# What the recovery log reports

Every attempt is counted once, and swapped out once: what has been reported and what is pending add
up to the attempts, as long as the counter of 64 bits does not come round. Only the call that
exchanges the deadline reports, and the next one that does so is not before that deadline.
-/

namespace Focsq.Worker

/-- The call has counted its attempt. -/
def Observe.hasCounted (call : Observe) : Bool :=
  match call.place with
  | .counting => false
  | _ => true

/-- The number that the call reports. -/
def Observe.reported (call : Observe) : Nat :=
  match call.place with
  | .returned (some count) => count.toNat
  | _ => 0

/-- The call has exchanged the deadline, and reports or has reported. -/
def Observe.hasExchanged (call : Observe) : Bool :=
  match call.place with
  | .swapping => true
  | .returned report => report.isSome
  | _ => false

/-- The attempts that have been counted. -/
def Observers.counted (observers : Observers) : Nat :=
  observers.tasks.countP Observe.hasCounted

/-- The sum of all reports. -/
def Observers.reported (observers : Observers) : Nat :=
  (observers.tasks.map Observe.reported).sum

/-- The times of the calls that report. -/
def Observers.reporting (observers : Observers) : List UInt64 :=
  (observers.tasks.filter Observe.hasExchanged).map Observe.nowMs

/-- The times of the successful exchanges, in their order. -/
def Observers.exchanges (actions : List (Tasks.Action UInt64 Unit)) : List UInt64 :=
  (Mealy.outputs Observers.step .new actions).flatMap Option.toList

/-- When the next report after one at a time can be. -/
def reportAfter (nowMs : UInt64) : Nat := min (nowMs.toNat + 10000) (2 ^ 64 - 1)

/-- Adding the interval to a time stops at the largest number. -/
theorem toNat_saturatingAdd (nowMs : UInt64) :
    (max (saturatingAdd nowMs recoveryLogIntervalMs) 1).toNat = reportAfter nowMs := by
  have interval : recoveryLogIntervalMs.toNat = 10000 := rfl
  have largest : (UInt64.ofNat (2 ^ 64 - 1)).toNat = 2 ^ 64 - 1 := rfl
  have added : (saturatingAdd nowMs recoveryLogIntervalMs).toNat = reportAfter nowMs := by
    unfold saturatingAdd reportAfter
    split
    · rename_i fits
      rw [UInt64.toNat_add, interval, Nat.mod_eq_of_lt (interval ▸ fits)]
      omega
    · rename_i beyond
      rw [largest]
      omega
  have positive : 1 ≤ reportAfter nowMs := by
    unfold reportAfter
    omega
  show (if saturatingAdd nowMs recoveryLogIntervalMs ≤ 1 then 1
    else saturatingAdd nowMs recoveryLogIntervalMs).toNat = reportAfter nowMs
  split
  · rename_i small
    have bounded : (saturatingAdd nowMs recoveryLogIntervalMs).toNat ≤ 1 :=
      UInt64.le_iff_toNat_le.mp small
    have one : (1 : UInt64).toNat = 1 := rfl
    omega
  · exact added

section Counting

/-- The counter, what was reported, and full turns of the counter make up the attempts. -/
def Observers.Accounted (observers : Observers) : Prop :=
  ∃ turns, observers.reported + observers.shared.pending.toNat + turns * 2 ^ 64 =
    observers.counted

/-- One more attempt, and a full turn if the counter comes round. -/
theorem exists_turn_succ (pending : UInt64) :
    ∃ turns, (pending + 1).toNat + turns * 2 ^ 64 = pending.toNat + 1 := by
  have added := UInt64.toNat_add pending 1
  have one : (1 : UInt64).toNat = 1 := rfl
  have small := pending.toNat_lt
  rw [one] at added
  refine ⟨(pending.toNat + 1) / 2 ^ 64, ?_⟩
  omega

/-- What a step of a call adds to the attempts, it adds to the counter or to the reports. -/
theorem RecoveryLogGate.next_accounts (gate : RecoveryLogGate) (call : Observe) (input : Unit) :
    ∃ turns, (gate.next call input).2.1.reported + (gate.next call input).1.pending.toNat +
        turns * 2 ^ 64 + call.hasCounted.toNat =
      call.reported + gate.pending.toNat + (gate.next call input).2.1.hasCounted.toNat := by
  obtain ⟨nowMs, place⟩ := call
  cases place with
  | counting =>
    obtain ⟨turns, turned⟩ := exists_turn_succ gate.pending
    refine ⟨turns, ?_⟩
    show 0 + (gate.pending + 1).toNat + turns * 2 ^ 64 + 0 = 0 + gate.pending.toNat + 1
    omega
  | loading =>
    refine ⟨0, ?_⟩
    unfold RecoveryLogGate.next
    dsimp only
    split <;> simp [Observe.reported, Observe.hasCounted]
  | exchanging deadline =>
    refine ⟨0, ?_⟩
    unfold RecoveryLogGate.next
    dsimp only
    split <;> simp [Observe.reported, Observe.hasCounted]
  | swapping =>
    refine ⟨0, ?_⟩
    show gate.pending.toNat + 0 + 0 * 2 ^ 64 + 1 = 0 + gate.pending.toNat + 1
    omega
  | returned report => exact ⟨0, by simp [RecoveryLogGate.next]⟩

/-- Every action keeps the account. -/
theorem Observers.Accounted.moves {observers after : Observers} {event : Option UInt64}
    (accounted : observers.Accounted)
    (moves : observers.Moves Observe.enter RecoveryLogGate.next after event) :
    after.Accounted := by
  obtain ⟨turns, account⟩ := accounted
  unfold Observers.counted Observers.reported at account
  cases moves with
  | stay => exact ⟨turns, account⟩
  | begin nowMs =>
    refine ⟨turns, ?_⟩
    unfold Observers.counted Observers.reported
    rw [List.map_append, List.sum_append, List.countP_append]
    exact account
  | step front call back input here =>
    obtain ⟨more, step⟩ := observers.shared.next_accounts call input
    refine ⟨turns + more, ?_⟩
    rw [here] at account
    unfold Observers.counted Observers.reported
    dsimp only
    rw [Tasks.countP_task, List.map_append, List.sum_append, List.map_cons, List.sum_cons]
      at account ⊢
    omega

/-- The account is right after every run. -/
theorem accounted_run (actions : List (Tasks.Action UInt64 Unit)) :
    (Mealy.final Observers.step .new actions).Accounted :=
  Tasks.invariant (fun _ observers => Observers.Accounted observers)
    (fun _ _ _ _ accounted moves => Observers.Accounted.moves accounted moves) Observers.new
    actions ⟨0, rfl⟩

end Counting

section Reporting

/-- What holds of the gate and the exchanges so far. -/
structure Observers.Spaced (exchanges : List UInt64) (observers : Observers) : Prop where
  /-- No exchange is before the deadline that an earlier one has set. -/
  apart : exchanges.Pairwise fun earlier later => reportAfter earlier ≤ later.toNat
  /-- The deadline is not before that of any exchange. -/
  deadline : ∀ earlier ∈ exchanges, reportAfter earlier ≤ observers.shared.nextReportMs.toNat
  /-- A call tries to exchange a deadline that has passed. -/
  due : ∀ call ∈ observers.tasks, ∀ deadline, call.place = .exchanging deadline →
    deadline = 0 ∨ deadline ≤ call.nowMs
  /-- Every exchange is one of a call that reports. -/
  reporting : observers.reporting.Perm exchanges

/-- The deadline that an exchange sets is not zero. -/
theorem reportAfter_pos (nowMs : UInt64) : 0 < reportAfter nowMs := by
  unfold reportAfter
  omega

/-- The times of the calls that report, with those of one call in the end. -/
theorem Observers.reporting_perm (gate : RecoveryLogGate) (front back : List Observe)
    (call : Observe) :
    (Observers.reporting ⟨gate, front ++ call :: back⟩).Perm
      (Observers.reporting ⟨gate, front ++ back⟩ ++
        if call.hasExchanged then [call.nowMs] else []) := by
  unfold Observers.reporting
  dsimp only
  rw [List.filter_append, List.filter_append, List.filter_cons, List.map_append, List.map_append,
    List.append_assoc]
  apply List.Perm.append_left
  split
  · exact (List.perm_append_singleton _ _).symm
  · rw [List.append_nil]

/-- A step that exchanges nothing and leaves the gate's deadline alone. -/
theorem Observers.Spaced.silent {exchanges : List UInt64} {observers : Observers}
    (spaced : observers.Spaced exchanges) {front back : List Observe} {call next : Observe}
    (here : observers.tasks = front ++ call :: back) {gate : RecoveryLogGate}
    (deadline : gate.nextReportMs = observers.shared.nextReportMs)
    (time : next.nowMs = call.nowMs) (same : next.hasExchanged = call.hasExchanged)
    (due : ∀ deadline, next.place = .exchanging deadline →
      deadline = 0 ∨ deadline ≤ next.nowMs) :
    Observers.Spaced exchanges ⟨gate, front ++ next :: back⟩ := by
  refine ⟨spaced.apart, ?_, ?_, ?_⟩
  · dsimp only
    rw [deadline]
    exact spaced.deadline
  · intro other member
    rcases (Tasks.mem_replaced member : _ ∨ _ ∈ front ++ call :: back) with new | old
    · rw [new]
      exact due
    · exact spaced.due other (here ▸ old)
  · have before := spaced.reporting
    have now := Observers.reporting_perm gate front back next
    rw [same, time] at now
    have old := Observers.reporting_perm gate front back call
    unfold Observers.reporting at before now old ⊢
    rw [here] at before
    exact now.trans (old.symm.trans before)

/-- The call that exchanges the deadline is not before it, and the deadline moves on. -/
theorem Observers.Spaced.exchanged {exchanges : List UInt64} {observers : Observers}
    (spaced : observers.Spaced exchanges) {front back : List Observe} {nowMs : UInt64}
    (here : observers.tasks =
      front ++ ⟨nowMs, .exchanging observers.shared.nextReportMs⟩ :: back) :
    Observers.Spaced (exchanges ++ [nowMs])
      ⟨{ observers.shared with
          nextReportMs := max (saturatingAdd nowMs recoveryLogIntervalMs) 1 },
        front ++ ⟨nowMs, .swapping⟩ :: back⟩ := by
  have passed : ∀ earlier ∈ exchanges, reportAfter earlier ≤ nowMs.toNat := by
    intro earlier member
    have set := spaced.deadline earlier member
    have positive := reportAfter_pos earlier
    rcases spaced.due _ (here ▸ List.mem_append_right _ List.mem_cons_self) _ rfl with zero | past
    · rw [zero, UInt64.toNat_zero] at set
      omega
    · exact set.trans (UInt64.le_iff_toNat_le.mp past)
  have later : nowMs.toNat ≤ reportAfter nowMs := by
    have small := nowMs.toNat_lt
    unfold reportAfter
    omega
  refine ⟨?_, ?_, ?_, ?_⟩
  · rw [List.pairwise_append]
    refine ⟨spaced.apart, List.pairwise_singleton _ _, fun earlier member last one => ?_⟩
    rw [List.mem_singleton.mp one]
    exact passed earlier member
  · intro earlier member
    dsimp only
    rw [toNat_saturatingAdd]
    rcases List.mem_append.mp member with before | last
    · exact (passed earlier before).trans later
    · rw [List.mem_singleton.mp last]
  · intro other member deadline trying
    rcases (Tasks.mem_replaced member : _ ∨ _ ∈
        front ++ ⟨nowMs, .exchanging observers.shared.nextReportMs⟩ :: back) with new | old
    · rw [new] at trying
      cases trying
    · exact spaced.due other (here ▸ old) deadline trying
  · have before := spaced.reporting
    have now := Observers.reporting_perm observers.shared front back ⟨nowMs, .swapping⟩
    have old := Observers.reporting_perm observers.shared front back
      ⟨nowMs, .exchanging observers.shared.nextReportMs⟩
    unfold Observers.reporting at before now old ⊢
    rw [here] at before
    rw [show Observe.hasExchanged ⟨nowMs, .swapping⟩ = true from rfl, if_pos rfl] at now
    rw [show Observe.hasExchanged ⟨nowMs, .exchanging observers.shared.nextReportMs⟩ = false
      from rfl, if_neg Bool.false_ne_true, List.append_nil] at old
    exact now.trans ((old.symm.trans before).append_right _)

/-- Every action keeps the reports apart. -/
theorem Observers.Spaced.moves {exchanges : List UInt64} {observers after : Observers}
    {event : Option UInt64} (spaced : observers.Spaced exchanges)
    (moves : observers.Moves Observe.enter RecoveryLogGate.next after event) :
    Observers.Spaced (exchanges ++ event.toList) after := by
  cases moves with
  | stay =>
    rw [Option.toList_none, List.append_nil]
    exact spaced
  | begin nowMs =>
    rw [Option.toList_none, List.append_nil]
    refine ⟨spaced.apart, spaced.deadline, ?_, ?_⟩
    · intro call member deadline trying
      rcases List.mem_append.mp member with old | new
      · exact spaced.due call old deadline trying
      · rw [List.mem_singleton.mp new] at trying
        cases trying
    · have same : Observers.reporting { observers with
          tasks := observers.tasks ++ [Observe.enter nowMs] } = observers.reporting := by
        unfold Observers.reporting
        rw [List.filter_append, List.map_append]
        exact List.append_nil _
      rw [same]
      exact spaced.reporting
  | step front call back input here =>
    obtain ⟨nowMs, place⟩ := call
    cases place with
    | counting =>
      rw [show (observers.shared.next ⟨nowMs, .counting⟩ input).2.2.toList = [] from rfl,
        List.append_nil]
      exact spaced.silent here rfl rfl rfl fun _ trying => by cases trying
    | loading =>
      unfold RecoveryLogGate.next
      dsimp only
      split
      · rw [Option.toList_none, List.append_nil]
        exact spaced.silent here rfl rfl rfl fun _ trying => by cases trying
      · rename_i passed
        rw [Option.toList_none, List.append_nil]
        refine spaced.silent here rfl rfl rfl fun deadline trying => ?_
        cases trying
        rcases not_and_or.mp passed with zero | past
        · exact .inl (not_not.mp zero)
        · exact .inr (UInt64.not_lt.mp past)
    | exchanging deadline =>
      unfold RecoveryLogGate.next
      dsimp only
      split
      · rename_i same
        subst same
        exact spaced.exchanged here
      · rw [Option.toList_none, List.append_nil]
        exact spaced.silent here rfl rfl rfl fun _ trying => by cases trying
    | swapping =>
      rw [show (observers.shared.next ⟨nowMs, .swapping⟩ input).2.2.toList = [] from rfl,
        List.append_nil]
      exact spaced.silent here rfl rfl rfl fun _ trying => by cases trying
    | returned report =>
      rw [show (observers.shared.next ⟨nowMs, .returned report⟩ input).2.2.toList = [] from rfl,
        List.append_nil]
      exact spaced.silent here rfl rfl rfl fun _ trying => by cases trying

/-- Reports are apart in every run. -/
theorem spaced_run (actions : List (Tasks.Action UInt64 Unit)) :
    Observers.Spaced (Observers.exchanges actions)
      (Mealy.final Observers.step .new actions) :=
  Tasks.invariant Observers.Spaced
    (fun _ _ _ _ spaced moves => Observers.Spaced.moves spaced moves) Observers.new actions
    { apart := .nil
      deadline := fun _ member => by cases member
      due := fun _ member => by cases member
      reporting := .nil }

end Reporting

/-- A call that counts, loads, exchanges and swaps. -/
def observeAlone (task : Nat) (nowMs : UInt64) : List (Tasks.Action UInt64 Unit) :=
  [.begin nowMs, .step task (), .step task (), .step task (), .step task ()]

/-- Nothing is reported twice and nothing is lost, up to full turns of the counter; the reports are
those of the exchanges, and none is within ten seconds of one before it, unless the clock is at its
end. -/
theorem observe_accounted (actions : List (Tasks.Action UInt64 Unit)) :
    let after : Observers := Mealy.final Observers.step .new actions
    (∃ turns, after.reported + after.shared.pending.toNat + turns * 2 ^ 64 = after.counted) ∧
      (after.counted < 2 ^ 64 →
        after.reported + after.shared.pending.toNat = after.counted) ∧
      after.reporting.Perm (Observers.exchanges actions) ∧
      (Observers.exchanges actions).Pairwise fun earlier later =>
        reportAfter earlier ≤ later.toNat := by
  intro after
  obtain ⟨turns, account⟩ : Observers.Accounted after := accounted_run actions
  have spaced : Observers.Spaced (Observers.exchanges actions) after := spaced_run actions
  refine ⟨⟨turns, account⟩, fun few => ?_, spaced.reporting, spaced.apart⟩
  have none : turns = 0 := by
    by_contra some
    have one : 1 ≤ turns := Nat.one_le_iff_ne_zero.mpr some
    omega
  rw [← account, none, Nat.zero_mul, Nat.add_zero]

/-- Two calls ten seconds apart both report their own attempt. -/
theorem observe_accounted_alone :
    let after : Observers :=
      Mealy.final Observers.step .new (observeAlone 0 0 ++ observeAlone 1 10000)
    after.reported + after.shared.pending.toNat = after.counted ∧ after.counted = 2 ∧
      Observers.exchanges (observeAlone 0 0 ++ observeAlone 1 10000) = [0, 10000] :=
  ⟨(observe_accounted (observeAlone 0 0 ++ observeAlone 1 10000)).2.1 (by decide), by decide,
    by decide⟩

section Overflow

/-- Calls at the time `0` that only count their attempt, one after the other. -/
def onlyCount : Nat → List (Tasks.Action UInt64 Unit)
  | 0 => []
  | count + 1 => onlyCount count ++ [.begin 0, .step count ()]

/-- The counter after calls that only count. -/
theorem final_onlyCount (count : Nat) :
    Mealy.final Observers.step .new (onlyCount count) =
      ⟨⟨UInt64.ofNat count, 0⟩, List.replicate count ⟨0, .loading⟩⟩ := by
  induction count with
  | zero => rfl
  | succ count ih =>
    have here : (List.replicate count ⟨0, .loading⟩ ++ [Observe.enter 0])[count]? =
        some (Observe.enter 0) := by
      rw [List.getElem?_append_right (by simp), List.length_replicate, Nat.sub_self]
      rfl
    rw [onlyCount, Mealy.final_append, ih]
    simp only [Mealy.final, Observers.step, Tasks.Pool.step, here]
    rw [List.set_append_right _ _ (by simp), List.length_replicate, Nat.sub_self,
      List.replicate_succ', UInt64.ofNat_add]
    rfl

/-- What the account says after calls that only count. -/
theorem account_onlyCount (count : Nat) :
    let after : Observers := Mealy.final Observers.step .new (onlyCount count)
    after.reported + after.shared.pending.toNat = count % 2 ^ 64 ∧ after.counted = count := by
  have reported : (List.replicate count (⟨0, .loading⟩ : Observe)).map Observe.reported =
      List.replicate count 0 := List.map_replicate
  have counted : (List.replicate count (⟨0, .loading⟩ : Observe)).countP Observe.hasCounted =
      count := by
    rw [List.countP_replicate]
    exact if_pos rfl
  have zeros : (List.replicate count 0).sum = 0 := by
    rw [List.sum_replicate_nat, Nat.mul_zero]
  dsimp only
  rw [final_onlyCount]
  refine ⟨?_, counted⟩
  unfold Observers.reported
  dsimp only
  rw [reported, zeros, UInt64.toNat_ofNat', Nat.zero_add]

/-- Attempts are lost when the counter comes round, and there are two reports at one time when the
clock is at its end. -/
theorem observe_wraps :
    (¬ ∀ actions : List (Tasks.Action UInt64 Unit),
      let after : Observers := Mealy.final Observers.step .new actions
      after.reported + after.shared.pending.toNat = after.counted) ∧
    (¬ ∀ actions : List (Tasks.Action UInt64 Unit),
      (Observers.exchanges actions).Pairwise (fun earlier later =>
        earlier.toNat ≤ later.toNat) →
      (Observers.exchanges actions).Pairwise (fun earlier later =>
        earlier.toNat + 10000 ≤ later.toNat)) := by
  constructor
  · intro always
    have wrapped := always (onlyCount (2 ^ 64))
    obtain ⟨account, counted⟩ := account_onlyCount (2 ^ 64)
    have zero : 2 ^ 64 % 2 ^ 64 = 2 ^ 64 := account.symm.trans (wrapped.trans counted)
    rw [Nat.mod_self] at zero
    exact absurd zero (by decide)
  · intro always
    have twice : Observers.exchanges
        (observeAlone 0 18446744073709551615 ++ observeAlone 1 18446744073709551615) =
        [18446744073709551615, 18446744073709551615] := by decide
    have apart := always
      (observeAlone 0 18446744073709551615 ++ observeAlone 1 18446744073709551615)
    rw [twice] at apart
    exact absurd (apart (by decide)) (by decide)

end Overflow

end Focsq.Worker
