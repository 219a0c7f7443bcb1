import Focsq.Verif.WorkerSteps

/-!
# Leases among the workers of one credential

Whatever the workers do and whenever they panic, a lease is given back at most once, and of the
leases of one generation at most eighteen are in use or used up. So no more than eighteen
allocations are begun with one generation of the credential, apart from those that are not seen
before their session has ended. A generation that is taken out is not lent again.
-/

namespace Focsq.Worker

open Endpoint (TurnTransportMode)

section Ledgers

/-- A ledger that follows another one, with one more lease or without, and with so many stores. -/
structure Ledger.Follows (ledger after : Ledger) (lease : Option CredentialLease) (stores : Nat) :
    Prop where
  /-- The tally is kept. -/
  tallied : after.Tallied
  /-- The lease is open. -/
  loans : after.loans = ledger.loans ++ (lease.map fun lease => ⟨lease, false, false⟩).toList
  /-- There are not more stores. -/
  stored : after.generations.length ≤ ledger.generations.length + stores
  /-- Generations are counted upwards. -/
  next : ledger.cache.nextGeneration ≤ after.cache.nextGeneration
  /-- The credential in use was in use before, or it is newer than all before. -/
  newer : ∀ cached ∈ after.cache.current,
    (∃ old ∈ ledger.cache.current, cached.generation = old.generation) ∨
      ledger.cache.nextGeneration < cached.generation
  /-- The lease is one of the credential in use. -/
  owned : ∀ given ∈ lease, ∃ cached ∈ after.cache.current, given = cached.lease

variable {ledger : Ledger}

/-- One after the other. -/
theorem Ledger.Follows.trans {middle after : Ledger} {lease : Option CredentialLease}
    {first second : Nat} (one : ledger.Follows middle none first)
    (two : middle.Follows after lease second) : ledger.Follows after lease (first + second) where
  tallied := two.tallied
  loans := by
    have same := one.loans
    rw [Option.map_none, Option.toList_none, List.append_nil] at same
    rw [two.loans, same]
  stored := by
    have early := one.stored
    have late := two.stored
    omega
  next := Nat.le_trans one.next two.next
  newer := by
    intro cached member
    rcases two.newer cached member with ⟨old, here, same⟩ | new
    · rcases one.newer old here with ⟨older, there, equal⟩ | young
      · exact .inl ⟨older, there, same.trans equal⟩
      · exact .inr (same ▸ young)
    · exact .inr (Nat.lt_of_le_of_lt one.next new)
  owned := two.owned

/-- The credential in use keeps its leases, or it is taken out. -/
theorem Ledger.Tallied.follows_touch (tallied : ledger.Tallied) {cache : CredentialCache}
    (touches : ledger.cache.Touches cache) :
    ∃ after : Ledger, after.cache = cache ∧ ledger.Follows after none 0 := by
  obtain ⟨current, blocked, generation, retries⟩ := cache
  obtain ⟨same, kept⟩ := touches
  dsimp only at same kept
  subst same
  exact ⟨_, rfl,
    { tallied := tallied.touch current blocked retries ledger.rejected kept
      loans := (List.append_nil _).symm
      stored := Nat.le_refl _
      next := Nat.le_refl _
      newer := fun cached member => by
        obtain ⟨old, here, equal, -⟩ := kept cached member
        exact .inl ⟨old, here, congrArg CredentialLease.generation equal⟩
      owned := fun _ member => by cases member }⟩

/-- A lease is handed out, or there is none. -/
theorem Ledger.Tallied.follows_reserve (tallied : ledger.Tallied) :
    ∃ after : Ledger, after.cache = ledger.cache.reserve.2 ∧
      ledger.Follows after ledger.cache.reserve.1 0 := by
  rcases ledger.cache.reserve_cases with ⟨reserved, _⟩ | ⟨cached, here, room, reserved⟩
  · rw [reserved]
    exact tallied.follows_touch ⟨rfl, fun cached member => by cases member⟩
  · rw [reserved]
    exact ⟨_, rfl,
      { tallied := tallied.lend cached here room
        loans := rfl
        stored := Nat.le_refl _
        next := Nat.le_refl _
        newer := fun other member => by
          cases member
          exact .inl ⟨cached, here, rfl⟩
        owned := fun given member => by
          cases member
          exact ⟨_, rfl, rfl⟩ }⟩

/-- A credential is stored, or it is refused. -/
theorem Ledger.Tallied.follows_store (tallied : ledger.Tallied) (credentials : TurnCredentials)
    (few : ledger.generations.length < u64Max) :
    ∃ after : Ledger, after.cache = (ledger.cache.store credentials).2 ∧
      ledger.Follows after none 1 := by
  rcases ledger.cache.store_cases credentials with ⟨_, stored⟩ | ⟨_, stored⟩
  · rw [stored]
    obtain ⟨after, same, follows⟩ := tallied.follows_touch ledger.cache.touches_self
    exact ⟨after, same, { follows with stored := Nat.le_succ_of_le follows.stored }⟩
  · rw [stored]
    have counted : ledger.cache.nextGeneration < u64Max := by
      rw [tallied.numbered, List.length_range'] at few
      exact few
    have next : ledger.cache.newGeneration = ledger.cache.nextGeneration + 1 := by
      unfold CredentialCache.newGeneration saturatingSucc
      omega
    exact ⟨_, rfl,
      { tallied := tallied.accept credentials counted
        loans := (List.append_nil _).symm
        stored := Nat.le_of_eq List.length_append
        next := by
          show ledger.cache.nextGeneration ≤ ledger.cache.newGeneration
          omega
        newer := fun cached member => by
          cases member
          exact .inr (by
            show ledger.cache.nextGeneration < ledger.cache.newGeneration
            omega)
        owned := fun _ member => by cases member }⟩

/-- A worker asks for a lease. -/
theorem Ledger.Tallied.follows_get (tallied : ledger.Tallied) (fetched : Option TurnCredentials)
    (waited : Bool) (few : ledger.generations.length + fetched.isSome.toNat ≤ u64Max) :
    ∃ after : Ledger, after.cache = (ledger.cache.get fetched waited).2 ∧
      ledger.Follows after (ledger.cache.get fetched waited).1 fetched.isSome.toNat := by
  obtain ⟨asked, same, first⟩ := tallied.follows_reserve
  unfold CredentialCache.get
  cases reserved : ledger.cache.reserve with
  | mk lease cache =>
    rw [reserved] at same first
    cases lease with
    | some lease =>
      exact ⟨asked, same, { first with stored := Nat.le_add_right_of_le first.stored }⟩
    | none =>
      dsimp only at same ⊢
      subst same
      cases fetched with
      | none => exact ⟨asked, rfl, first⟩
      | some credentials =>
        have room : asked.generations.length < u64Max := by
          have before := first.stored
          have limit : ledger.generations.length + 1 ≤ u64Max := few
          omega
        obtain ⟨stored, same, second⟩ := first.tallied.follows_store credentials room
        dsimp only
        cases kept : asked.cache.store credentials with
        | mk done cache =>
          rw [kept] at same
          dsimp only at same
          subst same
          have both : ledger.Follows stored none 1 := Nat.zero_add 1 ▸ first.trans second
          cases done with
          | false =>
            have touches : stored.cache.Touches stored.cache.nextQuotaDelay.2 :=
              ⟨rfl, fun cached member => ⟨cached, member, rfl, rfl⟩⟩
            obtain ⟨after, same, third⟩ := second.tallied.follows_touch touches
            exact ⟨after, same, both.trans third⟩
          | true =>
            cases waited with
            | false => exact ⟨stored, rfl, both⟩
            | true =>
              obtain ⟨after, same, third⟩ := second.tallied.follows_reserve
              exact ⟨after, same, both.trans third⟩

end Ledgers

section Counts

variable (counts : CredentialLease → Bool)

/-- Whether a lease is handed out. -/
def WorkerEvent.leases : WorkerEvent → Bool
  | .got _ (some lease) => counts lease
  | _ => false

/-- Whether a lease is given back. -/
def WorkerEvent.returns : WorkerEvent → Bool
  | .released lease _ => counts lease
  | _ => false

/-- Whether a lease is used up. -/
def WorkerEvent.uses : WorkerEvent → Bool
  | .kept lease _ | .lost lease _ => counts lease
  | _ => false

/-- Whether an allocation is begun. -/
def WorkerEvent.begins : WorkerEvent → Bool
  | .began lease => counts lease
  | _ => false

/-- Whether a lease is given back although an allocation was begun with it. -/
def WorkerEvent.unseen : WorkerEvent → Bool
  | .released lease tried => tried && counts lease
  | _ => false

/-- Whether the provider is asked with success. -/
def WorkerEvent.fetches : WorkerEvent → Bool
  | .got fetched _ => fetched.isSome
  | _ => false

/-- Whether a worker has to give a lease back. -/
def WorkerPlace.holds (place : WorkerPlace) : Bool := place.lease.any fun held => counts held.1

/-- Whether its session has begun an allocation. -/
def WorkerPlace.tries (place : WorkerPlace) : Bool :=
  place.lease.any fun held => held.2 && counts held.1

/-- Every lease that was handed out is given back, used up or held, and with every allocation that
was begun a lease is used up, held, or given back all the same. -/
structure Balanced (events : List WorkerEvent) (cohort : Cohort) : Prop where
  /-- Leases. -/
  leases : events.countP (WorkerEvent.leases counts) =
    events.countP (WorkerEvent.returns counts) + events.countP (WorkerEvent.uses counts) +
      cohort.tasks.countP (WorkerPlace.holds counts)
  /-- Allocations. -/
  begun : events.countP (WorkerEvent.begins counts) ≤
    events.countP (WorkerEvent.unseen counts) + events.countP (WorkerEvent.uses counts) +
      cohort.tasks.countP (WorkerPlace.tries counts)

variable {transport : TurnTransportMode} {cache after : CredentialCache}
  {place moved : WorkerPlace} {event : Option WorkerEvent}

/-- A silent event is not counted. -/
theorem silent_uncounted (silent : ∀ seen ∈ event, seen.Silent) :
    event.toList.countP (WorkerEvent.leases counts) = 0 ∧
      event.toList.countP (WorkerEvent.returns counts) = 0 ∧
      event.toList.countP (WorkerEvent.uses counts) = 0 ∧
      event.toList.countP (WorkerEvent.begins counts) = 0 ∧
      event.toList.countP (WorkerEvent.unseen counts) = 0 ∧
      event.toList.countP WorkerEvent.fetches = 0 := by
  cases event with
  | none => exact ⟨rfl, rfl, rfl, rfl, rfl, rfl⟩
  | some seen =>
    have quiet := silent seen rfl
    cases seen with
    | networkRecovered => exact ⟨rfl, rfl, rfl, rfl, rfl, rfl⟩
    | networkTimeout => exact ⟨rfl, rfl, rfl, rfl, rfl, rfl⟩
    | pauses delay => exact ⟨rfl, rfl, rfl, rfl, rfl, rfl⟩
    | _ => cases quiet

/-- What a step changes is balanced. -/
theorem WorkerPlace.Turns.balance (turns : place.Turns cache (after, moved, event)) :
    event.toList.countP (WorkerEvent.leases counts) + (place.holds counts).toNat =
        event.toList.countP (WorkerEvent.returns counts) +
          event.toList.countP (WorkerEvent.uses counts) + (moved.holds counts).toNat ∧
      event.toList.countP (WorkerEvent.begins counts) + (place.tries counts).toNat ≤
        event.toList.countP (WorkerEvent.unseen counts) +
          event.toList.countP (WorkerEvent.uses counts) + (moved.tries counts).toNat := by
  unfold WorkerPlace.holds WorkerPlace.tries
  cases turns with
  | quiet _ _ _ touches same silent =>
    obtain ⟨leases, returns, uses, begins, unseen, -⟩ := silent_uncounted counts silent
    rw [leases, returns, uses, begins, unseen, same]
    omega
  | ask fetched waited _ free held =>
    rw [free, held]
    cases (cache.get fetched waited).1 with
    | none => exact ⟨rfl, Nat.le_refl _⟩
    | some lease =>
      cases used : counts lease <;>
        simp [WorkerEvent.leases, WorkerEvent.returns, WorkerEvent.uses, WorkerEvent.begins,
          WorkerEvent.unseen, used]
  | begin lease _ held there =>
    rw [held, there]
    cases used : counts lease <;>
      simp [WorkerEvent.leases, WorkerEvent.returns, WorkerEvent.uses, WorkerEvent.begins,
        WorkerEvent.unseen, used]
  | release lease tried _ held free =>
    rw [held, free]
    cases used : counts lease <;> cases tried <;>
      simp [WorkerEvent.leases, WorkerEvent.returns, WorkerEvent.uses, WorkerEvent.begins,
        WorkerEvent.unseen, used]
  | spend lease tried _ event held free how =>
    rw [held, free]
    rcases how with rfl | rfl <;> cases used : counts lease <;> cases tried <;>
      simp [WorkerEvent.leases, WorkerEvent.returns, WorkerEvent.uses, WorkerEvent.begins,
        WorkerEvent.unseen, used]
  | retire lease _ cached _ here same touches empty free idle =>
    rw [free, idle]
    exact ⟨rfl, Nat.le_refl _⟩

end Counts

section Books

variable {events : List WorkerEvent} {cohort next : Cohort} {event : Option WorkerEvent}
  {transport : TurnTransportMode}

/-- Every action keeps the balance. -/
theorem Balanced.moves {counts : CredentialLease → Bool}
    (balanced : Balanced counts events cohort)
    (moves : cohort.Moves WorkerPlace.enter (WorkerPlace.next transport) next event) :
    Balanced counts (events ++ event.toList) next := by
  obtain ⟨leases, begun⟩ := balanced
  cases moves with
  | stay =>
    rw [Option.toList_none, List.append_nil]
    exact ⟨leases, begun⟩
  | begin call =>
    rw [Option.toList_none, List.append_nil]
    constructor
    · rw [Vec.countP_concat]
      exact leases
    · rw [Vec.countP_concat]
      exact begun
  | step front place back input here =>
    have turns := place.next_turns transport cohort.shared input
    generalize place.next transport cohort.shared input = turn at turns ⊢
    obtain ⟨after, moved, event⟩ := turn
    obtain ⟨lease, tried⟩ := turns.balance counts
    rw [here, Tasks.countP_task] at leases begun
    constructor
    · rw [List.countP_append, List.countP_append, List.countP_append]
      dsimp only
      rw [Tasks.countP_task]
      omega
    · rw [List.countP_append, List.countP_append, List.countP_append]
      dsimp only
      rw [Tasks.countP_task]
      omega

/-- The lease of the credential that is taken out. -/
def WorkerEvent.retiredLease : WorkerEvent → Option CredentialLease
  | .retired lease => some lease
  | _ => none

/-- The lease that is handed out. -/
def WorkerEvent.gotLease : WorkerEvent → Option CredentialLease
  | .got _ lease => lease
  | _ => none

/-- A ledger for what has happened. -/
structure Booked (events : List WorkerEvent) (cohort : Cohort) (ledger : Ledger) : Prop where
  /-- It is about the cache. -/
  cache : ledger.cache = cohort.shared
  /-- It is right. -/
  tallied : ledger.Tallied
  /-- There are not more stores than answers of the provider. -/
  stored : ledger.generations.length ≤ events.countP WorkerEvent.fetches
  /-- The leases that were not given back are used up or held. -/
  unreturned : ∀ counts : CredentialLease → Bool,
    ledger.loans.countP (fun loan : Loan => counts loan.lease && !loan.released) =
      events.countP (WorkerEvent.uses counts) +
        cohort.tasks.countP (WorkerPlace.holds counts)
  /-- What was taken out is older than what is in use. -/
  retired : ∀ seen ∈ events, ∀ lease ∈ seen.retiredLease,
    lease.generation ≤ ledger.cache.nextGeneration ∧
      ∀ cached ∈ ledger.cache.current, lease.generation < cached.generation

/-- The first ledger. -/
theorem booked_empty : Booked [] .new .empty where
  cache := rfl
  tallied := Ledger.tallied_empty
  stored := Nat.le_refl _
  unreturned := fun _ => rfl
  retired := fun _ member => by cases member

/-- A silent event is about no lease. -/
theorem silent_leaseless {seen : WorkerEvent} (silent : seen.Silent) :
    seen.retiredLease = none ∧ seen.gotLease = none := by
  cases seen with
  | networkRecovered => exact ⟨rfl, rfl⟩
  | networkTimeout => exact ⟨rfl, rfl⟩
  | pauses delay => exact ⟨rfl, rfl⟩
  | _ => cases silent

variable {ledger : Ledger}

/-- What was taken out stays older. -/
theorem Booked.older (booked : Booked events cohort ledger) {after : Ledger}
    {lease : Option CredentialLease} {stores : Nat} (follows : ledger.Follows after lease stores)
    {seen : WorkerEvent} (member : seen ∈ events) {gone : CredentialLease}
    (retired : gone ∈ seen.retiredLease) :
    gone.generation ≤ after.cache.nextGeneration ∧
      ∀ cached ∈ after.cache.current, gone.generation < cached.generation := by
  obtain ⟨below, older⟩ := booked.retired seen member gone retired
  refine ⟨Nat.le_trans below follows.next, fun cached current => ?_⟩
  rcases follows.newer cached current with ⟨old, here, same⟩ | new
  · rw [same]
    exact older old here
  · exact Nat.lt_of_le_of_lt below new

/-- A lease that is not given back is in the ledger. -/
theorem Booked.loan (booked : Booked events cohort ledger) {place : WorkerPlace}
    (member : place ∈ cohort.tasks) {lease : CredentialLease} {tried : Bool}
    (held : place.lease = some (lease, tried)) :
    ∃ (index : Nat) (loan : Loan), ledger.loans[index]? = some loan ∧ loan.lease = lease ∧
      loan.released = false := by
  have some : 0 < cohort.tasks.countP (WorkerPlace.holds (· == lease)) := by
    refine List.countP_pos_iff.mpr ⟨place, member, ?_⟩
    unfold WorkerPlace.holds
    rw [held]
    exact beq_self_eq_true lease
  have open_ := booked.unreturned (· == lease)
  obtain ⟨loan, lent, found⟩ := List.countP_pos_iff.mp
    (show 0 < ledger.loans.countP fun loan : Loan => loan.lease == lease && !loan.released by omega)
  obtain ⟨index, here⟩ := List.mem_iff_getElem?.mp lent
  rw [Bool.and_eq_true, beq_iff_eq, Bool.not_eq_true'] at found
  exact ⟨index, loan, here, found.1, found.2⟩

/-- Nothing is lent or given back. -/
theorem Booked.quiet (booked : Booked events cohort ledger) {cache : CredentialCache}
    (touches : cohort.shared.Touches cache) {seen : List WorkerEvent} {tasks : List WorkerPlace}
    (same : ∀ counts, seen.countP (WorkerEvent.uses counts) +
      tasks.countP (WorkerPlace.holds counts) = cohort.tasks.countP (WorkerPlace.holds counts))
    (retired : ∀ event ∈ seen, ∀ lease ∈ event.retiredLease, cache.current = none ∧
      lease.generation ≤ cohort.shared.nextGeneration) :
    ∃ after, Booked (events ++ seen) ⟨cache, tasks⟩ after := by
  rw [← booked.cache] at touches
  obtain ⟨after, rfl, follows⟩ := booked.tallied.follows_touch touches
  have loans := follows.loans
  rw [Option.map_none, Option.toList_none, List.append_nil] at loans
  refine ⟨after, rfl, follows.tallied, ?_, fun counts => ?_, fun event member lease gone => ?_⟩
  · have before := booked.stored
    have now := follows.stored
    rw [List.countP_append]
    omega
  · have before := booked.unreturned counts
    have kept := same counts
    rw [loans, List.countP_append]
    dsimp only
    omega
  · rcases List.mem_append.mp member with early | late
    · exact booked.older follows early gone
    · obtain ⟨empty, below⟩ := retired event late lease gone
      rw [← booked.cache] at below
      refine ⟨Nat.le_trans below follows.next, fun cached current => ?_⟩
      rw [empty] at current
      cases current

/-- A worker asks for a lease. -/
theorem Booked.ask (booked : Booked events cohort ledger) (fetched : Option TurnCredentials)
    (waited : Bool)
    (few : (events ++ [WorkerEvent.got fetched (cohort.shared.get fetched waited).1]).countP
      WorkerEvent.fetches ≤ u64Max)
    {tasks : List WorkerPlace}
    (more : ∀ counts, tasks.countP (WorkerPlace.holds counts) =
      cohort.tasks.countP (WorkerPlace.holds counts) +
        ((cohort.shared.get fetched waited).1.any counts).toNat) :
    ∃ after, Booked (events ++ [.got fetched (cohort.shared.get fetched waited).1])
        ⟨(cohort.shared.get fetched waited).2, tasks⟩ after ∧
      ∀ seen ∈ events, ∀ gone ∈ seen.retiredLease, ∀ lease ∈ (cohort.shared.get fetched waited).1,
        gone.generation < lease.generation := by
  rw [← booked.cache] at few more ⊢
  have one : [WorkerEvent.got fetched (ledger.cache.get fetched waited).1].countP
      WorkerEvent.fetches = fetched.isSome.toNat := by
    cases fetched <;> rfl
  rw [List.countP_append, one] at few
  have stored := booked.stored
  obtain ⟨after, same, follows⟩ := booked.tallied.follows_get fetched waited (by omega)
  refine ⟨after, ⟨same, follows.tallied, ?_, fun counts => ?_, fun seen member lease gone => ?_⟩,
    fun seen member gone retired lease given => ?_⟩
  · have now := follows.stored
    rw [List.countP_append, one]
    omega
  · have before := booked.unreturned counts
    have open_ := more counts
    have none : [WorkerEvent.got fetched (ledger.cache.get fetched waited).1].countP
        (WorkerEvent.uses counts) = 0 := rfl
    have lent : ((ledger.cache.get fetched waited).1.map fun lease =>
        (⟨lease, false, false⟩ : Loan)).toList.countP
          (fun loan => counts loan.lease && !loan.released) =
        ((ledger.cache.get fetched waited).1.any counts).toNat := by
      cases (ledger.cache.get fetched waited).1 with
      | none => rfl
      | some lease => cases used : counts lease <;> simp [used]
    rw [follows.loans, List.countP_append, List.countP_append, lent, none]
    dsimp only
    omega
  · rcases List.mem_append.mp member with early | late
    · exact booked.older follows early gone
    · rw [List.mem_singleton.mp late] at gone
      cases gone
  · obtain ⟨cached, current, rfl⟩ := follows.owned lease given
    exact (booked.older follows member retired).2 cached current

/-- A release leaves the generations. -/
theorem CredentialCache.release_generation (cache : CredentialCache) (lease : CredentialLease) :
    (cache.release lease).nextGeneration = cache.nextGeneration ∧
      ∀ cached ∈ (cache.release lease).current,
        ∃ old ∈ cache.current, cached.generation = old.generation := by
  rcases cache.release_cases lease with ⟨same, -⟩ | ⟨cached, here, -, same⟩
  · rw [same]
    exact ⟨rfl, fun cached member => ⟨cached, member, rfl⟩⟩
  · rw [same]
    exact ⟨rfl, fun other member => by
      cases member
      exact ⟨cached, here, rfl⟩⟩

/-- A lease is given back. -/
theorem Booked.release (booked : Booked events cohort ledger) {place : WorkerPlace}
    (member : place ∈ cohort.tasks) {lease : CredentialLease} {tried : Bool}
    (held : place.lease = some (lease, tried)) {tasks : List WorkerPlace}
    (fewer : ∀ counts, tasks.countP (WorkerPlace.holds counts) + (counts lease).toNat =
      cohort.tasks.countP (WorkerPlace.holds counts)) :
    ∃ after, Booked (events ++ [.released lease tried]) ⟨cohort.shared.release lease, tasks⟩
      after := by
  obtain ⟨index, loan, here, rfl, first⟩ := booked.loan member held
  refine ⟨ledger.giveBack index loan, ?_, booked.tallied.giveBack index loan here first, ?_,
    fun counts => ?_, fun seen among gone retired => ?_⟩
  · rw [← booked.cache]
    rfl
  · rw [List.countP_append]
    exact Nat.le_add_right_of_le booked.stored
  · have before := booked.unreturned counts
    have less := fewer counts
    have exchanged := Vec.countP_set (fun loan : Loan => counts loan.lease && !loan.released)
      ledger.loans index loan ⟨loan.lease, true, loan.inTime || ledger.cache.isCurrent loan.lease⟩
      here
    have none : [WorkerEvent.released loan.lease tried].countP (WorkerEvent.uses counts) = 0 := rfl
    dsimp only at exchanged
    rw [first, Bool.not_false, Bool.and_true, Bool.not_true, Bool.and_false] at exchanged
    unfold Ledger.giveBack
    rw [List.countP_append, none]
    dsimp only [Bool.toNat_false] at exchanged ⊢
    omega
  · rcases List.mem_append.mp among with early | late
    · obtain ⟨below, older⟩ := booked.retired seen early gone retired
      obtain ⟨next, kept⟩ := ledger.cache.release_generation loan.lease
      refine ⟨?_, fun cached current => ?_⟩
      · show gone.generation ≤ (ledger.cache.release loan.lease).nextGeneration
        rw [next]
        exact below
      · obtain ⟨old, there, same⟩ := kept cached current
        rw [same]
        exact older old there
    · rw [List.mem_singleton.mp late] at retired
      cases retired

/-- Later leases are newer than what was taken out before. -/
def Newer (earlier later : WorkerEvent) : Prop :=
  ∀ gone ∈ earlier.retiredLease, ∀ lease ∈ later.gotLease, gone.generation < lease.generation

/-- Every action can be booked, as long as generations can be told apart. -/
theorem Booked.moves (booked : Booked events cohort ledger)
    (moves : cohort.Moves WorkerPlace.enter (WorkerPlace.next transport) next event)
    (few : (events ++ event.toList).countP WorkerEvent.fetches ≤ u64Max) :
    (∃ after, Booked (events ++ event.toList) next after) ∧
      ∀ seen ∈ events, ∀ later ∈ event, Newer seen later := by
  cases moves with
  | stay =>
    rw [Option.toList_none, List.append_nil]
    exact ⟨⟨ledger, booked⟩, fun _ _ _ member => by cases member⟩
  | begin call =>
    have same (counts : CredentialLease → Bool) :
        ([] : List WorkerEvent).countP (WorkerEvent.uses counts) +
          (cohort.tasks ++ [WorkerPlace.enter call]).countP (WorkerPlace.holds counts) =
            cohort.tasks.countP (WorkerPlace.holds counts) := by
      rw [Vec.countP_concat]
      exact Nat.zero_add _
    exact ⟨booked.quiet cohort.shared.touches_self same fun _ member => (by cases member),
      fun _ _ _ member => (by cases member)⟩
  | step front place back input here =>
    have turns := place.next_turns transport cohort.shared input
    have member : place ∈ cohort.tasks := by
      rw [here]
      exact List.mem_append_right _ List.mem_cons_self
    have tally (moved : WorkerPlace) (counts : CredentialLease → Bool) :
        (front ++ moved :: back).countP (WorkerPlace.holds counts) +
            (place.lease.any fun held => counts held.1).toNat =
          cohort.tasks.countP (WorkerPlace.holds counts) +
            (moved.lease.any fun held => counts held.1).toNat := by
      rw [here, Tasks.countP_task, Tasks.countP_task]
      unfold WorkerPlace.holds
      omega
    have old {later : WorkerEvent} (none : later.gotLease = none) :
        ∀ seen ∈ events, ∀ event ∈ some later, Newer seen event := by
      intro seen _ event same gone _ lease got
      cases same
      rw [none] at got
      cases got
    generalize place.next transport cohort.shared input = turn at turns few ⊢
    cases turns with
    | quiet after moved event touches same silent =>
      refine ⟨booked.quiet touches (fun counts => ?_) fun seen told gone retired => ?_,
        fun seen _ later told gone _ lease got => ?_⟩
      · have change := tally moved counts
        obtain ⟨-, -, uses, -, -, -⟩ := silent_uncounted counts silent
        rw [same] at change
        show event.toList.countP (WorkerEvent.uses counts) +
          (front ++ moved :: back).countP (WorkerPlace.holds counts) = _
        omega
      · rw [(silent_leaseless (silent seen (Option.mem_toList.mp told))).1] at retired
        cases retired
      · rw [(silent_leaseless (silent later told)).2] at got
        cases got
    | ask fetched waited moved free held =>
      have more (counts : CredentialLease → Bool) :
          (front ++ moved :: back).countP (WorkerPlace.holds counts) =
            cohort.tasks.countP (WorkerPlace.holds counts) +
              ((cohort.shared.get fetched waited).1.any counts).toNat := by
        have change := tally moved counts
        rw [free, held, Option.any_map] at change
        exact change
      obtain ⟨after, found, newer⟩ := booked.ask fetched waited few more
      refine ⟨⟨after, found⟩, fun seen early later same gone retired lease got => ?_⟩
      cases same
      exact newer seen early gone retired lease got
    | begin lease moved held after =>
      refine ⟨booked.quiet cohort.shared.touches_self (fun counts => ?_) fun seen told => ?_,
        old rfl⟩
      · have change := tally moved counts
        rw [held, after] at change
        exact (Nat.zero_add _).trans (Nat.add_right_cancel change)
      · rw [List.mem_singleton.mp told]
        exact fun _ gone => (by cases gone)
    | release lease tried moved held free =>
      refine ⟨booked.release member held fun counts => ?_, old rfl⟩
      have change := tally moved counts
      rw [held, free] at change
      exact change
    | spend lease tried moved event held free used =>
      have counted (counts : CredentialLease → Bool) :
          [event].countP (WorkerEvent.uses counts) = (counts lease).toNat := by
        rw [List.countP_singleton]
        rcases used with rfl | rfl <;> cases given : counts lease <;>
          simp [WorkerEvent.uses, given]
      have leaseless : event.retiredLease = none ∧ event.gotLease = none := by
        rcases used with rfl | rfl <;> exact ⟨rfl, rfl⟩
      refine ⟨booked.quiet cohort.shared.touches_self (fun counts => ?_) fun seen told => ?_,
        old leaseless.2⟩
      · have change := tally moved counts
        rw [held, free] at change
        show [event].countP (WorkerEvent.uses counts) +
          (front ++ moved :: back).countP (WorkerPlace.holds counts) = _
        rw [counted, Nat.add_comm]
        exact change
      · rw [List.mem_singleton.mp told, leaseless.1]
        exact fun _ gone => (by cases gone)
    | retire lease after cached moved current same touches empty free idle =>
      have newest := booked.tallied.newest cached (booked.cache ▸ current)
      refine ⟨booked.quiet touches (fun counts => ?_) fun seen told gone retired => ⟨empty, ?_⟩,
        old rfl⟩
      · have change := tally moved counts
        rw [free, idle] at change
        exact (Nat.zero_add _).trans change
      · rw [List.mem_singleton.mp told] at retired
        cases retired
        rw [same, ← booked.cache]
        exact Nat.le_of_eq newest

end Books

section Run

/-- As long as generations can be told apart, what has happened can be booked, and later leases are
newer than what was taken out. -/
def Traced (events : List WorkerEvent) (cohort : Cohort) : Prop :=
  events.countP WorkerEvent.fetches ≤ u64Max →
    (∃ ledger, Booked events cohort ledger) ∧ events.Pairwise Newer

variable (transport : TurnTransportMode) (actions : List (Tasks.Action Nat Outside))

/-- Every action keeps it so. -/
theorem Traced.moves {transport : TurnTransportMode} {events : List WorkerEvent}
    {cohort next : Cohort} {event : Option WorkerEvent} (traced : Traced events cohort)
    (moves : cohort.Moves WorkerPlace.enter (WorkerPlace.next transport) next event) :
    Traced (events ++ event.toList) next := by
  intro few
  have before : events.countP WorkerEvent.fetches ≤ u64Max := by
    rw [List.countP_append] at few
    omega
  obtain ⟨⟨ledger, booked⟩, ordered⟩ := traced before
  obtain ⟨after, newer⟩ := booked.moves moves few
  refine ⟨after, List.pairwise_append.mpr ⟨ordered, ?_, fun seen early later late =>
    newer seen early later (Option.mem_toList.mp late)⟩⟩
  cases event with
  | none => exact .nil
  | some event => exact List.pairwise_singleton _ _

/-- Every run can be booked. -/
theorem cohort_traced :
    Traced (Cohort.events transport actions) (Cohort.final transport actions) :=
  Tasks.invariant Traced (fun _ _ _ _ traced moves => traced.moves moves) Cohort.new actions
    fun _ => ⟨⟨_, booked_empty⟩, .nil⟩

/-- Every run is balanced. -/
theorem cohort_balanced (counts : CredentialLease → Bool) :
    Balanced counts (Cohort.events transport actions) (Cohort.final transport actions) :=
  Tasks.invariant (Balanced counts) (fun _ _ _ _ balanced moves => balanced.moves moves) Cohort.new
    actions ⟨rfl, Nat.le_refl _⟩

/-- At most eighteen leases of a generation are not given back. -/
theorem Ledger.Tallied.unreturned_le {ledger : Ledger} (tallied : ledger.Tallied)
    (generation : Nat) :
    ledger.loans.countP (fun loan => loan.lease.generation == generation && !loan.released) ≤
      workersPerCredential := by
  have bounded := tallied.bounded generation
  have inTime : ledger.releasedInTime generation ≤
      ledger.loans.countP fun loan => loan.lease.generation == generation && loan.released := by
    refine List.countP_mono_left fun loan lent both => ?_
    rw [Bool.and_eq_true] at both ⊢
    exact ⟨both.1, tallied.returned loan lent both.2⟩
  have split : ledger.handedOut generation =
      ledger.loans.countP (fun loan => loan.lease.generation == generation && loan.released) +
        ledger.loans.countP fun loan =>
          loan.lease.generation == generation && !loan.released := by
    unfold Ledger.handedOut
    rw [List.countP_eq_countP_filter_add _ _ fun loan : Loan => loan.released, List.countP_filter,
      List.countP_filter]
  omega

/-- Every lease is given back once, used up once, or held by one worker; of a generation, at most
eighteen leases are used up or held, and at most eighteen allocations are begun, apart from those
that were not seen before their session ended. -/
theorem cohort_bounded
    (few : (Cohort.events transport actions).countP WorkerEvent.fetches ≤ u64Max)
    (generation : Nat) :
    let events := Cohort.events transport actions
    let tasks := (Cohort.final transport actions).tasks
    let counts := fun lease : CredentialLease => lease.generation == generation
    events.countP (WorkerEvent.leases counts) = events.countP (WorkerEvent.returns counts) +
        events.countP (WorkerEvent.uses counts) + tasks.countP (WorkerPlace.holds counts) ∧
      events.countP (WorkerEvent.uses counts) + tasks.countP (WorkerPlace.holds counts) ≤
        workersPerCredential ∧
      events.countP (WorkerEvent.begins counts) ≤
        events.countP (WorkerEvent.unseen counts) + workersPerCredential := by
  intro events tasks counts
  obtain ⟨leases, begun⟩ := cohort_balanced transport actions counts
  obtain ⟨⟨ledger, booked⟩, -⟩ := cohort_traced transport actions few
  have unreturned := booked.unreturned counts
  have bounded := booked.tallied.unreturned_le generation
  have held :
      tasks.countP (WorkerPlace.tries counts) ≤ tasks.countP (WorkerPlace.holds counts) := by
    refine List.countP_mono_left fun place _ tries => ?_
    unfold WorkerPlace.tries at tries
    unfold WorkerPlace.holds
    cases held : place.lease with
    | none =>
      rw [held] at tries
      cases tries
    | some lease =>
      rw [held] at tries
      exact (Bool.and_eq_true_iff.mp tries).2
  refine ⟨leases, unreturned ▸ bounded, ?_⟩
  have all : events.countP (WorkerEvent.uses counts) + tasks.countP (WorkerPlace.holds counts) ≤
      workersPerCredential := unreturned ▸ bounded
  have tried : events.countP (WorkerEvent.begins counts) ≤
      events.countP (WorkerEvent.unseen counts) + events.countP (WorkerEvent.uses counts) +
        tasks.countP (WorkerPlace.tries counts) := begun
  omega

/-- The first worker is turned away for the quota, and the session of the second one ends before it
is seen that it has begun an allocation. -/
def quotaRun : List (Tasks.Action Nat Outside) :=
  [.begin 1, .begin 2, .step 0 .going, .step 1 .going,
    .step 0 (.asked false (some firstCredentials) true false), .step 0 .going, .step 0 .going,
    .step 1 (.asked false none true false), .step 1 .going, .step 1 .going, .step 0 .begins,
    .step 1 .begins, .step 0 .observes,
    .step 0 (.ends (.error ⟨⟨"TURN Allocate: quota".toList, .turnAllocate⟩,
      [⟨"quota".toList, .turnRequest 486⟩]⟩)),
    .step 1 (.ends (.ok ())), .step 0 .going, .step 1 .going,
    .step 0 (.judged false false false false 0), .step 0 (.drawn 0), .step 0 (.drawn 0),
    .step 1 (.judged false true false false 0), .step 0 .going, .step 0 .going,
    .step 0 (.asked false (some secondCredentials) true false)]

/-- Two allocations are begun with the first generation; one lease is used up, and one is given
back all the same. -/
theorem quotaRun_bounded :
    (Cohort.events .udp quotaRun).countP (WorkerEvent.begins (·.generation == 1)) = 2 ∧
      (Cohort.events .udp quotaRun).countP (WorkerEvent.unseen (·.generation == 1)) = 1 ∧
      (Cohort.events .udp quotaRun).countP (WorkerEvent.uses (·.generation == 1)) +
        (Cohort.final .udp quotaRun).tasks.countP (WorkerPlace.holds (·.generation == 1)) ≤ 18 :=
  ⟨by decide +kernel, by decide +kernel, (cohort_bounded .udp quotaRun (by decide +kernel) 1).2.1⟩

/-- A generation that was taken out is not lent again. -/
theorem retired_outlived
    (few : (Cohort.events transport actions).countP WorkerEvent.fetches ≤ u64Max) :
    (Cohort.events transport actions).Pairwise Newer :=
  (cohort_traced transport actions few).2

/-- The first generation is taken out, and the second one is lent. -/
theorem quotaRun_retired :
    (Cohort.events .udp quotaRun).filterMap WorkerEvent.retiredLease = [⟨firstCredentials, 1⟩] ∧
      ((Cohort.events .udp quotaRun).filterMap WorkerEvent.gotLease).getLast? =
        some ⟨secondCredentials, 2⟩ ∧
      (Cohort.events .udp quotaRun).Pairwise Newer :=
  ⟨by decide +kernel, by decide +kernel, retired_outlived .udp quotaRun (by decide +kernel)⟩

/-- The pauses of a run and of its workers are paced. -/
def AllPaced (events : List WorkerEvent) (cohort : Cohort) : Prop :=
  (∀ event ∈ events, ∀ delay ∈ event.delay, Paced delay) ∧
    ∀ place ∈ cohort.tasks, ∀ delay ∈ place.delay, Paced delay

/-- Every action keeps it so. -/
theorem AllPaced.moves {transport : TurnTransportMode} {events : List WorkerEvent}
    {cohort next : Cohort} {event : Option WorkerEvent} (paced : AllPaced events cohort)
    (moves : cohort.Moves WorkerPlace.enter (WorkerPlace.next transport) next event) :
    AllPaced (events ++ event.toList) next := by
  obtain ⟨seen, places⟩ := paced
  cases moves with
  | stay =>
    rw [Option.toList_none, List.append_nil]
    exact ⟨seen, places⟩
  | begin call =>
    rw [Option.toList_none, List.append_nil]
    refine ⟨seen, fun place member delay long => ?_⟩
    rcases List.mem_append.mp member with old | new
    · exact places place old delay long
    · rw [List.mem_singleton.mp new] at long
      cases long
  | step front place back input here =>
    have turn := place.next_paced transport cohort.shared
      (places place (here ▸ List.mem_append_right _ List.mem_cons_self)) input
    refine ⟨fun event member delay long => ?_, fun other member delay long => ?_⟩
    · rcases List.mem_append.mp member with early | late
      · exact seen event early delay long
      · exact turn.2 delay (Option.mem_bind_iff.mpr ⟨event, Option.mem_toList.mp late, long⟩)
    · rcases Tasks.eq_or_mem_others member with same | others
      · rw [same] at long
        exact turn.1 delay long
      · exact places other (here ▸ Tasks.mem_of_others others) delay long

end Run

end Focsq.Worker
