import Focsq.Backend.CredentialCache
import Focsq.Lib.Mealy
import Focsq.Lib.Vec

/-!
# The ledger of credential leases

A ledger stands beside the cache: which leases were handed out, which of them were given back, which
generations and which rejections there were. The cache counts the leases of its present generation
only. For one generation that count is exact, and so a generation has at most eighteen leases.
-/

namespace Focsq.Worker

/-- A lease that was handed out. -/
structure Loan where
  /-- The lease. -/
  lease : CredentialLease
  /-- Whether it was given back, -/
  released : Bool
  /-- and whether its generation was current then. -/
  inTime : Bool
  deriving DecidableEq

/-- The cache and what happened to it. -/
structure Ledger where
  /-- The cache. -/
  cache : CredentialCache
  /-- Leases that were handed out, the oldest one first. -/
  loans : List Loan
  /-- Generations of the stores, the oldest one first. -/
  generations : List Nat
  /-- Credentials that were taken out because of their quota. -/
  rejected : List TurnCredentials
  deriving DecidableEq

/-- The default cache, to which nothing has happened. -/
def Ledger.empty : Ledger := ⟨{}, [], [], []⟩

/-- A call of the cache. Leases are given by when they were handed out. -/
inductive Operation where
  /-- `reserve`. -/
  | reserve
  /-- `store`, with what the provider returned. -/
  | store (credentials : TurnCredentials)
  /-- `record_allocation`. -/
  | recordAllocation (index : Nat)
  /-- `release`. -/
  | release (index : Nat)
  /-- `invalidate`. -/
  | invalidate (index : Nat)
  /-- `rotate_after_quota`. -/
  | rotateAfterQuota (index : Nat)
  /-- `next_quota_delay`. -/
  | nextQuotaDelay
  /-- `retry_after_mismatch`. -/
  | retryAfterMismatch (index : Nat)
  deriving DecidableEq

/-- What a call returns. -/
inductive Answer where
  /-- Nothing. -/
  | done
  /-- A lease, if there is one. -/
  | lease (lease : Option CredentialLease)
  /-- Whether something was done. -/
  | whether (done : Bool)
  /-- What follows from the quota. -/
  | quota (rotation : QuotaRotation)
  /-- A delay. -/
  | delay (delay : Nat)
  /-- What follows from the mismatch. -/
  | mismatch (mismatch : AllocationMismatch)
  deriving DecidableEq

/-- Whether a lease is of the present generation. -/
def CredentialCache.isCurrent (cache : CredentialCache) (lease : CredentialLease) : Bool :=
  cache.current.any (fun cached => cached.generation == lease.generation)

/-- A lease is handed out. -/
def Ledger.lend (ledger : Ledger) (cache : CredentialCache) (lease : CredentialLease) : Ledger :=
  { ledger with cache, loans := ledger.loans ++ [⟨lease, false, false⟩] }

/-- A lease is given back. -/
def Ledger.giveBack (ledger : Ledger) (index : Nat) (loan : Loan) : Ledger :=
  { ledger with
    cache := ledger.cache.release loan.lease
    loans := ledger.loans.set index { loan with
      released := true
      inTime := loan.inTime || ledger.cache.isCurrent loan.lease } }

/-- A call with a lease; there is no such call without one. -/
def Ledger.withLoan (ledger : Ledger) (index : Nat) (call : Loan → Ledger × Answer) :
    Ledger × Answer :=
  match ledger.loans[index]? with
  | none => (ledger, .done)
  | some loan => call loan

/-- One call, and what is to be written down about it. -/
def Ledger.step (ledger : Ledger) : Operation → Ledger × Answer
  | .reserve =>
    match ledger.cache.reserve with
    | (none, cache) => ({ ledger with cache }, .lease none)
    | (some lease, cache) => (ledger.lend cache lease, .lease (some lease))
  | .store credentials =>
    match ledger.cache.store credentials with
    | (false, cache) => ({ ledger with cache }, .whether false)
    | (true, cache) =>
      ({ ledger with cache, generations := ledger.generations ++ [cache.nextGeneration] },
        .whether true)
  | .recordAllocation index => ledger.withLoan index fun loan =>
    ({ ledger with cache := ledger.cache.recordAllocation loan.lease }, .done)
  | .release index => ledger.withLoan index fun loan => (ledger.giveBack index loan, .done)
  | .invalidate index => ledger.withLoan index fun loan =>
    ({ ledger with cache := (ledger.cache.invalidate loan.lease).2 },
      .whether (ledger.cache.invalidate loan.lease).1)
  | .rotateAfterQuota index => ledger.withLoan index fun loan =>
    match ledger.cache.rotateAfterQuota loan.lease with
    | (.replaced, cache) => ({ ledger with cache }, .quota .replaced)
    | (.rotated delay, cache) =>
      ({ ledger with cache, rejected := loan.lease.value :: ledger.rejected },
        .quota (.rotated delay))
  | .nextQuotaDelay =>
    ({ ledger with cache := ledger.cache.nextQuotaDelay.2 }, .delay ledger.cache.nextQuotaDelay.1)
  | .retryAfterMismatch index => ledger.withLoan index fun loan =>
    ({ ledger with cache := (ledger.cache.retryAfterMismatch loan.lease).2 },
      .mismatch (ledger.cache.retryAfterMismatch loan.lease).1)

/-- How many leases of a generation were handed out. -/
def Ledger.handedOut (ledger : Ledger) (generation : Nat) : Nat :=
  ledger.loans.countP (fun loan => loan.lease.generation == generation)

/-- How many of them were given back while the generation was current. -/
def Ledger.releasedInTime (ledger : Ledger) (generation : Nat) : Nat :=
  ledger.loans.countP (fun loan => loan.lease.generation == generation && loan.inTime)

/-- A lease is given back for the first time. -/
def FirstRelease (ledger : Ledger) : Operation → Prop
  | .release index => ∀ loan ∈ ledger.loans[index]?, loan.released = false
  | _ => True

instance (ledger : Ledger) : (operation : Operation) → Decidable (FirstRelease ledger operation)
  | .release _ => inferInstanceAs (Decidable (∀ loan ∈ _, _))
  | .reserve => .isTrue trivial
  | .store _ => .isTrue trivial
  | .recordAllocation _ => .isTrue trivial
  | .invalidate _ => .isTrue trivial
  | .rotateAfterQuota _ => .isTrue trivial
  | .nextQuotaDelay => .isTrue trivial
  | .retryAfterMismatch _ => .isTrue trivial

/-- Whether a call is `store`. -/
def Operation.stores : Operation → Bool
  | .store _ => true
  | _ => false

section Cache

/-- Credentials are the same when they are equal. -/
theorem sameTurnCredentials_iff (left right : TurnCredentials) :
    sameTurnCredentials left right = true ↔ left = right := by
  obtain ⟨username, password, addresses⟩ := left
  obtain ⟨username', password', addresses'⟩ := right
  simp [sameTurnCredentials, and_assoc]

/-- The lease that a credential in use is lent by. -/
def CachedCredentials.lease (cached : CachedCredentials) : CredentialLease :=
  ⟨cached.value, cached.generation⟩

/-- A credential in use has one lease, which is lent again and again. -/
theorem leasedBy_iff (cached : CachedCredentials) (lease : CredentialLease) :
    cached.leasedBy lease = true ↔ lease = cached.lease := by
  obtain ⟨value, generation⟩ := lease
  rw [CachedCredentials.leasedBy, Bool.and_eq_true, sameTurnCredentials_iff, beq_iff_eq,
    CachedCredentials.lease, CredentialLease.mk.injEq]
  constructor
  · rintro ⟨same, equal⟩
    exact ⟨equal.symm, same.symm⟩
  · rintro ⟨equal, same⟩
    exact ⟨same.symm, equal.symm⟩

/-- A lease of another generation is not one of the credential in use. -/
theorem not_leasedBy {cache : CredentialCache} {cached : CachedCredentials}
    {lease : CredentialLease} (current : cache.current = some cached)
    (stale : cache.isCurrent lease = false) : cached.leasedBy lease = false := by
  rw [CredentialCache.isCurrent, current, Option.any_some] at stale
  rw [CachedCredentials.leasedBy, stale, Bool.false_and]

variable (cache : CredentialCache)

/-- The cache with one more lease handed out. -/
def CredentialCache.lent (cached : CachedCredentials) : CredentialCache :=
  { cache with
    current := some { cached with allocationAttempts := cached.allocationAttempts + 1 } }

/-- The generation of the next store. -/
def CredentialCache.newGeneration : Nat := max (saturatingSucc cache.nextGeneration) 1

/-- The cache with another credential in use. -/
def CredentialCache.renewed (credentials : TurnCredentials) : CredentialCache :=
  { cache with
    quotaBlocked := none
    nextGeneration := cache.newGeneration
    current := some ⟨credentials, cache.newGeneration, 0, 0⟩ }

/-- A lease is handed out, or there is none and no credential is in use any more. -/
theorem CredentialCache.reserve_cases :
    (cache.reserve = (none, { cache with current := none }) ∧
        ∀ cached ∈ cache.current, workersPerCredential ≤ cached.allocationAttempts) ∨
      ∃ cached, cache.current = some cached ∧ cached.allocationAttempts < workersPerCredential ∧
        cache.reserve = (some cached.lease, cache.lent cached) := by
  obtain ⟨current, blocked, generation, retries⟩ := cache
  cases current with
  | none => exact .inl ⟨rfl, fun cached member => by cases member⟩
  | some cached =>
    unfold CredentialCache.reserve
    by_cases full : workersPerCredential ≤ cached.allocationAttempts
    · refine .inl ⟨?_, fun other member => ?_⟩
      · rw [Option.any_some, if_pos (decide_eq_true full)]
      · cases member
        exact full
    · have room : cached.allocationAttempts < workersPerCredential := Nat.not_le.mp full
      have counted : saturatingSucc cached.allocationAttempts = cached.allocationAttempts + 1 := by
        apply Nat.min_eq_left
        unfold workersPerCredential workersPerGroup groupsPerCredential at room
        unfold u64Max
        omega
      refine .inr ⟨cached, rfl, room, ?_⟩
      rw [Option.any_some, if_neg (by simpa using room)]
      dsimp only
      rw [counted]
      rfl

/-- A credential is refused when it is the blocked one, or becomes the one in use. -/
theorem CredentialCache.store_cases (credentials : TurnCredentials) :
    (cache.quotaBlocked = some credentials ∧ cache.store credentials = (false, cache)) ∨
      (cache.quotaBlocked ≠ some credentials ∧
        cache.store credentials = (true, cache.renewed credentials)) := by
  unfold CredentialCache.store
  by_cases blocked : cache.quotaBlocked = some credentials
  · refine .inl ⟨blocked, if_pos ?_⟩
    rw [blocked, Option.any_some]
    exact (sameTurnCredentials_iff _ _).mpr rfl
  · refine .inr ⟨blocked, if_neg ?_⟩
    rw [Option.any_eq_true]
    rintro ⟨value, found, same⟩
    exact blocked (found.trans (congrArg some ((sameTurnCredentials_iff _ _).mp same)))

/-- An operation with a lease of another generation leaves the cache as it is. -/
theorem CredentialCache.stale_kept (lease : CredentialLease)
    (stale : cache.isCurrent lease = false) :
    cache.recordAllocation lease = cache ∧ cache.release lease = cache ∧
      (cache.invalidate lease).2 = cache ∧ (cache.rotateAfterQuota lease).2 = cache ∧
      (cache.retryAfterMismatch lease).2 = cache := by
  unfold CredentialCache.recordAllocation CredentialCache.release CredentialCache.invalidate
    CredentialCache.rotateAfterQuota CredentialCache.retryAfterMismatch
  cases current : cache.current with
  | none => exact ⟨rfl, rfl, rfl, rfl, rfl⟩
  | some cached =>
    have other := not_leasedBy current stale
    simp only [Option.any_some, other, Bool.false_eq_true, if_false, and_self]

/-- A lease that is given back lowers the count of the credential it belongs to. -/
theorem CredentialCache.release_cases (lease : CredentialLease) :
    (cache.release lease = cache ∧ ∀ cached ∈ cache.current, lease ≠ cached.lease) ∨
      ∃ cached, cache.current = some cached ∧ lease = cached.lease ∧
        cache.release lease =
          { cache with
            current := some
              { cached with allocationAttempts := cached.allocationAttempts - 1 } } := by
  unfold CredentialCache.release
  cases current : cache.current with
  | none => exact .inl ⟨rfl, fun cached member => by cases member⟩
  | some cached =>
    by_cases leased : cached.leasedBy lease = true
    · refine .inr ⟨cached, rfl, (leasedBy_iff cached lease).mp leased, ?_⟩
      dsimp only
      rw [if_pos leased]
    · refine .inl ⟨if_neg leased, fun other member same => ?_⟩
      cases member
      exact leased ((leasedBy_iff cached lease).mpr same)

end Cache

section Steps

/-- What one call can do to the ledger. -/
inductive Ledger.Moves (ledger : Ledger) : Operation → Ledger → Prop where
  /-- The credential in use keeps its leases, or it is taken out. -/
  | touch {operation} (current : Option CachedCredentials) (retries : Nat)
      (kept : ∀ cached ∈ current, ∃ old ∈ ledger.cache.current,
        cached.lease = old.lease ∧ cached.allocationAttempts = old.allocationAttempts) :
      Moves ledger operation
        { ledger with cache := { ledger.cache with current, quotaRetries := retries } }
  /-- A lease is handed out. -/
  | lend (cached : CachedCredentials) (here : ledger.cache.current = some cached)
      (room : cached.allocationAttempts < workersPerCredential) :
      Moves ledger .reserve (ledger.lend (ledger.cache.lent cached) cached.lease)
  /-- A credential is put into use. -/
  | accept (credentials : TurnCredentials)
      (fresh : ledger.cache.quotaBlocked ≠ some credentials) :
      Moves ledger (.store credentials)
        { ledger with
          cache := ledger.cache.renewed credentials
          generations := ledger.generations ++ [ledger.cache.newGeneration] }
  /-- A lease is given back. -/
  | giveBack (index : Nat) (loan : Loan) (here : ledger.loans[index]? = some loan) :
      Moves ledger (.release index) (ledger.giveBack index loan)
  /-- The credential in use is rejected. -/
  | reject (index retries : Nat) (cached : CachedCredentials)
      (here : ledger.cache.current = some cached) :
      Moves ledger (.rotateAfterQuota index)
        { ledger with
          cache := { ledger.cache with
            current := none
            quotaBlocked := some cached.value
            quotaRetries := retries }
          rejected := cached.value :: ledger.rejected }

variable (ledger : Ledger)

/-- Nothing happens. -/
theorem Ledger.Moves.rest (operation : Operation) : ledger.Moves operation ledger :=
  .touch ledger.cache.current ledger.cache.quotaRetries
    fun cached member => ⟨cached, member, rfl, rfl⟩

/-- A call with a lease does what it does with a lease that was handed out. -/
theorem Ledger.Moves.withLoan {operation : Operation} (index : Nat)
    (call : Loan → Ledger × Answer)
    (moves : ∀ loan, ledger.loans[index]? = some loan → ledger.Moves operation (call loan).1) :
    ledger.Moves operation (ledger.withLoan index call).1 := by
  unfold Ledger.withLoan
  cases here : ledger.loans[index]? with
  | none => exact .rest ledger operation
  | some loan => exact moves loan here

/-- Every call does one of these. -/
theorem Ledger.step_moves (operation : Operation) :
    ledger.Moves operation (ledger.step operation).1 := by
  cases operation with
  | reserve =>
    rcases ledger.cache.reserve_cases with ⟨reserved, _⟩ | ⟨cached, here, room, reserved⟩
    · rw [Ledger.step, reserved]
      exact .touch none ledger.cache.quotaRetries (fun cached member => by cases member)
    · rw [Ledger.step, reserved]
      exact .lend cached here room
  | store credentials =>
    rcases ledger.cache.store_cases credentials with ⟨_, stored⟩ | ⟨fresh, stored⟩
    · rw [Ledger.step, stored]
      exact .rest ledger _
    · rw [Ledger.step, stored]
      exact .accept credentials fresh
  | recordAllocation index =>
    refine .withLoan ledger index _ fun loan here => ?_
    dsimp only
    unfold CredentialCache.recordAllocation
    cases current : ledger.cache.current with
    | none => exact .rest ledger _
    | some cached =>
      dsimp only
      split
      · exact .touch _ _ fun other member => by
          cases member
          exact ⟨cached, current, rfl, rfl⟩
      · exact .rest ledger _
  | release index => exact .withLoan ledger index _ fun loan here => .giveBack index loan here
  | invalidate index =>
    refine .withLoan ledger index _ fun loan here => ?_
    dsimp only
    unfold CredentialCache.invalidate
    split
    · exact .touch none ledger.cache.quotaRetries (fun cached member => by cases member)
    · exact .rest ledger _
  | rotateAfterQuota index =>
    refine .withLoan ledger index _ fun loan here => ?_
    unfold CredentialCache.rotateAfterQuota
    cases current : ledger.cache.current with
    | none => exact .rest ledger _
    | some cached =>
      dsimp only
      split
      · rename_i rotated
        split at rotated
        · cases rotated
        · cases rotated
          exact .rest ledger _
      · rename_i rotated
        split at rotated
        · rename_i leased
          cases rotated
          rw [(leasedBy_iff cached loan.lease).mp leased]
          exact .reject index _ cached current
        · cases rotated
  | nextQuotaDelay =>
    exact .touch ledger.cache.current _ fun cached member => ⟨cached, member, rfl, rfl⟩
  | retryAfterMismatch index =>
    refine .withLoan ledger index _ fun loan here => ?_
    dsimp only
    unfold CredentialCache.retryAfterMismatch
    cases current : ledger.cache.current with
    | none => exact .rest ledger _
    | some cached =>
      dsimp only
      split
      · split
        · exact .touch _ ledger.cache.quotaRetries fun other member => by
            cases member
            exact ⟨cached, current, rfl, rfl⟩
        · exact .touch none ledger.cache.quotaRetries (fun cached member => by cases member)
      · exact .rest ledger _

/-- What `get` of `GroupCredentials` does are calls of the cache, and it hands out what the last of
them hands out. -/
theorem CredentialCache.get_run (fetched : Option TurnCredentials) (waited : Bool) :
    ∃ operations,
      (Mealy.final Ledger.step ledger operations).cache = (ledger.cache.get fetched waited).2 ∧
        (Mealy.final Ledger.step ledger operations).loans.map Loan.lease =
          ledger.loans.map Loan.lease ++ (ledger.cache.get fetched waited).1.toList := by
  unfold CredentialCache.get
  rcases ledger.cache.reserve_cases with ⟨reserved, _⟩ | ⟨cached, _, _, reserved⟩
  · rw [reserved]
    cases fetched with
    | none =>
      refine ⟨[.reserve], ?_⟩
      rw [Mealy.final, Ledger.step, reserved]
      exact ⟨rfl, (List.append_nil _).symm⟩
    | some credentials =>
      dsimp only
      generalize emptied : { ledger.cache with current := none } = cache at reserved ⊢
      have asked : ledger.step .reserve = ({ ledger with cache }, .lease none) := by
        rw [Ledger.step, reserved]
      rcases cache.store_cases credentials with ⟨_, stored⟩ | ⟨_, stored⟩
      · refine ⟨[.reserve, .store credentials, .nextQuotaDelay], ?_⟩
        rw [Mealy.final, Mealy.final, asked, Ledger.step, stored]
        exact ⟨rfl, (List.append_nil _).symm⟩
      · rw [stored]
        cases waited with
        | false =>
          refine ⟨[.reserve, .store credentials], ?_⟩
          rw [Mealy.final, Mealy.final, asked, Ledger.step, stored]
          exact ⟨rfl, (List.append_nil _).symm⟩
        | true =>
          refine ⟨[.reserve, .store credentials, .reserve], ?_⟩
          rw [Mealy.final, Mealy.final, asked, Ledger.step, stored]
          rw [Mealy.final, Ledger.step]
          dsimp only [if_true]
          generalize (cache.renewed credentials).reserve = answer
          obtain ⟨lease | lease, after⟩ := answer
          · exact ⟨rfl, (List.append_nil _).symm⟩
          · exact ⟨rfl, List.map_append⟩
  · refine ⟨[.reserve], ?_⟩
    rw [reserved, Mealy.final, Ledger.step, reserved]
    exact ⟨rfl, List.map_append⟩

end Steps

section Generations

/-- The count of the credential in use is exact, and generations are numbered. -/
structure Ledger.Tallied (ledger : Ledger) : Prop where
  /-- The credential in use came with the last store. -/
  newest : ∀ cached ∈ ledger.cache.current, cached.generation = ledger.cache.nextGeneration
  /-- Its leases are those of its generation. -/
  own : ∀ cached ∈ ledger.cache.current, ∀ loan ∈ ledger.loans,
    loan.lease.generation = cached.generation → loan.lease = cached.lease
  /-- They are counted, except those that were given back, -/
  tally : ∀ cached ∈ ledger.cache.current, ledger.handedOut cached.generation =
    ledger.releasedInTime cached.generation + cached.allocationAttempts
  /-- and that is at most the limit for every generation. -/
  bounded : ∀ generation, ledger.handedOut generation ≤
    ledger.releasedInTime generation + workersPerCredential
  /-- Leases came with a store. -/
  past : ∀ loan ∈ ledger.loans, loan.lease.generation ≤ ledger.cache.nextGeneration
  /-- Only leases that were given back were given back in time. -/
  returned : ∀ loan ∈ ledger.loans, loan.inTime = true → loan.released = true
  /-- Stores are numbered from one. -/
  numbered : ledger.generations = List.range' 1 ledger.cache.nextGeneration

/-- Nothing is counted at first. -/
theorem Ledger.tallied_empty : Ledger.empty.Tallied where
  newest := fun cached member => by cases member
  own := fun cached member => by cases member
  tally := fun cached member => by cases member
  bounded := fun generation => Nat.zero_le _
  past := fun loan member => by cases member
  returned := fun loan member => by cases member
  numbered := rfl

variable {ledger : Ledger}

/-- One more lease is one more of its generation. -/
theorem Ledger.lend_counts (ledger : Ledger) (cache : CredentialCache) (lease : CredentialLease)
    (generation : Nat) :
    (ledger.lend cache lease).handedOut generation =
        ledger.handedOut generation + (lease.generation == generation).toNat ∧
      (ledger.lend cache lease).releasedInTime generation = ledger.releasedInTime generation := by
  unfold Ledger.handedOut Ledger.releasedInTime Ledger.lend
  refine ⟨Vec.countP_concat _ _ _, ?_⟩
  rw [Vec.countP_concat, Bool.and_false]
  rfl

/-- A lease that is given back for the first time is one more that was given back in time, if its
generation is current. -/
theorem Ledger.Tallied.giveBack_counts (tallied : ledger.Tallied) (index : Nat) (loan : Loan)
    (here : ledger.loans[index]? = some loan) (first : loan.released = false) (generation : Nat) :
    (ledger.giveBack index loan).handedOut generation = ledger.handedOut generation ∧
      (ledger.giveBack index loan).releasedInTime generation = ledger.releasedInTime generation +
        (loan.lease.generation == generation && ledger.cache.isCurrent loan.lease).toNat := by
  have fresh : loan.inTime = false := by
    cases early : loan.inTime with
    | false => rfl
    | true =>
      have given := tallied.returned loan (List.mem_of_getElem? here) early
      rw [first] at given
      cases given
  unfold Ledger.handedOut Ledger.releasedInTime Ledger.giveBack
  rw [fresh, Bool.false_or]
  constructor
  · have exchanged := Vec.countP_set (fun loan => loan.lease.generation == generation)
      ledger.loans index loan ⟨loan.lease, true, ledger.cache.isCurrent loan.lease⟩ here
    dsimp only at exchanged ⊢
    omega
  · have exchanged := Vec.countP_set
      (fun loan => loan.lease.generation == generation && loan.inTime)
      ledger.loans index loan ⟨loan.lease, true, ledger.cache.isCurrent loan.lease⟩ here
    dsimp only at exchanged ⊢
    rw [fresh, Bool.and_false] at exchanged
    exact exchanged

/-- No more leases are given back than were handed out. -/
theorem Ledger.releasedInTime_le (ledger : Ledger) (generation : Nat) :
    ledger.releasedInTime generation ≤ ledger.handedOut generation := by
  apply List.countP_mono_left
  intro loan _ both
  exact (Bool.and_eq_true _ _ ▸ both).1

/-- The credential keeps its count while nothing is lent or given back. -/
theorem Ledger.Tallied.touch (tallied : ledger.Tallied) (current : Option CachedCredentials)
    (blocked : Option TurnCredentials) (retries : Nat) (rejected : List TurnCredentials)
    (kept : ∀ cached ∈ current, ∃ old ∈ ledger.cache.current,
      cached.lease = old.lease ∧ cached.allocationAttempts = old.allocationAttempts) :
    Tallied { ledger with
      cache := { ledger.cache with current, quotaBlocked := blocked, quotaRetries := retries }
      rejected } where
  newest := by
    intro cached member
    obtain ⟨old, here, same, _⟩ := kept cached member
    exact (congrArg CredentialLease.generation same).trans (tallied.newest old here)
  own := by
    intro cached member loan lent generation
    obtain ⟨old, here, same, _⟩ := kept cached member
    rw [same]
    exact tallied.own old here loan lent
      (generation.trans (congrArg CredentialLease.generation same))
  tally := by
    intro cached member
    obtain ⟨old, here, same, count⟩ := kept cached member
    have generation : cached.generation = old.generation :=
      congrArg CredentialLease.generation same
    rw [generation, count]
    exact tallied.tally old here
  bounded := tallied.bounded
  past := tallied.past
  returned := tallied.returned
  numbered := tallied.numbered

/-- A lease that is handed out is counted. -/
theorem Ledger.Tallied.lend (tallied : ledger.Tallied) (cached : CachedCredentials)
    (here : ledger.cache.current = some cached)
    (room : cached.allocationAttempts < workersPerCredential) :
    (ledger.lend (ledger.cache.lent cached) cached.lease).Tallied := by
  have counts := ledger.lend_counts (ledger.cache.lent cached) cached.lease
  have tally := tallied.tally cached here
  constructor
  · intro other member
    cases member
    exact tallied.newest cached here
  · intro other member loan lent generation
    cases member
    rcases List.mem_append.mp lent with old | new
    · exact tallied.own cached here loan old generation
    · rw [List.mem_singleton.mp new]
      rfl
  · intro other member
    cases member
    obtain ⟨out, back⟩ := counts cached.generation
    have same : (cached.lease.generation == cached.generation) = true := beq_self_eq_true _
    rw [same, Bool.toNat_true] at out
    dsimp only
    omega
  · intro generation
    obtain ⟨out, back⟩ := counts generation
    have bound := tallied.bounded generation
    have more := Nat.succ_le_of_lt room
    cases same : cached.lease.generation == generation with
    | false =>
      rw [same, Bool.toNat_false] at out
      omega
    | true =>
      have equal : cached.generation = generation := beq_iff_eq.mp same
      rw [same, Bool.toNat_true] at out
      rw [equal] at tally
      omega
  · intro loan lent
    rcases List.mem_append.mp lent with old | new
    · exact tallied.past loan old
    · rw [List.mem_singleton.mp new]
      exact Nat.le_of_eq (tallied.newest cached here)
  · intro loan lent early
    rcases List.mem_append.mp lent with old | new
    · exact tallied.returned loan old early
    · rw [List.mem_singleton.mp new] at early
      cases early
  · exact tallied.numbered

/-- A new credential has no leases, as long as generations can be told apart. -/
theorem Ledger.Tallied.accept (tallied : ledger.Tallied) (credentials : TurnCredentials)
    (few : ledger.cache.nextGeneration < u64Max) :
    Tallied { ledger with
      cache := ledger.cache.renewed credentials
      generations := ledger.generations ++ [ledger.cache.newGeneration] } := by
  have next : ledger.cache.newGeneration = ledger.cache.nextGeneration + 1 := by
    unfold CredentialCache.newGeneration saturatingSucc
    omega
  have none : ledger.handedOut ledger.cache.newGeneration = 0 := by
    apply List.countP_eq_zero.mpr
    intro loan lent
    have before := tallied.past loan lent
    rw [beq_iff_eq]
    omega
  have back := ledger.releasedInTime_le ledger.cache.newGeneration
  constructor
  · intro cached member
    cases member
    rfl
  · intro cached member loan lent generation
    cases member
    have before := tallied.past loan lent
    dsimp only at generation
    omega
  · intro cached member
    cases member
    show ledger.handedOut ledger.cache.newGeneration =
      ledger.releasedInTime ledger.cache.newGeneration + 0
    omega
  · exact tallied.bounded
  · intro loan lent
    have before := tallied.past loan lent
    show loan.lease.generation ≤ ledger.cache.newGeneration
    omega
  · exact tallied.returned
  · show ledger.generations ++ [ledger.cache.newGeneration] =
      List.range' 1 ledger.cache.newGeneration
    rw [tallied.numbered, next, List.range'_1_concat, Nat.add_comm]

/-- Leases that are given back stay the same. -/
theorem Ledger.giveBack_leases (index : Nat) (loan : Loan)
    (here : ledger.loans[index]? = some loan) :
    ∀ other ∈ (ledger.giveBack index loan).loans,
      ∃ old ∈ ledger.loans, other.lease = old.lease := by
  intro other member
  rcases List.mem_or_eq_of_mem_set member with old | new
  · exact ⟨other, old, rfl⟩
  · exact ⟨loan, List.mem_of_getElem? here, by rw [new]⟩

/-- A lease that is not of the credential in use is of another generation. -/
theorem Ledger.Tallied.not_isCurrent (tallied : ledger.Tallied) (loan : Loan)
    (lent : loan ∈ ledger.loans)
    (other : ∀ cached ∈ ledger.cache.current, loan.lease ≠ cached.lease) :
    ledger.cache.isCurrent loan.lease = false := by
  rw [← Bool.not_eq_true, CredentialCache.isCurrent, Option.any_eq_true]
  rintro ⟨cached, member, generation⟩
  exact other cached member (tallied.own cached member loan lent (beq_iff_eq.mp generation).symm)

/-- A lease that is given back for the first time is not counted any more. -/
theorem Ledger.Tallied.giveBack (tallied : ledger.Tallied) (index : Nat) (loan : Loan)
    (here : ledger.loans[index]? = some loan) (first : loan.released = false) :
    (ledger.giveBack index loan).Tallied := by
  have counts := tallied.giveBack_counts index loan here first
  have leases := Ledger.giveBack_leases index loan here
  have returned : ∀ other ∈ (ledger.giveBack index loan).loans,
      other.inTime = true → other.released = true := by
    intro other member early
    rcases List.mem_or_eq_of_mem_set member with old | new
    · exact tallied.returned other old early
    · rw [new]
  have bounded : ∀ generation, (ledger.giveBack index loan).handedOut generation ≤
      (ledger.giveBack index loan).releasedInTime generation + workersPerCredential := by
    intro generation
    obtain ⟨out, back⟩ := counts generation
    have bound := tallied.bounded generation
    omega
  have own : ∀ cached ∈ ledger.cache.current, ∀ other ∈ (ledger.giveBack index loan).loans,
      other.lease.generation = cached.generation → other.lease = cached.lease := by
    intro cached current other member generation
    obtain ⟨old, lent, same⟩ := leases other member
    rw [same] at generation ⊢
    exact tallied.own cached current old lent generation
  have past : ∀ other ∈ (ledger.giveBack index loan).loans,
      other.lease.generation ≤ ledger.cache.nextGeneration := by
    intro other member
    obtain ⟨old, lent, same⟩ := leases other member
    rw [same]
    exact tallied.past old lent
  rcases ledger.cache.release_cases loan.lease with ⟨kept, other⟩ | ⟨cached, current, same, less⟩
  · -- a lease of another generation changes nothing
    have stale := tallied.not_isCurrent loan (List.mem_of_getElem? here) other
    have cache : (ledger.giveBack index loan).cache = ledger.cache := kept
    refine ⟨?_, ?_, ?_, bounded, ?_, returned, ?_⟩
    · rw [cache]
      exact tallied.newest
    · rw [cache]
      exact own
    · rw [cache]
      intro cached member
      obtain ⟨out, back⟩ := counts cached.generation
      rw [stale, Bool.and_false, Bool.toNat_false, Nat.add_zero] at back
      rw [out, back]
      exact tallied.tally cached member
    · rw [cache]
      exact past
    · rw [cache]
      exact tallied.numbered
  · have present : ledger.cache.isCurrent loan.lease = true := by
      rw [CredentialCache.isCurrent, current, Option.any_some, same]
      exact beq_self_eq_true _
    have cache : (ledger.giveBack index loan).cache = { ledger.cache with
        current := some { cached with
          allocationAttempts := cached.allocationAttempts - 1 } } := less
    refine ⟨?_, ?_, ?_, bounded, ?_, returned, ?_⟩
    · rw [cache]
      intro other member
      cases member
      exact tallied.newest cached current
    · rw [cache]
      intro other member
      cases member
      exact own cached current
    · rw [cache]
      intro other member
      cases member
      obtain ⟨out, back⟩ := counts cached.generation
      have tally := tallied.tally cached current
      have most := (ledger.giveBack index loan).releasedInTime_le cached.generation
      have equal : (cached.lease.generation == cached.generation) = true := beq_self_eq_true _
      rw [present, same, equal, Bool.true_and, Bool.toNat_true] at back
      dsimp only
      omega
    · rw [cache]
      exact past
    · rw [cache]
      exact tallied.numbered

/-- Every call keeps the tally, when leases are given back once and generations can be told
apart. -/
theorem Ledger.Tallied.step (tallied : ledger.Tallied) (operation : Operation)
    (first : FirstRelease ledger operation)
    (few : (ledger.step operation).1.generations.length < 2 ^ 64) :
    (ledger.step operation).1.Tallied := by
  generalize next : (ledger.step operation).1 = after at few
  have moves := ledger.step_moves operation
  rw [next] at moves
  cases moves with
  | touch current retries kept => exact tallied.touch current _ retries _ kept
  | lend cached here room => exact tallied.lend cached here room
  | accept credentials fresh =>
    apply tallied.accept
    rw [List.length_append, tallied.numbered, List.length_range', List.length_singleton] at few
    unfold u64Max
    omega
  | giveBack index loan here => exact tallied.giveBack index loan here (first loan here)
  | reject index retries cached here =>
    exact tallied.touch none _ retries _ (fun cached member => by cases member)

/-- A call makes at most one new generation, and only a store does. -/
theorem Ledger.generations_step (ledger : Ledger) (operation : Operation) :
    ledger.generations.length ≤ (ledger.step operation).1.generations.length ∧
      (ledger.step operation).1.generations.length ≤
        ledger.generations.length + if operation.stores then 1 else 0 := by
  generalize next : (ledger.step operation).1 = after
  have moves := ledger.step_moves operation
  rw [next] at moves
  cases moves with
  | accept credentials fresh =>
    rw [List.length_append]
    exact ⟨Nat.le_add_right _ _, Nat.le_refl _⟩
  | _ => exact ⟨Nat.le_refl _, Nat.le_add_right _ _⟩

/-- There are no more generations than stores. -/
theorem Ledger.length_generations (ledger : Ledger) (operations : List Operation) :
    (Mealy.final Ledger.step ledger operations).generations.length ≤
      ledger.generations.length + operations.countP Operation.stores := by
  induction operations generalizing ledger with
  | nil => exact Nat.le_refl _
  | cons operation rest ih =>
    have one := (ledger.generations_step operation).2
    have later := ih (ledger.step operation).1
    rw [List.countP_cons]
    show (Mealy.final Ledger.step (ledger.step operation).1 rest).generations.length ≤ _
    omega

/-- For every generation, the leases that were handed out and not given back while it was current
are at most eighteen; no generation is used twice; and a lease of a generation that is not current
has no effect on the cache. -/
theorem leases_bounded (operations : List Operation)
    (once : Mealy.Along Ledger.step FirstRelease .empty operations)
    (few : operations.countP Operation.stores < 2 ^ 64) :
    let ledger := Mealy.final Ledger.step .empty operations
    (∀ generation, ledger.handedOut generation ≤
      ledger.releasedInTime generation + workersPerCredential) ∧
    ledger.generations.Nodup ∧
    ∀ lease, ledger.cache.isCurrent lease = false →
      ledger.cache.recordAllocation lease = ledger.cache ∧
      ledger.cache.release lease = ledger.cache ∧
      (ledger.cache.invalidate lease).2 = ledger.cache ∧
      (ledger.cache.rotateAfterQuota lease).2 = ledger.cache ∧
      (ledger.cache.retryAfterMismatch lease).2 = ledger.cache := by
  have stores : (Mealy.final Ledger.step .empty operations).generations.length < 2 ^ 64 :=
    Nat.lt_of_le_of_lt (Ledger.length_generations .empty operations)
      (by simpa [Ledger.empty] using few)
  have numbers : Mealy.Along Ledger.step (fun ledger operation =>
      (ledger.step operation).1.generations.length < 2 ^ 64) .empty operations :=
    (Mealy.along_lt_of_final_lt (fun ledger operation => (ledger.generations_step operation).1)
      Ledger.empty operations stores).1
  have tallied := Mealy.invariant Ledger.Tallied
    (fun ledger operation tallied both => tallied.step operation both.1 both.2)
    Ledger.empty operations Ledger.tallied_empty (Mealy.along_and _ _ once numbers)
  refine ⟨tallied.bounded, ?_, fun lease stale => CredentialCache.stale_kept _ lease stale⟩
  rw [tallied.numbered]
  exact List.nodup_range'

/-- A credential. -/
def firstCredentials : TurnCredentials := ⟨"first", "secret-a", ["turn.example:3478"]⟩

/-- Another credential. -/
def secondCredentials : TurnCredentials := ⟨"second", "secret-b", ["turn.example:3478"]⟩

/-- Two leases, of which one is given back, and the other one after its generation. -/
def lateReleases : List Operation :=
  [.store firstCredentials, .reserve, .reserve, .release 0, .rotateAfterQuota 1,
    .store secondCredentials, .reserve, .release 1]

/-- They are counted for their generation. -/
theorem lateReleases_bounded :
    (Mealy.final Ledger.step .empty lateReleases).handedOut 1 = 2 ∧
      (Mealy.final Ledger.step .empty lateReleases).handedOut 1 ≤
        (Mealy.final Ledger.step .empty lateReleases).releasedInTime 1 + workersPerCredential ∧
      (Mealy.final Ledger.step .empty lateReleases).generations = [1, 2] :=
  ⟨by decide, (leases_bounded lateReleases (by decide) (by decide)).1 1, by decide⟩

end Generations

end Focsq.Worker
