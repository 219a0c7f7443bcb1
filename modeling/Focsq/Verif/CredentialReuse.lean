import Focsq.Verif.CredentialLeases

/-!
# Credentials that come back

The cache remembers one rejected credential and the leases of one generation. The provider may
return any credential again, and what the cache has forgotten about it is missing then: a rejected
credential is handed out, or a credential has leases of two generations. Both happen just when a
store brings back what has been forgotten.
-/

namespace Focsq.Worker

section Rejected

/-- No credential that was rejected is handed out next. -/
def Ledger.NeverAgain (ledger : Ledger) : Prop :=
  ∀ lease ∈ ledger.cache.reserve.1, lease.value ∉ ledger.rejected

/-- What is stored was not rejected, unless the cache still knows that. -/
def Remembered (ledger : Ledger) : Operation → Prop
  | .store credentials =>
    credentials ∈ ledger.rejected → ledger.cache.quotaBlocked = some credentials
  | _ => True

/-- The credential in use was not rejected. -/
def Ledger.Unrejected (ledger : Ledger) : Prop :=
  ∀ cached ∈ ledger.cache.current, cached.value ∉ ledger.rejected

/-- Then no rejected one is handed out. -/
theorem Ledger.Unrejected.neverAgain {ledger : Ledger} (unrejected : ledger.Unrejected) :
    ledger.NeverAgain := by
  intro lease member
  rcases ledger.cache.reserve_cases with ⟨reserved, _⟩ | ⟨cached, here, _, reserved⟩
  · rw [reserved] at member
    cases member
  · rw [reserved] at member
    cases member
    exact unrejected cached here

/-- Every call keeps it so, when what it stores is remembered. -/
theorem Ledger.Unrejected.step {ledger : Ledger} (unrejected : ledger.Unrejected)
    (operation : Operation) (remembered : Remembered ledger operation) :
    (ledger.step operation).1.Unrejected := by
  generalize next : (ledger.step operation).1 = after
  have moves := ledger.step_moves operation
  rw [next] at moves
  cases moves with
  | touch current retries kept =>
    intro cached member
    obtain ⟨old, here, same, _⟩ := kept cached member
    rw [show cached.value = old.value from congrArg CredentialLease.value same]
    exact unrejected old here
  | lend cached here room =>
    intro other member
    cases member
    exact unrejected cached here
  | accept credentials fresh =>
    intro cached member
    cases member
    exact fun rejected => fresh (remembered rejected)
  | giveBack index loan here =>
    intro cached member
    rcases ledger.cache.release_cases loan.lease with ⟨kept, _⟩ | ⟨old, current, _, less⟩
    · change cached ∈ (ledger.cache.release loan.lease).current at member
      rw [kept] at member
      exact unrejected cached member
    · change cached ∈ (ledger.cache.release loan.lease).current at member
      rw [less] at member
      cases member
      exact unrejected old current
  | reject index retries cached here =>
    intro other member
    cases member

/-- A store that is not remembered leads to a rejected credential being handed out. -/
theorem Ledger.neverAgain_step {ledger : Ledger} (operation : Operation)
    (never : (ledger.step operation).1.NeverAgain) : Remembered ledger operation := by
  cases operation with
  | store credentials =>
    intro rejected
    rcases ledger.cache.store_cases credentials with ⟨blocked, _⟩ | ⟨_, stored⟩
    · exact blocked
    · refine absurd rejected ?_
      have handed := never ⟨credentials, ledger.cache.newGeneration⟩
      rw [Ledger.step, stored] at handed
      exact handed rfl
  | _ => trivial

/-- In a run, a rejected credential is handed out in none of the states when each store is given
one that was not rejected or is the one that the cache remembers, and only then. -/
theorem neverAgain_iff (operations : List Operation) :
    (∀ begun, begun <+: operations → (Mealy.final Ledger.step .empty begun).NeverAgain) ↔
      Mealy.Along Ledger.step Remembered .empty operations := by
  have start : Ledger.empty.Unrejected := fun cached member => by cases member
  rw [Mealy.forall_final_iff]
  refine Iff.trans (and_iff_right start.neverAgain) ?_
  apply Mealy.along_congr Ledger.Unrejected _ _ _ _ start
  · intro ledger operation unrejected never
    exact unrejected.step operation (ledger.neverAgain_step operation never)
  · intro ledger operation unrejected
    constructor
    · exact ledger.neverAgain_step operation
    · exact fun remembered => (unrejected.step operation remembered).neverAgain

/-- A credential is rejected, then another one, and the provider returns the first one again. -/
def alternatingStores : List Operation :=
  [.store firstCredentials, .reserve, .rotateAfterQuota 0, .store secondCredentials, .reserve,
    .rotateAfterQuota 1, .store firstCredentials, .reserve]

/-- The first credential is handed out again. -/
theorem alternatingStores_again :
    Mealy.outputs Ledger.step .empty alternatingStores =
        [.whether true, .lease (some ⟨firstCredentials, 1⟩), .quota (.rotated 100), .whether true,
          .lease (some ⟨secondCredentials, 2⟩), .quota (.rotated 300), .whether true,
          .lease (some ⟨firstCredentials, 3⟩)] ∧
      ¬∀ operations, (Mealy.final Ledger.step .empty operations).NeverAgain := by
  refine ⟨by decide, fun always => ?_⟩
  have again := always (alternatingStores.take 7) ⟨firstCredentials, 3⟩ (by decide)
  exact again (by decide)

end Rejected

section Lent

/-- How many leases of a credential are out. -/
def Ledger.lentOut (ledger : Ledger) (credentials : TurnCredentials) : Nat :=
  ledger.loans.countP (fun loan => loan.lease.value == credentials && !loan.released)

/-- No credential has more leases out than it may have, however many are asked for now. -/
def Ledger.Bounded (ledger : Ledger) : Prop :=
  ∀ more credentials,
    (Mealy.final Ledger.step ledger (List.replicate more .reserve)).lentOut credentials ≤
      workersPerCredential

/-- What is stored has no leases out, and a lease that is given back was not given back before,
unless that has no effect. -/
def Accounted (ledger : Ledger) : Operation → Prop
  | .store credentials =>
    ledger.cache.quotaBlocked = some credentials ∨ ledger.lentOut credentials = 0
  | .release index => ∀ loan ∈ ledger.loans[index]?, loan.released = true →
    ∀ cached ∈ ledger.cache.current, loan.lease = cached.lease → cached.allocationAttempts = 0
  | _ => True

/-- All leases of the credential in use are of its generation, and are counted. -/
structure Ledger.Single (ledger : Ledger) : Prop where
  /-- No credential has more leases out than it may have. -/
  bounded : ∀ credentials, ledger.lentOut credentials ≤ workersPerCredential
  /-- The count is that of the leases that are out. -/
  count : ∀ cached ∈ ledger.cache.current,
    ledger.lentOut cached.value = cached.allocationAttempts
  /-- They are of its generation. -/
  own : ∀ cached ∈ ledger.cache.current, ∀ loan ∈ ledger.loans,
    loan.lease.value = cached.value → loan.released = false → loan.lease = cached.lease

/-- One more lease is one more of its credential. -/
theorem Ledger.lend_lentOut (ledger : Ledger) (cache : CredentialCache) (lease : CredentialLease)
    (credentials : TurnCredentials) :
    (ledger.lend cache lease).lentOut credentials =
      ledger.lentOut credentials + (lease.value == credentials).toNat := by
  unfold Ledger.lentOut Ledger.lend
  rw [Vec.countP_concat]
  simp only [Bool.not_false, Bool.and_true]

/-- A lease that is given back is one less of its credential, if it was out. -/
theorem Ledger.giveBack_lentOut (ledger : Ledger) (index : Nat) (loan : Loan)
    (here : ledger.loans[index]? = some loan) (credentials : TurnCredentials) :
    (ledger.giveBack index loan).lentOut credentials +
        (loan.lease.value == credentials && !loan.released).toNat =
      ledger.lentOut credentials := by
  have exchanged := Vec.countP_set
    (fun loan => loan.lease.value == credentials && !loan.released) ledger.loans index loan
    ⟨loan.lease, true, loan.inTime || ledger.cache.isCurrent loan.lease⟩ here
  dsimp only at exchanged
  rw [Bool.not_true, Bool.and_false, Bool.toNat_false, Nat.add_zero] at exchanged
  exact exchanged

variable {ledger : Ledger}

/-- A lease that is handed out is counted for its credential. -/
theorem Ledger.Single.lend (single : ledger.Single) (cached : CachedCredentials)
    (here : ledger.cache.current = some cached)
    (room : cached.allocationAttempts < workersPerCredential) :
    (ledger.lend (ledger.cache.lent cached) cached.lease).Single := by
  have count := single.count cached here
  have lent := ledger.lend_lentOut (ledger.cache.lent cached) cached.lease
  constructor
  · intro credentials
    have before := single.bounded credentials
    have more := Nat.succ_le_of_lt room
    rw [lent]
    cases same : cached.lease.value == credentials with
    | false => exact before
    | true =>
      have equal : cached.value = credentials := beq_iff_eq.mp same
      rw [← equal, count, Bool.toNat_true]
      exact more
  · intro other member
    cases member
    have same : (cached.lease.value == cached.value) = true := beq_self_eq_true _
    rw [lent, same, count, Bool.toNat_true]
  · intro other member loan among value out
    cases member
    rcases List.mem_append.mp among with old | new
    · exact single.own cached here loan old value out
    · rw [List.mem_singleton.mp new]
      rfl

/-- A credential without leases that are out can be put into use. -/
theorem Ledger.Single.accept (single : ledger.Single) (credentials : TurnCredentials)
    (none : ledger.lentOut credentials = 0) :
    Single { ledger with
      cache := ledger.cache.renewed credentials
      generations := ledger.generations ++ [ledger.cache.newGeneration] } where
  bounded := single.bounded
  count := by
    intro cached member
    cases member
    exact none
  own := by
    intro cached member loan among value out
    cases member
    have absent := List.countP_eq_zero.mp none loan among
    rw [out, Bool.not_false, Bool.and_true, beq_iff_eq] at absent
    exact absurd value absent

/-- A lease that is given back is not counted any more. -/
theorem Ledger.Single.giveBack (single : ledger.Single) (index : Nat) (loan : Loan)
    (here : ledger.loans[index]? = some loan)
    (accounted : loan.released = true → ∀ cached ∈ ledger.cache.current,
      loan.lease = cached.lease → cached.allocationAttempts = 0) :
    (ledger.giveBack index loan).Single := by
  have lent := ledger.giveBack_lentOut index loan here
  have bounded : ∀ credentials, (ledger.giveBack index loan).lentOut credentials ≤
      workersPerCredential := by
    intro credentials
    have before := single.bounded credentials
    have less := lent credentials
    omega
  have own : ∀ cached ∈ ledger.cache.current, ∀ other ∈ (ledger.giveBack index loan).loans,
      other.lease.value = cached.value → other.released = false →
        other.lease = cached.lease := by
    intro cached member other among value out
    rcases List.mem_or_eq_of_mem_set among with old | new
    · exact single.own cached member other old value out
    · rw [new] at out
      cases out
  rcases ledger.cache.release_cases loan.lease with ⟨kept, other⟩ | ⟨cached, current, same, less⟩
  · -- a lease of another generation was given back before, or is of another credential
    have cache : (ledger.giveBack index loan).cache = ledger.cache := kept
    refine ⟨bounded, ?_, ?_⟩
    · rw [cache]
      intro cached member
      have count := lent cached.value
      have elsewhere : (loan.lease.value == cached.value && !loan.released) = false := by
        rw [← Bool.not_eq_true, Bool.and_eq_true, beq_iff_eq, Bool.not_eq_true']
        rintro ⟨value, out⟩
        exact other cached member
          (single.own cached member loan (List.mem_of_getElem? here) value out)
      rw [elsewhere, Bool.toNat_false, Nat.add_zero] at count
      rw [count]
      exact single.count cached member
    · rw [cache]
      exact own
  · have cache : (ledger.giveBack index loan).cache = { ledger.cache with
        current := some { cached with
          allocationAttempts := cached.allocationAttempts - 1 } } := less
    refine ⟨bounded, ?_, ?_⟩
    · rw [cache]
      intro other member
      cases member
      have before := single.count cached current
      have count := lent cached.value
      have value : (loan.lease.value == cached.value) = true := by
        rw [same]
        exact beq_self_eq_true _
      rw [value, Bool.true_and] at count
      dsimp only
      cases out : loan.released with
      | false =>
        rw [out, Bool.not_false, Bool.toNat_true] at count
        omega
      | true =>
        have zero := accounted out cached current same
        rw [out, Bool.not_true, Bool.toNat_false] at count
        omega
    · rw [cache]
      intro other member
      cases member
      exact own cached current

/-- Every call that is accounted for keeps it so. -/
theorem Ledger.Single.step (single : ledger.Single) (operation : Operation)
    (accounted : Accounted ledger operation) : (ledger.step operation).1.Single := by
  generalize next : (ledger.step operation).1 = after
  have moves := ledger.step_moves operation
  rw [next] at moves
  cases moves with
  | touch current retries kept =>
    refine ⟨single.bounded, fun cached member => ?_, fun cached member loan among value out => ?_⟩
    · obtain ⟨old, here, same, count⟩ := kept cached member
      rw [count, show cached.value = old.value from congrArg CredentialLease.value same]
      exact single.count old here
    · obtain ⟨old, here, same, _⟩ := kept cached member
      rw [same]
      exact single.own old here loan among
        (value.trans (congrArg CredentialLease.value same)) out
  | lend cached here room => exact single.lend cached here room
  | accept credentials fresh => exact single.accept credentials (accounted.resolve_left fresh)
  | giveBack index loan here => exact single.giveBack index loan here (accounted loan here)
  | reject index retries cached here =>
    constructor
    · exact single.bounded
    · intro other member
      cases member
    · intro other member
      cases member

/-- Leases that are asked for keep it so. -/
theorem Ledger.Single.reserves (single : ledger.Single) (more : Nat) :
    (Mealy.final Ledger.step ledger (List.replicate more .reserve)).Single := by
  induction more generalizing ledger with
  | zero => exact single
  | succ more ih => exact ih (single.step .reserve trivial)

/-- As long as there are leases left, all that are asked for are handed out. -/
theorem Ledger.reserves_lentOut (ledger : Ledger) (more : Nat) (cached : CachedCredentials)
    (here : ledger.cache.current = some cached)
    (room : cached.allocationAttempts + more ≤ workersPerCredential) :
    (Mealy.final Ledger.step ledger (List.replicate more .reserve)).lentOut cached.value =
      ledger.lentOut cached.value + more := by
  induction more generalizing ledger cached with
  | zero => rfl
  | succ more ih =>
    rcases ledger.cache.reserve_cases with ⟨_, full⟩ | ⟨other, current, _, reserved⟩
    · have none := full cached here
      omega
    · rw [here] at current
      cases current
      have first : (ledger.step .reserve).1 =
          ledger.lend (ledger.cache.lent cached) cached.lease := by
        rw [Ledger.step, reserved]
      have later := ih (ledger.lend (ledger.cache.lent cached) cached.lease)
        { cached with allocationAttempts := cached.allocationAttempts + 1 } rfl
        (by dsimp only; omega)
      have same : (cached.lease.value == cached.value) = true := beq_self_eq_true _
      rw [List.replicate_succ, Mealy.final, first]
      dsimp only at later
      rw [ledger.lend_lentOut, same, Bool.toNat_true] at later
      rw [later]
      omega

/-- A call that is not accounted for lets a credential have too many leases out. -/
theorem Ledger.Single.accounted (single : ledger.Single) (operation : Operation)
    (bounded : (ledger.step operation).1.Bounded) : Accounted ledger operation := by
  cases operation with
  | store credentials =>
    rcases ledger.cache.store_cases credentials with ⟨blocked, _⟩ | ⟨_, stored⟩
    · exact .inl blocked
    · right
      have most := bounded workersPerCredential credentials
      rw [Ledger.step, stored] at most
      dsimp only at most
      rw [Ledger.reserves_lentOut _ workersPerCredential
        ⟨credentials, ledger.cache.newGeneration, 0, 0⟩ rfl (by simp)] at most
      change ledger.lentOut credentials + workersPerCredential ≤ workersPerCredential at most
      omega
  | release index =>
    intro loan here released cached current same
    by_contra some
    have count := single.count cached current
    have few := single.bounded cached.value
    have before := ledger.giveBack_lentOut index loan here cached.value
    rw [released, Bool.not_true, Bool.and_false, Bool.toNat_false, Nat.add_zero] at before
    have less : (ledger.giveBack index loan).cache.current = Option.some { cached with
        allocationAttempts := cached.allocationAttempts - 1 } := by
      rcases ledger.cache.release_cases loan.lease with ⟨_, other⟩ | ⟨old, present, _, less⟩
      · exact absurd same (other cached current)
      · rw [current] at present
        cases present
        exact congrArg CredentialCache.current less
    have most := bounded (workersPerCredential + 1 - cached.allocationAttempts) cached.value
    rw [Ledger.step, Ledger.withLoan, here] at most
    dsimp only at most
    rw [Ledger.reserves_lentOut _ _ _ less (by dsimp only; omega), before] at most
    omega
  | _ => trivial

/-- In a run, however many leases are asked for, no credential has more than eighteen leases out in
any of the states when every call is accounted for, and only then. -/
theorem bounded_iff (operations : List Operation) :
    (∀ begun, begun <+: operations → (Mealy.final Ledger.step .empty begun).Bounded) ↔
      Mealy.Along Ledger.step Accounted .empty operations := by
  have start : Ledger.empty.Single := by
    constructor
    · intro credentials
      exact Nat.zero_le _
    · intro cached member
      cases member
    · intro cached member
      cases member
  have bounded : ∀ ledger : Ledger, ledger.Single → ledger.Bounded :=
    fun ledger single more => (single.reserves more).bounded
  rw [Mealy.forall_final_iff]
  refine Iff.trans (and_iff_right (bounded _ start)) ?_
  apply Mealy.along_congr Ledger.Single _ _ _ _ start
  · intro ledger operation single after
    exact single.step operation (single.accounted operation after)
  · intro ledger operation single
    constructor
    · exact single.accounted operation
    · exact fun accounted => bounded _ (single.step operation accounted)

/-- A credential of which all leases are out, and which the provider returns again. -/
def repeatedStores : List Operation :=
  .store firstCredentials :: List.replicate 18 .reserve ++
    [.reserve, .store firstCredentials, .reserve]

/-- A nineteenth lease is handed out. -/
theorem repeatedStores_exceed :
    (Mealy.final Ledger.step .empty repeatedStores).lentOut firstCredentials = 19 ∧
      ¬∀ operations credentials,
        (Mealy.final Ledger.step .empty operations).lentOut credentials ≤
          workersPerCredential := by
  have out : (Mealy.final Ledger.step .empty repeatedStores).lentOut firstCredentials = 19 := by
    decide +kernel
  refine ⟨out, fun always => ?_⟩
  have most := always repeatedStores firstCredentials
  rw [out] at most
  exact absurd most (by decide)

end Lent

end Focsq.Worker
