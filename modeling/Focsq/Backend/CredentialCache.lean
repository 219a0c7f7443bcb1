import Mathlib.Algebra.Group.Nat.Defs
import Mathlib.Data.List.Basic

/-!
# Credentials that workers share

`CredentialCache` of `worker.rs` holds the TURN credential that the workers of a cohort use. A
worker takes a lease of it for each allocation, gives the lease back when no allocation was tried,
and reports when the server rejects the credential; the next worker then asks for another one.

Counters have 64 bits and stop at the largest number.
-/

namespace Focsq.Worker

/-- `WORKERS_PER_GROUP`. -/
def workersPerGroup : Nat := 9
/-- `GROUPS_PER_CREDENTIAL`. -/
def groupsPerCredential : Nat := 2
/-- `WORKERS_PER_CREDENTIAL` — leases of one generation. -/
def workersPerCredential : Nat := workersPerGroup * groupsPerCredential

/-- `u64::MAX`. -/
def u64Max : Nat := 2 ^ 64 - 1

/-- `saturating_add(1)`. -/
def saturatingSucc (count : Nat) : Nat := min (count + 1) u64Max

/-- `TurnCredentials` — what a TURN server is shown, and where it is. -/
structure TurnCredentials where
  /-- The user name. -/
  username : String
  /-- The password. -/
  password : String
  /-- Addresses of the servers. -/
  serverAddresses : List String
  deriving DecidableEq

/-- `same_turn_credentials`. -/
def sameTurnCredentials (left right : TurnCredentials) : Bool :=
  left.username == right.username && left.password == right.password &&
    left.serverAddresses == right.serverAddresses

/-- `CachedCredentials` — a credential in use. -/
structure CachedCredentials where
  /-- The credential. -/
  value : TurnCredentials
  /-- Which store it came with. -/
  generation : Nat
  /-- Leases that are not given back. -/
  allocationAttempts : Nat
  /-- Mismatches since the last allocation. -/
  allocationMismatches : Nat
  deriving DecidableEq

/-- `CredentialLease` — the right to try one allocation. -/
structure CredentialLease where
  /-- The credential. -/
  value : TurnCredentials
  /-- Which store it came with. -/
  generation : Nat
  deriving DecidableEq

/-- `CredentialCache`. The defaults are those of `CredentialCache::default`. -/
structure CredentialCache where
  /-- The credential in use. -/
  current : Option CachedCredentials := none
  /-- The credential whose quota was used up last. -/
  quotaBlocked : Option TurnCredentials := none
  /-- Generation of the last store. -/
  nextGeneration : Nat := 0
  /-- Used-up quotas since the last allocation. -/
  quotaRetries : Nat := 0
  deriving DecidableEq

/-- `QuotaRotation` — what a used-up quota leads to; delays are in milliseconds. -/
inductive QuotaRotation where
  /-- The credential is taken out, and the next one is asked for after a delay. -/
  | rotated (delay : Nat)
  /-- It is not in use any more. -/
  | replaced
  deriving DecidableEq

/-- `AllocationMismatch` — what a mismatch leads to. -/
inductive AllocationMismatch where
  /-- The credential is tried once more. -/
  | retryCurrent
  /-- It is taken out. -/
  | rotated
  /-- It is not in use any more. -/
  | replaced
  deriving DecidableEq

/-- `quota_rotation_delay`. -/
def quotaRotationDelay : Nat → Nat
  | 0 => 100
  | 1 => 300
  | 2 => 500
  | 3 => 800
  | _ => 1500

/-- Whether a lease is one of the credential in use, as all functions check it. -/
def CachedCredentials.leasedBy (cached : CachedCredentials) (lease : CredentialLease) : Bool :=
  cached.generation == lease.generation && sameTurnCredentials cached.value lease.value

namespace CredentialCache

/-- `reserve` — a lease of the credential in use, which is taken out when it has no more. -/
def reserve (cache : CredentialCache) : Option CredentialLease × CredentialCache :=
  let cache :=
    if cache.current.any (fun cached => workersPerCredential ≤ cached.allocationAttempts) then
      { cache with current := none }
    else cache
  match cache.current with
  | none => (none, cache)
  | some cached =>
    (some { value := cached.value, generation := cached.generation },
      { cache with
        current := some { cached with
          allocationAttempts := saturatingSucc cached.allocationAttempts } })

/-- `store` — a new credential, unless its quota was the last one used up. -/
def store (cache : CredentialCache) (credentials : TurnCredentials) : Bool × CredentialCache :=
  if cache.quotaBlocked.any (fun blocked => sameTurnCredentials blocked credentials) then
    (false, cache)
  else
    let generation := max (saturatingSucc cache.nextGeneration) 1
    (true, { cache with
      quotaBlocked := none
      nextGeneration := generation
      current := some
        { value := credentials
          generation
          allocationAttempts := 0
          allocationMismatches := 0 } })

/-- `record_allocation` — an allocation was successful. -/
def recordAllocation (cache : CredentialCache) (lease : CredentialLease) : CredentialCache :=
  match cache.current with
  | none => cache
  | some cached =>
    if cached.leasedBy lease then
      { cache with
        current := some { cached with allocationMismatches := 0 }
        quotaRetries := 0 }
    else cache

/-- `release` — a lease is given back. -/
def release (cache : CredentialCache) (lease : CredentialLease) : CredentialCache :=
  match cache.current with
  | none => cache
  | some cached =>
    if cached.leasedBy lease then
      { cache with
        current := some { cached with allocationAttempts := cached.allocationAttempts - 1 } }
    else cache

/-- `invalidate` — the credential is not accepted; the answer is whether it was taken out. -/
def invalidate (cache : CredentialCache) (lease : CredentialLease) : Bool × CredentialCache :=
  if cache.current.any (fun cached => cached.leasedBy lease) then
    (true, { cache with current := none })
  else (false, cache)

/-- `rotate_after_quota` — the quota of the credential is used up. -/
def rotateAfterQuota (cache : CredentialCache) (lease : CredentialLease) :
    QuotaRotation × CredentialCache :=
  match cache.current with
  | none => (.replaced, cache)
  | some cached =>
    if cached.leasedBy lease then
      (.rotated (quotaRotationDelay cache.quotaRetries), { cache with
        current := none
        quotaBlocked := some cached.value
        quotaRetries := saturatingSucc cache.quotaRetries })
    else (.replaced, cache)

/-- `next_quota_delay`. -/
def nextQuotaDelay (cache : CredentialCache) : Nat × CredentialCache :=
  (quotaRotationDelay cache.quotaRetries,
    { cache with quotaRetries := saturatingSucc cache.quotaRetries })

/-- `retry_after_mismatch` — the server does not know the allocation. -/
def retryAfterMismatch (cache : CredentialCache) (lease : CredentialLease) :
    AllocationMismatch × CredentialCache :=
  match cache.current with
  | none => (.replaced, cache)
  | some cached =>
    if cached.leasedBy lease then
      if cached.allocationMismatches = 0 then
        (.retryCurrent, { cache with current := some { cached with allocationMismatches := 1 } })
      else (.rotated, { cache with current := none })
    else (.replaced, cache)

/-- `get` of `GroupCredentials`, which holds the lock of the cache all the time: what the provider
returned, if it did and the worker was not stopped before, and whether the worker is not stopped in
the pause after a store. -/
def get (cache : CredentialCache) (fetched : Option TurnCredentials) (waited : Bool) :
    Option CredentialLease × CredentialCache :=
  match cache.reserve with
  | (some lease, cache) => (some lease, cache)
  | (none, cache) =>
    match fetched with
    | none => (none, cache)
    | some credentials =>
      match cache.store credentials with
      | (false, cache) => (none, cache.nextQuotaDelay.2)
      | (true, cache) => if waited then cache.reserve else (none, cache)

end CredentialCache

end Focsq.Worker
