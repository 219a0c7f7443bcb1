import Focsq.Backend.CredentialCache

/-!
# Which credential serves which group

The workers run in groups of nine. `run_groups` of `worker.rs` deals the groups out over the hashes
of the calls in turn, and lets two groups of a hash share one credential. A credential is shared by
reference; here all credentials are in one list and a group knows the index of its own.

Numbers have 64 bits. A group takes one pointer of a vector that is reserved first, so there are
fewer than `2 ^ 60` groups when the first one is dealt out, and no number of a worker overflows.
-/

namespace Focsq.Worker

/-- What a function can panic with. -/
inductive Panic where
  /-- A vector is asked for more bytes than it may have. -/
  | capacityOverflow
  /-- There is no element at an index. -/
  | indexOutOfBounds
  deriving DecidableEq

/-- The element at an index. -/
def indexed {α : Type} (values : List α) (index : Nat) : Except Panic α :=
  match values[index]? with
  | none => .error .indexOutOfBounds
  | some value => .ok value

/-- `Vec::with_capacity` for pointers, which have eight bytes. -/
def withCapacity {α : Type} (capacity : Nat) : Except Panic (List α) :=
  if 2 ^ 63 ≤ 8 * capacity then .error .capacityOverflow else .ok []

/-- `GroupCredentials` — a credential that groups share, without the context of all groups. -/
structure GroupCredentials where
  /-- Number of the credential. -/
  credentialId : Nat
  /-- Hash of the call it is for. -/
  hash : String
  /-- Which `HashAvailability` it shares with the others of the hash. -/
  availability : Nat
  /-- The credential in use. -/
  state : CredentialCache
  /-- Requests in a row that have failed. -/
  failures : Nat
  deriving DecidableEq

/-- `group_hash_index`. -/
def groupHashIndex (groupIndex hashCount : Nat) : Nat := groupIndex % hashCount

/-- `credential_cohort_index`. -/
def credentialCohortIndex (groupIndexForHash : Nat) : Nat := groupIndexForHash / groupsPerCredential

/-- `group_worker_ids`. -/
def groupWorkerIds (groupId : Nat) : List Nat :=
  List.range' ((groupId - 1) * workersPerGroup + 1) workersPerGroup

/-- What the loop of `run_groups` fills. -/
structure Assignment where
  /-- The credentials, the first one made first. -/
  credentials : List GroupCredentials
  /-- Those of each hash. -/
  credentialsByHash : List (List Nat)
  /-- How many groups each hash has. -/
  groupsByHash : List Nat
  /-- The credential of each group. -/
  groupCredentials : List Nat
  /-- The next number of a credential. -/
  nextCredentialId : Nat
  deriving DecidableEq

/-- One turn of the loop of `run_groups`. -/
def Assignment.assign (hashes : List String) (availability : List Nat) (assignment : Assignment)
    (groupIndex : Nat) : Except Panic Assignment := do
  let hashIndex := groupHashIndex groupIndex hashes.length
  let groupIndexForHash ← indexed assignment.groupsByHash hashIndex
  let groupsByHash := assignment.groupsByHash.set hashIndex (saturatingSucc groupIndexForHash)
  let cohortIndex := credentialCohortIndex groupIndexForHash
  let known ← indexed assignment.credentialsByHash hashIndex
  let assignment ←
    if known.length ≤ cohortIndex then do
      let hash ← indexed hashes hashIndex
      let available ← indexed availability hashIndex
      pure { assignment with
        groupsByHash
        credentials := assignment.credentials ++
          [{ credentialId := assignment.nextCredentialId
             hash
             availability := available
             state := {}
             failures := 0 }]
        credentialsByHash :=
          assignment.credentialsByHash.set hashIndex (known ++ [assignment.credentials.length])
        nextCredentialId := saturatingSucc assignment.nextCredentialId }
    else pure { assignment with groupsByHash }
  let known ← indexed assignment.credentialsByHash hashIndex
  let shared ← indexed known cohortIndex
  pure { assignment with groupCredentials := assignment.groupCredentials ++ [shared] }

/-- A task that runs one group. -/
structure GroupTask where
  /-- Number of the group. -/
  groupId : Nat
  /-- Its credential. -/
  credentials : Nat
  deriving DecidableEq

/-- What `run_groups` starts. -/
structure Assigned where
  /-- The credentials. -/
  credentials : List GroupCredentials
  /-- The groups. -/
  tasks : List GroupTask
  deriving DecidableEq

/-- `run_groups`, until its tasks run. -/
def runGroups (groups : Nat) (hashes : List String) : Except Panic Assigned :=
  if hashes.length = 0 then .ok ⟨[], []⟩
  else do
    let availability := List.range hashes.length
    let groupCredentials ← withCapacity groups
    let assignment ← (List.range groups).foldlM (Assignment.assign hashes availability)
      { credentials := []
        credentialsByHash := List.replicate hashes.length []
        groupsByHash := List.replicate hashes.length 0
        groupCredentials
        nextCredentialId := 1 }
    pure
      { credentials := assignment.credentials
        tasks := assignment.groupCredentials.zipIdx.map fun (shared, groupIndex) =>
          ⟨groupIndex + 1, shared⟩ }

/-- `run_group` — the workers that it starts, each with the credential of the group. -/
def runGroup (task : GroupTask) : List (Nat × Nat) :=
  (groupWorkerIds task.groupId).map fun id => (id, task.credentials)

end Focsq.Worker
