import Mathlib.Order.Monotone.Basic
import Focsq.Backend.Groups
import Focsq.Lib.Vec

/-!
# The groups are dealt out evenly

With `k` hashes, group `i` is number `i / k` of the groups of hash `i % k`, and two groups in a row
of one hash make a cohort. The tables that the loop fills are functions of the number of its turns,
and what is right about the assignment is read off them.
-/

namespace Focsq.Worker

section Turns

/-- How many of the first groups are of a hash. -/
def groupsOf (hashCount turns hashIndex : Nat) : Nat :=
  turns / hashCount + if hashIndex < turns % hashCount then 1 else 0

/-- How many cohorts the first groups make. -/
def cohortsOf (hashCount turns hashIndex : Nat) : Nat :=
  (groupsOf hashCount turns hashIndex + 1) / groupsPerCredential

/-- How many credentials the first groups need. -/
def credentialsOf (hashCount turns : Nat) : Nat :=
  turns / hashCount / 2 * hashCount +
    if turns / hashCount % 2 = 0 then turns % hashCount else hashCount

/-- The credential of a cohort of a hash. -/
def cohortCredential (hashCount hashIndex cohortIndex : Nat) : Nat :=
  cohortIndex * hashCount + hashIndex

/-- The credential of a group. -/
def groupCredential (hashCount groupIndex : Nat) : Nat :=
  cohortCredential hashCount (groupIndex % hashCount)
    (credentialCohortIndex (groupIndex / hashCount))

variable {hashCount : Nat} (turns : Nat)

/-- The next group is of the next hash, or of the first one again. -/
theorem turn_cases (positive : 0 < hashCount) :
    (turns % hashCount + 1 < hashCount ∧ (turns + 1) / hashCount = turns / hashCount ∧
        (turns + 1) % hashCount = turns % hashCount + 1) ∨
      (turns % hashCount + 1 = hashCount ∧ (turns + 1) / hashCount = turns / hashCount + 1 ∧
        (turns + 1) % hashCount = 0) := by
  have whole := Nat.div_add_mod turns hashCount
  have less := Nat.mod_lt turns positive
  rcases Nat.lt_or_eq_of_le (Nat.succ_le_of_lt less) with inside | last
  · refine .inl ⟨inside, ?_⟩
    apply (Nat.div_mod_unique positive).mpr
    exact ⟨by omega, inside⟩
  · refine .inr ⟨last, ?_⟩
    apply (Nat.div_mod_unique positive).mpr
    refine ⟨?_, positive⟩
    rw [Nat.mul_add, Nat.mul_one]
    omega

/-- The groups of its hash before a group. -/
theorem groupsOf_self : groupsOf hashCount turns (turns % hashCount) = turns / hashCount := by
  rw [groupsOf, if_neg (Nat.lt_irrefl _), Nat.add_zero]

/-- Each group is one more of its hash. -/
theorem groupsOf_succ (positive : 0 < hashCount) (hashIndex : Nat)
    (inside : hashIndex < hashCount) :
    groupsOf hashCount (turns + 1) hashIndex =
      if hashIndex = turns % hashCount then turns / hashCount + 1
      else groupsOf hashCount turns hashIndex := by
  unfold groupsOf
  rcases turn_cases turns positive with ⟨_, quotient, remainder⟩ | ⟨last, quotient, remainder⟩
  · rw [quotient, remainder]
    split_ifs <;> omega
  · rw [quotient, remainder]
    split_ifs <;> omega

/-- A group needs another credential when it is the first one of its cohort. -/
theorem credentialsOf_succ (positive : 0 < hashCount) :
    credentialsOf hashCount (turns + 1) =
      credentialsOf hashCount turns + if turns / hashCount % 2 = 0 then 1 else 0 := by
  unfold credentialsOf
  rcases turn_cases turns positive with ⟨_, quotient, remainder⟩ | ⟨last, quotient, remainder⟩
  · rw [quotient, remainder]
    split <;> omega
  · rw [quotient, remainder]
    by_cases even : turns / hashCount % 2 = 0
    · have odd : ¬(turns / hashCount + 1) % 2 = 0 := by omega
      have same : (turns / hashCount + 1) / 2 = turns / hashCount / 2 := by omega
      rw [if_pos even, if_pos even, if_neg odd, same]
      omega
    · have next : (turns / hashCount + 1) % 2 = 0 := by omega
      have more : (turns / hashCount + 1) / 2 = turns / hashCount / 2 + 1 := by omega
      rw [if_neg even, if_neg even, if_pos next, more, Nat.add_mul, Nat.one_mul]

/-- Its credential is then the one after all others. -/
theorem groupCredential_first (even : turns / hashCount % 2 = 0) :
    groupCredential hashCount turns = credentialsOf hashCount turns := by
  rw [credentialsOf, if_pos even]
  rfl

/-- There are no more credentials than groups. -/
theorem credentialsOf_le (positive : 0 < hashCount) : credentialsOf hashCount turns ≤ turns := by
  induction turns with
  | zero => simp [credentialsOf]
  | succ turns ih =>
    rw [credentialsOf_succ turns positive]
    split <;> omega

/-- A group's credential is among those that the groups up to it need. -/
theorem groupCredential_lt (positive : 0 < hashCount) {groupIndex : Nat}
    (before : groupIndex < turns) :
    groupCredential hashCount groupIndex < credentialsOf hashCount turns := by
  have grows : credentialsOf hashCount (groupIndex + 1) ≤ credentialsOf hashCount turns := by
    refine monotone_nat_of_le_succ (fun turns => ?_) (Nat.succ_le_of_lt before)
    rw [credentialsOf_succ turns positive]
    exact Nat.le_add_right _ _
  refine Nat.lt_of_lt_of_le ?_ grows
  rw [credentialsOf_succ groupIndex positive]
  by_cases even : groupIndex / hashCount % 2 = 0
  · rw [groupCredential_first groupIndex even, if_pos even]
    exact Nat.lt_succ_self _
  · rw [credentialsOf, if_neg even, if_neg even]
    exact Nat.add_lt_add_left (Nat.mod_lt groupIndex positive) _

end Turns

section Tables

/-- Overwriting one value of a tabled function. -/
theorem set_map_range {α : Type} (value : Nat → α) (count index : Nat) (new : α) :
    ((List.range count).map value).set index new =
      (List.range count).map fun other => if other = index then new else value other := by
  apply List.ext_getElem?
  intro other
  rw [List.getElem?_set, List.getElem?_map, List.getElem?_map]
  by_cases same : index = other
  · subst same
    rw [if_pos rfl, List.length_map, List.length_range]
    by_cases inside : index < count
    · rw [if_pos inside, List.getElem?_range inside, Option.map_some, if_pos rfl]
    · rw [if_neg inside, List.getElem?_eq_none (by simpa using inside)]
      rfl
  · rw [if_neg same]
    by_cases inside : other < count
    · rw [List.getElem?_range inside, Option.map_some, Option.map_some, if_neg (Ne.symm same)]
    · rw [List.getElem?_eq_none (by simpa using inside)]
      rfl

/-- Reading one value of a tabled function. -/
theorem indexed_map_range {α : Type} (value : Nat → α) {count index : Nat}
    (inside : index < count) :
    indexed ((List.range count).map value) index = .ok (value index) := by
  rw [indexed, List.getElem?_map, List.getElem?_range inside]
  rfl

variable (hashes : List String)

/-- The credential with an index, as it is made. -/
def madeCredential (index : Nat) : GroupCredentials where
  credentialId := index + 1
  hash := hashes.getD (index % hashes.length) ""
  availability := index % hashes.length
  state := {}
  failures := 0

/-- The tables after a number of turns. -/
def Assignment.after (turns : Nat) : Assignment where
  credentials := (List.range (credentialsOf hashes.length turns)).map (madeCredential hashes)
  credentialsByHash := (List.range hashes.length).map fun hashIndex =>
    (List.range (cohortsOf hashes.length turns hashIndex)).map
      (cohortCredential hashes.length hashIndex)
  groupsByHash := (List.range hashes.length).map (groupsOf hashes.length turns)
  groupCredentials := (List.range turns).map (groupCredential hashes.length)
  nextCredentialId := credentialsOf hashes.length turns + 1

/-- At first they are empty. -/
theorem Assignment.after_zero :
    Assignment.after hashes 0 =
      { credentials := []
        credentialsByHash := List.replicate hashes.length []
        groupsByHash := List.replicate hashes.length 0
        groupCredentials := []
        nextCredentialId := 1 } := by
  have none : ∀ hashIndex, groupsOf hashes.length 0 hashIndex = 0 := by
    intro hashIndex
    rw [groupsOf, Nat.zero_div, Nat.zero_mod, if_neg (Nat.not_lt_zero _)]
  have noCohorts : ∀ hashIndex, cohortsOf hashes.length 0 hashIndex = 0 := by
    intro hashIndex
    rw [cohortsOf, none]
    rfl
  have noCredentials : credentialsOf hashes.length 0 = 0 := by
    rw [credentialsOf, Nat.zero_div, Nat.zero_mod]
    simp
  have same {α : Type} (value : Nat → α) (constant : α) (always : ∀ index, value index = constant) :
      (List.range hashes.length).map value = List.replicate hashes.length constant := by
    rw [List.map_congr_left fun index _ => always index, List.map_const', List.length_range]
  unfold Assignment.after
  rw [noCredentials, same _ 0 none, same _ [] fun hashIndex => by rw [noCohorts]; rfl]
  rfl

variable {hashes} (present : hashes ≠ []) (turns : Nat)

include present in
/-- The hash of the group is one more. -/
theorem Assignment.after_groupsByHash :
    (Assignment.after hashes turns).groupsByHash.set (turns % hashes.length)
        (turns / hashes.length + 1) =
      (Assignment.after hashes (turns + 1)).groupsByHash := by
  unfold Assignment.after
  rw [set_map_range]
  apply List.map_congr_left
  intro hashIndex inside
  exact (groupsOf_succ turns (List.length_pos_of_ne_nil present) hashIndex
    (List.mem_range.mp inside)).symm

include present in
/-- Each group is of the last cohort of its hash. -/
theorem cohortsOf_succ (hashIndex : Nat) (inside : hashIndex < hashes.length) :
    cohortsOf hashes.length (turns + 1) hashIndex =
      if hashIndex = turns % hashes.length then
        credentialCohortIndex (turns / hashes.length) + 1
      else cohortsOf hashes.length turns hashIndex := by
  rw [cohortsOf, groupsOf_succ turns (List.length_pos_of_ne_nil present) hashIndex inside,
    credentialCohortIndex, groupsPerCredential]
  split
  · omega
  · rfl

/-- The cohorts of its hash before a group. -/
theorem cohortsOf_self :
    cohortsOf hashes.length turns (turns % hashes.length) =
      credentialCohortIndex (turns / hashes.length) + turns / hashes.length % 2 := by
  rw [cohortsOf, groupsOf_self, credentialCohortIndex, groupsPerCredential]
  omega

include present in
/-- The first group of a cohort brings a credential. -/
theorem Assignment.after_first (even : turns / hashes.length % 2 = 0) :
    (Assignment.after hashes turns).credentialsByHash.set (turns % hashes.length)
        ((List.range (cohortsOf hashes.length turns (turns % hashes.length))).map
          (cohortCredential hashes.length (turns % hashes.length)) ++
          [credentialsOf hashes.length turns]) =
      (Assignment.after hashes (turns + 1)).credentialsByHash := by
  unfold Assignment.after
  rw [set_map_range]
  apply List.map_congr_left
  intro hashIndex inside
  rw [cohortsOf_succ present turns hashIndex (List.mem_range.mp inside)]
  split
  · rename_i same
    rw [cohortsOf_self, even, Nat.add_zero, List.range_succ, List.map_append,
      ← groupCredential_first turns even, same]
    rfl
  · rfl

include present in
/-- The second one brings none. -/
theorem Assignment.after_second (odd : ¬turns / hashes.length % 2 = 0) :
    (Assignment.after hashes turns).credentialsByHash =
      (Assignment.after hashes (turns + 1)).credentialsByHash := by
  unfold Assignment.after
  apply List.map_congr_left
  intro hashIndex inside
  rw [cohortsOf_succ present turns hashIndex (List.mem_range.mp inside)]
  split
  · rename_i same
    rw [same, cohortsOf_self]
    congr 3
    omega
  · rfl

include present in
/-- The credential that the first group of a cohort brings is for its hash. -/
theorem Assignment.after_credentials (even : turns / hashes.length % 2 = 0) (hash : String)
    (here : hashes[turns % hashes.length]? = some hash) :
    (Assignment.after hashes turns).credentials ++
        [⟨credentialsOf hashes.length turns + 1, hash, turns % hashes.length, {}, 0⟩] =
      (Assignment.after hashes (turns + 1)).credentials := by
  have own : credentialsOf hashes.length turns % hashes.length = turns % hashes.length := by
    rw [credentialsOf, if_pos even, Nat.add_comm, Nat.add_mul_mod_self_right, Nat.mod_mod]
  unfold Assignment.after
  rw [credentialsOf_succ turns (List.length_pos_of_ne_nil present), if_pos even, List.range_succ,
    List.map_append, List.map_singleton, madeCredential, own, List.getD_eq_getElem?_getD, here]
  rfl

/-- The list of the group credentials is one longer. -/
theorem Assignment.after_groupCredentials :
    (Assignment.after hashes turns).groupCredentials ++ [groupCredential hashes.length turns] =
      (Assignment.after hashes (turns + 1)).groupCredentials := by
  unfold Assignment.after
  rw [List.range_succ, List.map_append, List.map_singleton]

include present in
/-- The second group of a cohort leaves the credentials as they are. -/
theorem Assignment.after_same (odd : ¬turns / hashes.length % 2 = 0) :
    Assignment.after hashes (turns + 1) = { Assignment.after hashes turns with
      credentialsByHash := (Assignment.after hashes (turns + 1)).credentialsByHash
      groupsByHash := (Assignment.after hashes (turns + 1)).groupsByHash
      groupCredentials := (Assignment.after hashes (turns + 1)).groupCredentials } := by
  have credentials := credentialsOf_succ turns (List.length_pos_of_ne_nil present)
  rw [if_neg odd] at credentials
  unfold Assignment.after
  rw [credentials]
  rfl

include present in
/-- The number of the next credential is one more after the first group of a cohort. -/
theorem Assignment.after_nextCredentialId (even : turns / hashes.length % 2 = 0)
    (few : turns + 1 < u64Max) :
    saturatingSucc (credentialsOf hashes.length turns + 1) =
      (Assignment.after hashes (turns + 1)).nextCredentialId := by
  have positive := List.length_pos_of_ne_nil present
  have small := credentialsOf_le turns positive
  rw [Assignment.after, credentialsOf_succ turns positive, if_pos even]
  exact Nat.min_eq_left (by omega)

include present in
/-- The groups of its hash before a group are read. -/
theorem Assignment.groups_read :
    indexed (Assignment.after hashes turns).groupsByHash (turns % hashes.length) =
      .ok (turns / hashes.length) := by
  have inside := Nat.mod_lt turns (List.length_pos_of_ne_nil present)
  rw [← groupsOf_self]
  exact indexed_map_range _ inside

include present in
/-- The credentials of its hash are read before the group, -/
theorem Assignment.known_read :
    indexed (Assignment.after hashes turns).credentialsByHash (turns % hashes.length) =
      .ok ((List.range (cohortsOf hashes.length turns (turns % hashes.length))).map
        (cohortCredential hashes.length (turns % hashes.length))) :=
  indexed_map_range _ (Nat.mod_lt turns (List.length_pos_of_ne_nil present))

include present in
/-- and after it. -/
theorem Assignment.later_read :
    indexed (Assignment.after hashes (turns + 1)).credentialsByHash (turns % hashes.length) =
      .ok ((List.range (credentialCohortIndex (turns / hashes.length) + 1)).map
        (cohortCredential hashes.length (turns % hashes.length))) := by
  have inside := Nat.mod_lt turns (List.length_pos_of_ne_nil present)
  have read := indexed_map_range (fun hashIndex =>
    (List.range (cohortsOf hashes.length (turns + 1) hashIndex)).map
      (cohortCredential hashes.length hashIndex)) inside
  rw [cohortsOf_succ present turns _ inside, if_pos rfl] at read
  exact read

include present in
/-- One turn of the loop does not fail, and is one more. -/
theorem Assignment.assign_after (few : turns + 1 < u64Max) :
    (Assignment.after hashes turns).assign hashes (List.range hashes.length) turns =
      .ok (Assignment.after hashes (turns + 1)) := by
  have inside : turns % hashes.length < hashes.length :=
    Nat.mod_lt turns (List.length_pos_of_ne_nil present)
  have counted : saturatingSucc (turns / hashes.length) = turns / hashes.length + 1 := by
    have small := Nat.div_le_self turns hashes.length
    exact Nat.min_eq_left (by omega)
  have shared := indexed_map_range (cohortCredential hashes.length (turns % hashes.length))
    (Nat.lt_succ_self (credentialCohortIndex (turns / hashes.length)))
  have groups := @Assignment.after_groupCredentials hashes turns
  unfold Assignment.assign
  dsimp only [groupHashIndex]
  rw [Assignment.groups_read present]
  dsimp only [bind, Except.bind]
  rw [Assignment.known_read present]
  dsimp only
  rw [List.length_map, List.length_range, counted,
    Assignment.after_groupsByHash present turns]
  by_cases even : turns / hashes.length % 2 = 0
  · have first : cohortsOf hashes.length turns (turns % hashes.length) ≤
        credentialCohortIndex (turns / hashes.length) := by
      rw [cohortsOf_self, even]
      exact Nat.le_refl _
    have here : hashes[turns % hashes.length]? = some hashes[turns % hashes.length] :=
      List.getElem?_eq_getElem inside
    have hash : indexed hashes (turns % hashes.length) = .ok hashes[turns % hashes.length] := by
      rw [indexed, here]
    have available : indexed (List.range hashes.length) (turns % hashes.length) =
        .ok (turns % hashes.length) := by
      rw [indexed, List.getElem?_range inside]
    rw [if_pos first, hash]
    dsimp only
    rw [available]
    dsimp only [pure, Except.pure]
    have length : (Assignment.after hashes turns).credentials.length =
        credentialsOf hashes.length turns := by
      rw [Assignment.after, List.length_map, List.length_range]
    have next : (Assignment.after hashes turns).nextCredentialId =
        credentialsOf hashes.length turns + 1 := rfl
    rw [length, next, Assignment.after_credentials present turns even _ here,
      Assignment.after_first present turns even, Assignment.later_read present]
    dsimp only
    rw [shared]
    dsimp only
    rw [Assignment.after_nextCredentialId present turns even few]
    exact congrArg (fun shared => Except.ok { Assignment.after hashes (turns + 1) with
      groupCredentials := shared }) groups
  · have second : ¬cohortsOf hashes.length turns (turns % hashes.length) ≤
        credentialCohortIndex (turns / hashes.length) := by
      rw [cohortsOf_self]
      omega
    rw [if_neg second]
    dsimp only [pure, Except.pure]
    rw [Assignment.after_second present turns even, Assignment.later_read present]
    dsimp only
    rw [shared]
    dsimp only
    rw [Assignment.after_same present turns even]
    exact congrArg (fun shared => Except.ok { Assignment.after hashes turns with
      credentialsByHash := (Assignment.after hashes (turns + 1)).credentialsByHash
      groupsByHash := (Assignment.after hashes (turns + 1)).groupsByHash
      groupCredentials := shared }) groups

include present in
/-- The loop does not fail. -/
theorem Assignment.loop (few : turns < u64Max) :
    (List.range turns).foldlM (Assignment.assign hashes (List.range hashes.length))
        (Assignment.after hashes 0) = .ok (Assignment.after hashes turns) := by
  induction turns with
  | zero => rfl
  | succ turns ih =>
    rw [List.range_succ, List.foldlM_append, ih (by omega)]
    dsimp only [bind, Except.bind, List.foldlM]
    rw [Assignment.assign_after present turns few]
    rfl

end Tables

section Fairness

/-- How many groups have a credential. -/
def Assigned.groupsWith (assigned : Assigned) (index : Nat) : Nat :=
  assigned.tasks.countP fun task => task.credentials == index

/-- How many groups have a credential for a hash. -/
def Assigned.groupsFor (assigned : Assigned) (hashIndex : Nat) : Nat :=
  assigned.tasks.countP fun task =>
    assigned.credentials[task.credentials]?.any fun shared => shared.availability == hashIndex

/-- How many workers have a credential. -/
def Assigned.workersWith (assigned : Assigned) (index : Nat) : Nat :=
  (assigned.tasks.flatMap runGroup).countP fun worker => worker.2 == index

/-- What is right about an assignment. -/
structure Assigned.Fair (assigned : Assigned) (hashes : List String) (groups : Nat) : Prop where
  /-- Every group runs. -/
  ran : assigned.tasks.map GroupTask.groupId = List.range' 1 groups
  /-- The workers of the groups are numbered on, -/
  workers : (assigned.tasks.flatMap runGroup).map Prod.fst =
    List.range' 1 (workersPerGroup * groups)
  /-- and no number overflows. -/
  fit : ∀ task ∈ assigned.tasks, task.groupId * workersPerGroup + 1 ≤ u64Max
  /-- A group has a credential that is for the group's hash. -/
  hash : ∀ task ∈ assigned.tasks, ∃ shared, assigned.credentials[task.credentials]? = some shared ∧
    shared.availability = groupHashIndex (task.groupId - 1) hashes.length ∧
      hashes[shared.availability]? = some shared.hash
  /-- No hash has two groups more than another one. -/
  balanced : ∀ left < hashes.length, ∀ right < hashes.length,
    assigned.groupsFor left ≤ assigned.groupsFor right + 1
  /-- A credential is for one or two groups, -/
  shared : ∀ index < assigned.credentials.length,
    1 ≤ assigned.groupsWith index ∧ assigned.groupsWith index ≤ groupsPerCredential
  /-- so for at most eighteen workers. -/
  lent : ∀ index < assigned.credentials.length, assigned.workersWith index ≤ workersPerCredential
  /-- The credentials are numbered on. -/
  numbered : assigned.credentials.map GroupCredentials.credentialId =
    List.range' 1 assigned.credentials.length

/-- Each worker of a group has the credential of the group. -/
theorem Assigned.workersWith_eq (assigned : Assigned) (index : Nat) :
    assigned.workersWith index = workersPerGroup * assigned.groupsWith index := by
  unfold Assigned.workersWith Assigned.groupsWith
  induction assigned.tasks with
  | nil => rfl
  | cons task tasks ih =>
    have own : (runGroup task).countP (fun worker => worker.2 == index) =
        if task.credentials == index then workersPerGroup else 0 := by
      unfold runGroup
      rw [List.countP_map]
      split
      · rename_i same
        exact (List.countP_eq_length.mpr fun id _ => same).trans List.length_range'
      · rename_i other
        exact List.countP_eq_zero.mpr fun id _ => other
    rw [List.flatMap_cons, List.countP_append, own, ih, List.countP_cons, Nat.mul_add]
    split
    · rw [Nat.mul_one, Nat.add_comm]
    · rw [Nat.mul_zero, Nat.add_comm]

variable {hashCount : Nat} (positive : 0 < hashCount) (turns : Nat)

include positive in
/-- A group's credential has the place of its cohort, and of its hash in it. -/
theorem groupCredential_div_mod (groupIndex : Nat) :
    groupCredential hashCount groupIndex / hashCount =
        credentialCohortIndex (groupIndex / hashCount) ∧
      groupCredential hashCount groupIndex % hashCount = groupIndex % hashCount := by
  apply (Nat.div_mod_unique positive).mpr
  refine ⟨?_, Nat.mod_lt _ positive⟩
  rw [groupCredential, cohortCredential, Nat.mul_comm, Nat.add_comm]

include positive in
/-- The groups of a hash are counted. -/
theorem countP_hash (hashIndex : Nat) (inside : hashIndex < hashCount) :
    (List.range turns).countP (fun groupIndex => groupIndex % hashCount == hashIndex) =
      groupsOf hashCount turns hashIndex := by
  induction turns with
  | zero => simp [groupsOf]
  | succ turns ih =>
    rw [List.range_succ, Vec.countP_concat, ih, groupsOf_succ turns positive hashIndex inside]
    by_cases same : hashIndex = turns % hashCount
    · rw [if_pos same, same, groupsOf_self, beq_self_eq_true]
      rfl
    · rw [if_neg same, beq_false_of_ne (Ne.symm same)]
      rfl

include positive in
/-- Every credential is that of a group. -/
theorem exists_group (index : Nat) (made : index < credentialsOf hashCount turns) :
    ∃ groupIndex < turns, groupCredential hashCount groupIndex = index := by
  induction turns with
  | zero => simp [credentialsOf] at made
  | succ turns ih =>
    by_cases before : index < credentialsOf hashCount turns
    · obtain ⟨groupIndex, early, own⟩ := ih before
      exact ⟨groupIndex, Nat.lt_succ_of_lt early, own⟩
    · rw [credentialsOf_succ turns positive] at made
      by_cases even : turns / hashCount % 2 = 0
      · rw [if_pos even] at made
        refine ⟨turns, Nat.lt_succ_self turns, ?_⟩
        rw [groupCredential_first turns even]
        omega
      · rw [if_neg even] at made
        exact absurd made before

include positive in
/-- A credential is for one or two groups. -/
theorem countP_credential (index : Nat) (made : index < credentialsOf hashCount turns) :
    1 ≤ (List.range turns).countP
        (fun groupIndex => groupCredential hashCount groupIndex == index) ∧
      (List.range turns).countP (fun groupIndex => groupCredential hashCount groupIndex == index) ≤
        groupsPerCredential := by
  constructor
  · obtain ⟨groupIndex, early, own⟩ := exists_group positive turns index made
    apply List.countP_pos_iff.mpr
    exact ⟨groupIndex, List.mem_range.mpr early, beq_iff_eq.mpr own⟩
  · -- the two groups of its cohort
    have few : (List.range turns).filter (fun groupIndex =>
        groupCredential hashCount groupIndex == index) ⊆
        [hashCount * (2 * (index / hashCount)) + index % hashCount,
          hashCount * (2 * (index / hashCount) + 1) + index % hashCount] := by
      intro groupIndex member
      have own : groupCredential hashCount groupIndex = index :=
        beq_iff_eq.mp (List.mem_filter.mp member).2
      obtain ⟨cohort, hash⟩ := groupCredential_div_mod positive groupIndex
      rw [own] at cohort hash
      rw [cohort, hash, credentialCohortIndex, groupsPerCredential]
      have whole := Nat.div_add_mod groupIndex hashCount
      rw [List.mem_pair]
      rcases Nat.mod_two_eq_zero_or_one (groupIndex / hashCount) with even | odd
      · left
        rw [show 2 * (groupIndex / hashCount / 2) = groupIndex / hashCount by omega]
        exact whole.symm
      · right
        rw [show 2 * (groupIndex / hashCount / 2) + 1 = groupIndex / hashCount by omega]
        exact whole.symm
    rw [List.countP_eq_length_filter]
    exact (List.subperm_of_subset (List.nodup_range.filter _) few).length_le

variable (hashes : List String)

/-- What is started after a number of turns. -/
def Assigned.after (turns : Nat) : Assigned where
  credentials := (Assignment.after hashes turns).credentials
  tasks := (List.range turns).map fun groupIndex =>
    ⟨groupIndex + 1, groupCredential hashes.length groupIndex⟩

/-- Each group runs with its credential. -/
theorem tasks_range (value : Nat → Nat) :
    ((List.range turns).map value).zipIdx.map (fun (shared, groupIndex) =>
        GroupTask.mk (groupIndex + 1) shared) =
      (List.range turns).map fun groupIndex => ⟨groupIndex + 1, value groupIndex⟩ := by
  apply List.ext_getElem?
  intro groupIndex
  rw [List.getElem?_map, List.getElem?_zipIdx, List.getElem?_map, List.getElem?_map]
  by_cases inside : groupIndex < turns
  · rw [List.getElem?_range inside, Nat.zero_add]
    rfl
  · rw [List.getElem?_eq_none (by simpa using inside)]
    rfl

/-- The workers of the groups are numbered on. -/
theorem workers_range (value : Nat → Nat) :
    ((List.range turns).flatMap fun groupIndex => runGroup ⟨groupIndex + 1, value groupIndex⟩).map
        Prod.fst = List.range' 1 (workersPerGroup * turns) := by
  induction turns with
  | zero => rfl
  | succ turns ih =>
    have group : (runGroup ⟨turns + 1, value turns⟩).map Prod.fst =
        List.range' (1 + 1 * (workersPerGroup * turns)) workersPerGroup := by
      rw [runGroup, List.map_map, groupWorkerIds, Nat.add_sub_cancel, Nat.mul_comm turns,
        Nat.add_comm (workersPerGroup * turns), Nat.one_mul]
      exact List.map_id _
    rw [List.range_succ, List.flatMap_append, List.map_append, ih, List.flatMap_singleton, group,
      List.range'_append, Nat.mul_succ]

variable {hashes} (present : hashes ≠ [])

/-- A credential that was made. -/
theorem Assigned.after_get {index : Nat} (made : index < credentialsOf hashes.length turns) :
    (Assigned.after hashes turns).credentials[index]? = some (madeCredential hashes index) := by
  unfold Assigned.after Assignment.after
  rw [List.getElem?_map, List.getElem?_range made]
  rfl

/-- So many credentials are made. -/
theorem Assigned.after_length :
    (Assigned.after hashes turns).credentials.length = credentialsOf hashes.length turns := by
  unfold Assigned.after Assignment.after
  rw [List.length_map, List.length_range]

/-- So many groups have a credential. -/
theorem Assigned.after_groupsWith (index : Nat) :
    (Assigned.after hashes turns).groupsWith index =
      (List.range turns).countP fun groupIndex =>
        groupCredential hashes.length groupIndex == index := by
  unfold Assigned.groupsWith Assigned.after
  rw [List.countP_map]
  rfl

include present in
/-- So many groups are for a hash. -/
theorem Assigned.after_groupsFor (hashIndex : Nat) (inside : hashIndex < hashes.length) :
    (Assigned.after hashes turns).groupsFor hashIndex = groupsOf hashes.length turns hashIndex := by
  have positive := List.length_pos_of_ne_nil present
  rw [← countP_hash positive turns hashIndex inside]
  unfold Assigned.groupsFor
  rw [Assigned.after, List.countP_map]
  apply List.countP_congr
  intro groupIndex member
  have made := groupCredential_lt turns positive (List.mem_range.mp member)
  have own := (groupCredential_div_mod positive groupIndex).2
  have read : (Assigned.after hashes turns).credentials[_]? = _ := Assigned.after_get turns made
  unfold Assigned.after at read
  dsimp only [Function.comp_apply]
  rw [read, Option.any_some, madeCredential, own]

include present in
/-- The assignment after all turns is as it should be. -/
theorem Assigned.after_fair (few : 8 * turns < 2 ^ 63) :
    (Assigned.after hashes turns).Fair hashes turns := by
  have positive := List.length_pos_of_ne_nil present
  constructor
  case ran =>
    unfold Assigned.after
    rw [List.map_map, List.range'_eq_map_range]
    apply List.map_congr_left
    intro groupIndex _
    exact Nat.add_comm groupIndex 1
  case workers =>
    unfold Assigned.after
    rw [List.flatMap_map]
    exact workers_range turns (groupCredential hashes.length)
  case fit =>
    intro task member
    obtain ⟨groupIndex, inside, rfl⟩ := List.mem_map.mp member
    have early := List.mem_range.mp inside
    dsimp only
    unfold workersPerGroup u64Max
    omega
  case hash =>
    intro task member
    obtain ⟨groupIndex, inside, rfl⟩ := List.mem_map.mp member
    have own := (groupCredential_div_mod positive groupIndex).2
    have there := Nat.mod_lt groupIndex positive
    refine ⟨_, Assigned.after_get turns
      (groupCredential_lt turns positive (List.mem_range.mp inside)), own, ?_⟩
    unfold madeCredential
    dsimp only
    rw [own, List.getElem?_eq_getElem there, List.getD_eq_getElem?_getD,
      List.getElem?_eq_getElem there, Option.getD_some]
  case balanced =>
    intro left leftInside right rightInside
    rw [Assigned.after_groupsFor turns present left leftInside,
      Assigned.after_groupsFor turns present right rightInside]
    unfold groupsOf
    split <;> split <;> omega
  case shared =>
    intro index made
    rw [Assigned.after_length] at made
    rw [Assigned.after_groupsWith]
    exact countP_credential positive turns index made
  case lent =>
    intro index made
    rw [Assigned.after_length] at made
    rw [Assigned.workersWith_eq, Assigned.after_groupsWith]
    exact Nat.mul_le_mul_left workersPerGroup (countP_credential positive turns index made).2
  case numbered =>
    rw [Assigned.after_length]
    unfold Assigned.after Assignment.after
    rw [List.map_map, List.range'_eq_map_range]
    apply List.map_congr_left
    intro index _
    exact Nat.add_comm index 1

/-- `run_groups` deals any number of groups out over any number of hashes as it should. With more
groups than a vector can hold, it panics before it deals out the first one. -/
theorem runGroups_fair (groups : Nat) (hashes : List String) (present : hashes ≠ []) :
    (2 ^ 63 ≤ 8 * groups ∧ runGroups groups hashes = .error .capacityOverflow) ∨
      ∃ assigned, runGroups groups hashes = .ok assigned ∧ assigned.Fair hashes groups := by
  have some : ¬hashes.length = 0 := fun none => present (List.length_eq_zero_iff.mp none)
  unfold runGroups
  rw [if_neg some, withCapacity]
  by_cases many : 2 ^ 63 ≤ 8 * groups
  · refine .inl ⟨many, ?_⟩
    rw [if_pos many]
    rfl
  · have few : 8 * groups < 2 ^ 63 := Nat.not_le.mp many
    refine .inr ⟨Assigned.after hashes groups, ?_, Assigned.after_fair groups present few⟩
    rw [if_neg many]
    dsimp only [bind, Except.bind]
    rw [← Assignment.after_zero, Assignment.loop present groups (by unfold u64Max; omega)]
    dsimp only [pure, Except.pure]
    exact congrArg (fun tasks => Except.ok (Assigned.mk _ tasks)) (tasks_range groups _)

/-- Fifty-four workers with two hashes. -/
theorem runGroups_fiftyFour :
    ["first", "second"] ≠ [] ∧
      ∃ assigned, runGroups 6 ["first", "second"] = .ok assigned ∧
        assigned.Fair ["first", "second"] 6 :=
  ⟨by decide, (runGroups_fair 6 ["first", "second"] (by decide)).resolve_left (by decide)⟩

end Fairness

end Focsq.Worker
