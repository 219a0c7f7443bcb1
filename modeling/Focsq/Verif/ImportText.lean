import Focsq.Frontend.ImportText
import Mathlib.Data.List.Nodup

/-!
# What an import stores and reports

A profile that is stored already is not stored again, but two links of one text are compared with
what was stored before the import only. A save that fails ends the import, and what was saved before
it is not reported.
-/

namespace Focsq.Import

open ConnectStart (ServerProfile isValidPort)

section Servers

/-- The address and the port by which profiles are told apart. -/
def server (profile : ServerProfile) : Option Text × Option Int := (profile.ip, profile.port)

/-- No two profiles have the same server. -/
def Unique (profiles : List ServerProfile) : Prop := (profiles.map server).Nodup

/-- The server of a link. -/
def linkServer (link : Text) : Option (Option Text × Option Int) := (parse 0 link).map server

/-- The servers of a text that none of the stored profiles has. -/
def newServers (stored : List ServerProfile) (text : Text) : List (Option Text × Option Int) :=
  ((extractCandidates text).filterMap linkServer).filter fun named =>
    !(stored.map server).contains named

/-- The server of a profile does not depend on its name. -/
theorem profileOf_server (number other : Nat) (host : Text) (port : Option Int) (password : Text) :
    (profileOf number host port password).map server =
      (profileOf other host port password).map server := by
  unfold profileOf
  split
  · simp only [Option.map_some, server]
  · rfl

/-- Two computations go on in the same way. -/
theorem map_bind_congr {α β γ : Type} {value : Option α} {first second : α → Option β} {made : β → γ}
    (same : ∀ found, (first found).map made = (second found).map made) :
    (value.bind first).map made = (value.bind second).map made := by
  cases value with
  | none => rfl
  | some found => exact same found

/-- Which server a link is parsed to does not depend on the number. -/
theorem parse_server (number : Nat) (link : Text) : (parse number link).map server = linkServer link := by
  rw [linkServer]
  unfold parse
  dsimp only
  split
  · rfl
  · split
    · unfold parseV2
      refine map_bind_congr fun query => ?_
      split
      · rfl
      · refine map_bind_congr fun host => map_bind_congr fun password => ?_
        split
        · rfl
        · exact profileOf_server _ _ _ _ _
    · unfold parseLegacy
      refine map_bind_congr fun index => ?_
      split
      · rfl
      · exact map_bind_congr fun password => map_bind_congr fun address =>
          profileOf_server _ _ _ _ _

end Servers

namespace Surroundings

variable (surroundings : Surroundings)

section Parsing

/-- The servers of the profiles that links are parsed to. -/
theorem profilesOf_server (candidates : List Text) :
    (surroundings.profilesOf candidates).map server = candidates.filterMap linkServer := by
  have indexed (start : Nat) : ((candidates.zipIdx start).filterMap fun entry =>
      parse (surroundings.numbers entry.2) entry.1).map server =
        candidates.filterMap linkServer := by
    induction candidates generalizing start with
    | nil => rfl
    | cons link rest ih =>
      have same := parse_server (surroundings.numbers start) link
      rw [List.zipIdx_cons, List.filterMap_cons, List.filterMap_cons, ← same]
      dsimp only
      cases parse (surroundings.numbers start) link with
      | none => exact ih (start + 1)
      | some profile => exact congrArg (server profile :: ·) (ih (start + 1))
  exact indexed 0

/-- Not more links are parsed than there are. -/
theorem length_profilesOf_le (candidates : List Text) :
    (surroundings.profilesOf candidates).length ≤ candidates.length := by
  have fewer := List.length_filterMap_le (fun entry : Text × Nat =>
    parse (surroundings.numbers entry.2) entry.1) candidates.zipIdx
  rwa [List.length_zipIdx] at fewer

end Parsing

section Sorting

variable {stored existing : List ServerProfile}

/-- The profiles that are read are those that are stored. -/
theorem perm_of_getProfiles (read : surroundings.getProfiles stored = some existing) :
    existing.Perm stored := by
  unfold getProfiles at read
  split at read
  · cases read
    exact List.mergeSort_perm _ _
  · cases read

/-- A profile is a duplicate if its server is among those of the profiles that were read. -/
theorem any_iff_contains (profile : ServerProfile) :
    (existing.any fun other => other.ip == profile.ip && other.port == profile.port) =
      (existing.map server).contains (server profile) := by
  rw [Bool.eq_iff_iff, List.contains_iff_mem, List.any_eq_true, List.mem_map]
  simp only [server, Bool.and_eq_true, beq_iff_eq, Prod.mk.injEq]

/-- The loop keeps the profiles whose server is new and counts the others. -/
theorem foldl_sortOut (profiles fresh : List ServerProfile) (duplicates : Nat) :
    profiles.foldl (sortOut existing) (fresh, duplicates) =
      (fresh ++ profiles.filter fun profile => !(existing.map server).contains (server profile),
        duplicates + profiles.countP fun profile => (existing.map server).contains (server profile)) := by
  induction profiles generalizing fresh duplicates with
  | nil => simp
  | cons profile rest ih =>
    rw [List.foldl_cons, sortOut, any_iff_contains]
    by_cases present : (existing.map server).contains (server profile) = true
    · rw [if_pos present, ih, List.filter_cons, List.countP_cons, present]
      simp only [Bool.not_true, Bool.false_eq_true, if_false, if_true]
      rw [Nat.add_assoc, Nat.add_comm 1]
    · rw [if_neg present, ih, List.filter_cons, List.countP_cons, if_neg present,
        if_pos (by simpa using present), List.append_assoc, Nat.add_zero]
      rfl

/-- Every profile is new or a duplicate. -/
theorem length_sorted (profiles : List ServerProfile) (holds : ServerProfile → Bool) :
    (profiles.filter fun profile => !holds profile).length + profiles.countP holds =
      profiles.length := by
  have both := List.length_eq_countP_add_countP holds (l := profiles)
  have others : profiles.countP (fun profile => !holds profile) =
      profiles.countP fun profile => decide ¬holds profile = true := by simp
  rw [← List.countP_eq_length_filter, others, Nat.add_comm, both]

end Sorting

section Saving

/-- Profiles are saved up to the first save that fails. -/
theorem saveAll_eq (index : Nat) (profiles stored : List ServerProfile) :
    ∃ count ≤ profiles.length, (∀ offset < count, surroundings.saves (index + offset) = true) ∧
      (count < profiles.length → surroundings.saves (index + count) = false) ∧
      surroundings.saveAll index profiles stored =
        (count == profiles.length, stored ++ profiles.take count) := by
  induction profiles generalizing index stored with
  | nil => exact ⟨0, Nat.le_refl 0, by omega, by simp, by simp [saveAll]⟩
  | cons profile rest ih =>
    cases saved : surroundings.saves index with
    | false =>
      refine ⟨0, Nat.zero_le _, by omega, fun _ => saved, ?_⟩
      rw [saveAll, saveProfile, saved]
      simp
    | true =>
      obtain ⟨count, fits, done, stopped, whole⟩ := ih (index + 1) (stored ++ [profile])
      refine ⟨count + 1, by rw [List.length_cons]; omega, fun offset small => ?_, fun more => ?_, ?_⟩
      · cases offset with
        | zero => exact saved
        | succ offset =>
          rw [Nat.add_comm offset, ← Nat.add_assoc]
          exact done offset (by omega)
      · rw [List.length_cons] at more
        rw [Nat.add_comm count, ← Nat.add_assoc]
        exact stopped (by omega)
      · rw [saveAll, saveProfile, if_pos saved]
        dsimp only
        rw [whole]
        simp

/-- The profiles of a text whose server none of the stored ones has. -/
def freshProfiles (stored : List ServerProfile) (text : Text) : List ServerProfile :=
  (surroundings.profilesOf (extractCandidates text)).filter fun profile =>
    !(stored.map server).contains (server profile)

/-- Their servers are the new ones. -/
theorem freshProfiles_server (stored : List ServerProfile) (text : Text) :
    (surroundings.freshProfiles stored text).map server = newServers stored text := by
  rw [freshProfiles, newServers, ← surroundings.profilesOf_server, List.filter_map]
  rfl

/-- An import stores so many new profiles, up to a save that fails, and reports them if none fails. -/
structure Imports (stored : List ServerProfile) (text : Text) (count : Nat)
    (outcome : ImportResult × List ServerProfile) : Prop where
  /-- Not more are stored than are new. -/
  fits : count ≤ (surroundings.freshProfiles stored text).length
  /-- The new profiles go behind the stored ones. -/
  stores : outcome.2 = stored ++ (surroundings.freshProfiles stored text).take count
  /-- These saves went through. -/
  saved : ∀ index < count, surroundings.saves index = true
  /-- Nothing is stored if the stored profiles cannot be read. -/
  unread : surroundings.readable = false → count = 0
  /-- Otherwise only a save that fails keeps a profile from being stored. -/
  stopped : surroundings.readable = true → count < (surroundings.freshProfiles stored text).length →
    surroundings.saves count = false
  /-- What is reported as imported. -/
  reports : outcome.1.imported =
    if count = (surroundings.freshProfiles stored text).length then count else 0
  /-- Every link is counted. -/
  counts : outcome.1.problem = none →
    outcome.1.imported + outcome.1.duplicates + outcome.1.invalid = (extractCandidates text).length

variable {stored existing : List ServerProfile} {text : Text}

/-- Reading the stored profiles goes through or not. -/
theorem readable_eq_isSome (stored : List ServerProfile) :
    surroundings.readable = (surroundings.getProfiles stored).isSome := by
  unfold getProfiles
  cases surroundings.readable <;> rfl

/-- The profiles that are no duplicates of those that were read are the new ones. -/
theorem foldl_profiles (text : Text) (read : surroundings.getProfiles stored = some existing) :
    ∃ duplicates, (surroundings.profilesOf (extractCandidates text)).foldl (sortOut existing) ([], 0) =
      (surroundings.freshProfiles stored text, duplicates) ∧
      (surroundings.freshProfiles stored text).length + duplicates =
        (surroundings.profilesOf (extractCandidates text)).length := by
  have same : (fun profile => (existing.map server).contains (server profile)) =
      fun profile => (stored.map server).contains (server profile) := by
    funext profile
    rw [Bool.eq_iff_iff, List.contains_iff_mem, List.contains_iff_mem]
    exact ((surroundings.perm_of_getProfiles read).map server).mem_iff
  refine ⟨_, ?_, length_sorted _ fun profile => (stored.map server).contains (server profile)⟩
  rw [foldl_sortOut, List.nil_append, Nat.zero_add, same, freshProfiles]
  congr 2
  funext profile
  rw [congrFun same profile]

/-- An import that stores nothing. -/
theorem imports_nothing {result : ImportResult} (none : result.imported = 0)
    (stopped : surroundings.readable = true → 0 < (surroundings.freshProfiles stored text).length →
      surroundings.saves 0 = false)
    (counts : result.problem = .none →
      result.duplicates + result.invalid = (extractCandidates text).length) :
    surroundings.Imports stored text 0 (result, stored) where
  fits := Nat.zero_le _
  stores := by rw [List.take_zero, List.append_nil]
  saved index small := absurd small (Nat.not_lt_zero index)
  unread _ := rfl
  stopped := stopped
  reports := by rw [none, ite_self]
  counts fine := by
    rw [none, Nat.zero_add]
    exact counts fine

/-- What comes of an import. -/
theorem importText_imports (stored : List ServerProfile) (text : Text) :
    ∃ count, surroundings.Imports stored text count (surroundings.importText stored text) := by
  have fewer := surroundings.length_profilesOf_le (extractCandidates text)
  have readable := surroundings.readable_eq_isSome stored
  unfold importText
  dsimp only
  by_cases empty : surroundings.profilesOf (extractCandidates text) = []
  · rw [if_pos empty]
    refine ⟨0, surroundings.imports_nothing rfl (fun _ some => ?_) fun fine => by cases fine⟩
    rw [freshProfiles, empty] at some
    cases some
  rw [if_neg empty]
  cases read : surroundings.getProfiles stored with
  | none =>
    rw [read] at readable
    exact ⟨0, surroundings.imports_nothing rfl
      (fun right => absurd (readable.symm.trans right) Bool.false_ne_true) fun fine => by cases fine⟩
  | some existing =>
    rw [read] at readable
    obtain ⟨duplicates, sorted, total⟩ := surroundings.foldl_profiles text read
    dsimp only
    rw [sorted]
    dsimp only
    by_cases nothing : surroundings.freshProfiles stored text = []
    · rw [if_pos nothing]
      rw [nothing, List.length_nil] at total
      refine ⟨0, surroundings.imports_nothing rfl (fun _ some => ?_) fun _ => ?_⟩
      · rw [nothing] at some
        cases some
      · dsimp only
        omega
    · rw [if_neg nothing]
      obtain ⟨count, fits, done, stopped, whole⟩ :=
        surroundings.saveAll_eq 0 (surroundings.freshProfiles stored text) stored
      simp only [Nat.zero_add] at done stopped
      have unread (wrong : surroundings.readable = false) : count = 0 :=
        absurd (wrong.symm.trans readable) Bool.false_ne_true
      rw [whole]
      by_cases all : count = (surroundings.freshProfiles stored text).length
      · rw [beq_iff_eq.mpr all]
        refine ⟨count, fits, rfl, done, unread, fun _ => stopped, ?_, fun _ => ?_⟩
        · rw [if_pos all, all]
        · dsimp only
          omega
      · rw [beq_eq_false_iff_ne.mpr all]
        exact ⟨count, fits, rfl, done, unread, fun _ => stopped, (if_neg all).symm,
          fun fine => by cases fine⟩

end Saving

end Surroundings

/-- What an import has to come to: no two profiles with the same server, as many profiles reported
as were added, and every link counted. -/
structure Faithful (stored : List ServerProfile) (text : Text)
    (outcome : ImportResult × List ServerProfile) : Prop where
  /-- No two stored profiles have the same server. -/
  unique : Unique outcome.2
  /-- What is reported as imported was added. -/
  added : ∃ added, outcome.2 = stored ++ added ∧ outcome.1.imported = added.length
  /-- Every link is counted. -/
  counts : outcome.1.problem = none →
    outcome.1.imported + outcome.1.duplicates + outcome.1.invalid = (extractCandidates text).length

section Imports

variable {surroundings : Surroundings} {stored : List ServerProfile} {text : Text} {count : Nat}
  {outcome : ImportResult × List ServerProfile}

/-- The new servers are no stored ones. -/
theorem newServers_disjoint (stored : List ServerProfile) (text : Text) :
    List.Disjoint (stored.map server) (newServers stored text) := by
  intro named old new
  have apart := (List.mem_filter.mp new).2
  rw [List.contains_iff_mem.mpr old] at apart
  cases apart

/-- Profiles stay unique if those that are stored are different servers. -/
theorem unique_iff (unique : Unique stored) (imports : surroundings.Imports stored text count outcome) :
    Unique outcome.2 ↔ ((newServers stored text).take count).Nodup := by
  rw [imports.stores, Unique, List.map_append, List.map_take, surroundings.freshProfiles_server,
    List.nodup_append']
  have apart : List.Disjoint (stored.map server) ((newServers stored text).take count) :=
    List.disjoint_of_subset_right (List.take_subset _ _) (newServers_disjoint stored text)
  exact ⟨fun parts => parts.2.1, fun distinct => ⟨unique, distinct, apart⟩⟩

/-- What was added is reported if nothing or everything new was added. -/
theorem added_iff (imports : surroundings.Imports stored text count outcome) :
    (∃ added, outcome.2 = stored ++ added ∧ outcome.1.imported = added.length) ↔
      count = 0 ∨ count = (newServers stored text).length := by
  have length : (surroundings.freshProfiles stored text).length = (newServers stored text).length := by
    rw [← surroundings.freshProfiles_server, List.length_map]
  have reports := imports.reports
  have fits := imports.fits
  constructor
  · rintro ⟨added, whole, reported⟩
    rw [imports.stores, List.append_cancel_left_eq] at whole
    rw [← whole, List.length_take, Nat.min_eq_left fits, reports] at reported
    split at reported
    · next all => exact .inr (all.trans length)
    · exact .inl reported.symm
  · intro either
    refine ⟨_, imports.stores, ?_⟩
    rw [List.length_take, Nat.min_eq_left fits, reports]
    split
    · rfl
    · next some =>
      rcases either with none | all
      · exact none.symm
      · exact absurd (all.trans length.symm) some

end Imports

/-- An import comes to what it has to if and only if the profiles cannot be read, the first save
fails, or no save fails and the text has no new server twice. -/
theorem faithful_iff_distinct (surroundings : Surroundings) (stored : List ServerProfile) (text : Text)
    (unique : Unique stored) :
    Faithful stored text (surroundings.importText stored text) ↔
      surroundings.readable = false ∨ surroundings.saves 0 = false ∨
        (newServers stored text).Nodup ∧
          ∀ index < (newServers stored text).length, surroundings.saves index = true := by
  obtain ⟨count, imports⟩ := surroundings.importText_imports stored text
  have length : (surroundings.freshProfiles stored text).length = (newServers stored text).length := by
    rw [← surroundings.freshProfiles_server, List.length_map]
  have fits : count ≤ (newServers stored text).length := length ▸ imports.fits
  constructor
  · rintro ⟨stays, added, -⟩
    by_cases readable : surroundings.readable = true
    · rcases (added_iff imports).mp added with none | all
      · by_cases more : count < (newServers stored text).length
        · have stopped := imports.stopped readable (length ▸ more)
          rw [none] at stopped
          exact .inr (.inl stopped)
        · have empty : newServers stored text = [] := List.eq_nil_of_length_eq_zero (by omega)
          refine .inr (.inr ⟨by rw [empty]; exact List.nodup_nil, fun index small => ?_⟩)
          rw [empty] at small
          cases small
      · have distinct := (unique_iff unique imports).mp stays
        rw [List.take_of_length_le (Nat.le_of_eq all.symm)] at distinct
        exact .inr (.inr ⟨distinct, all ▸ imports.saved⟩)
    · exact .inl (Bool.not_eq_true _ ▸ readable)
  · intro condition
    have either : count = 0 ∨ count = (newServers stored text).length ∧
        (newServers stored text).Nodup := by
      rcases condition with unread | failed | ⟨distinct, saved⟩
      · exact .inl (imports.unread unread)
      · refine .inl (Nat.eq_zero_of_not_pos fun positive => ?_)
        exact Bool.false_ne_true (failed.symm.trans (imports.saved 0 positive))
      · cases readable : surroundings.readable with
        | false => exact .inl (imports.unread readable)
        | true =>
          refine .inr ⟨Nat.le_antisymm fits (Nat.le_of_not_lt fun more => ?_), distinct⟩
          have stopped := imports.stopped readable (length ▸ more)
          exact Bool.false_ne_true (stopped.symm.trans (saved count more))
    refine ⟨(unique_iff unique imports).mpr ?_, (added_iff imports).mpr (either.imp_right And.left),
      imports.counts⟩
    rcases either with none | ⟨-, distinct⟩
    · rw [none]
      exact List.nodup_nil
    · exact distinct.sublist (List.take_sublist _ _)

/-- Surroundings in which nothing fails. -/
def calmSurroundings : Surroundings := ⟨id, fun _ => 0, true, fun _ => true⟩

/-- A link that is not stored yet is imported. -/
theorem faithful_iff_distinct_single :
    Faithful [] "csqtt://a@h:1".toList (calmSurroundings.importText [] "csqtt://a@h:1".toList) ↔
      calmSurroundings.readable = false ∨ calmSurroundings.saves 0 = false ∨
        (newServers [] "csqtt://a@h:1".toList).Nodup ∧
          ∀ index < (newServers [] "csqtt://a@h:1".toList).length,
            calmSurroundings.saves index = true :=
  faithful_iff_distinct calmSurroundings [] "csqtt://a@h:1".toList List.nodup_nil

/-- Two links to one server, which is stored twice. -/
theorem repeated_server_stored :
    ¬∀ (surroundings : Surroundings) (stored : List ServerProfile) (text : Text), Unique stored →
      Faithful stored text (surroundings.importText stored text) := by
  intro faithful
  have stays := (faithful calmSurroundings [] "csqtt://a@h:1 csqtt://b@h:1".toList
    List.nodup_nil).unique
  obtain ⟨count, imports⟩ :=
    calmSurroundings.importText_imports [] "csqtt://a@h:1 csqtt://b@h:1".toList
  have twice : newServers [] "csqtt://a@h:1 csqtt://b@h:1".toList =
      [(some "h".toList, some 1), (some "h".toList, some 1)] := by decide
  -- No save fails, so that both are stored.
  have all : ¬count < 2 := by
    intro fewer
    have length : (calmSurroundings.freshProfiles [] "csqtt://a@h:1 csqtt://b@h:1".toList).length =
        2 := by
      rw [← List.length_map server, calmSurroundings.freshProfiles_server, twice]
      rfl
    have failed : true = false := imports.stopped rfl (length ▸ fewer)
    cases failed
  have none : Unique [] := List.nodup_nil
  have distinct := (unique_iff none imports).mp stays
  rw [twice, List.take_of_length_le (Nat.le_of_not_lt all)] at distinct
  exact absurd distinct (by decide)

end Focsq.Import
