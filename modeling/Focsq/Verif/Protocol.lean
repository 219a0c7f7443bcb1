import Focsq.Backend.Protocol

/-!
# Stream commands

A command about streams is parsed if and only if it is the encoding of a command about existing
streams, and there are no more than 126 streams. But the client normalises the number of its
workers to at most 162, so with more than 126 of them it understands no command.
-/

namespace Focsq.Protocol

section Encoding

/-- The bytes of numbers of streams. -/
def encodeIds (workerIds : List UInt16) : List UInt8 :=
  workerIds.flatMap fun workerId => Bytes.be 2 workerId.toNat

/-- The bytes of a command. -/
def StreamRepairCommand.encode (lead : List UInt8) (command : StreamRepairCommand) : List UInt8 :=
  lead ++ (Bytes.be 8 command.sequence.toNat ++ (Bytes.be 2 command.desiredCount.toNat ++
    UInt8.ofNat command.workerIds.length :: encodeIds command.workerIds))

/-- A command is about some of the streams, at most as many as its count can say. -/
structure StreamRepairCommand.Addressed (command : StreamRepairCommand) : Prop where
  /-- Commands are counted from one. -/
  numbered : 1 ≤ command.sequence
  /-- There are streams it is about. -/
  some : command.workerIds ≠ []
  /-- They can be counted. -/
  counted : command.workerIds.length ≤ 255
  /-- Streams are counted from one. -/
  inRange : ∀ workerId ∈ command.workerIds, 1 ≤ workerId ∧ workerId ≤ command.desiredCount

/-- Numbers of streams take two bytes each. -/
theorem length_encodeIds (workerIds : List UInt16) :
    (encodeIds workerIds).length = workerIds.length * 2 := by
  induction workerIds with
  | nil => rfl
  | cons workerId rest ih =>
    have split : encodeIds (workerId :: rest) = Bytes.be 2 workerId.toNat ++ encodeIds rest := rfl
    rw [split, List.length_append, Bytes.length_be, ih, List.length_cons]
    omega

/-- The bytes of numbers of streams are read if all are in range. -/
theorem readWorkerIds_encodeIds {desiredCount : UInt16} {workerIds : List UInt16}
    (inRange : ∀ workerId ∈ workerIds, 1 ≤ workerId ∧ workerId ≤ desiredCount) :
    readWorkerIds desiredCount (encodeIds workerIds) = some workerIds := by
  induction workerIds with
  | nil => rfl
  | cons workerId rest ih =>
    have split : encodeIds (workerId :: rest) = UInt8.ofNat (workerId.toNat / 256) ::
        UInt8.ofNat workerId.toNat :: encodeIds rest := rfl
    have same : UInt16.ofNat (Bytes.fromBe
        [UInt8.ofNat (workerId.toNat / 256), UInt8.ofNat workerId.toNat]) = workerId :=
      Bytes.uint16_be workerId
    have here := inRange workerId List.mem_cons_self
    have valid : ¬(workerId = 0 ∨ desiredCount < workerId) := by
      rintro (zero | large)
      · rw [zero] at here
        exact absurd here.1 (by decide)
      · exact UInt16.not_le.mpr large here.2
    have later := ih fun other member => inRange other (List.mem_cons_of_mem _ member)
    rw [split, readWorkerIds, same, if_neg valid, later, Option.map_some]

/-- What is read as numbers of streams is their encoding, and all are in range. -/
theorem encodeIds_of_readWorkerIds {desiredCount : UInt16} {count : Nat} {ids : List UInt8}
    {workerIds : List UInt16} (even : ids.length = count * 2)
    (read : readWorkerIds desiredCount ids = some workerIds) :
    ids = encodeIds workerIds ∧ workerIds.length = count ∧
      ∀ workerId ∈ workerIds, 1 ≤ workerId ∧ workerId ≤ desiredCount := by
  induction count generalizing ids workerIds with
  | zero =>
    have none : ids = [] := List.length_eq_zero_iff.mp (by omega)
    rw [none, readWorkerIds, Option.some.injEq] at read
    · rw [none, ← read]
      exact ⟨rfl, rfl, fun workerId member => absurd member List.not_mem_nil⟩
    · exact fun _ _ _ cons => List.cons_ne_nil _ _ cons.symm
  | succ count ih =>
    rcases ids with _ | ⟨high, _ | ⟨low, rest⟩⟩
    · simp at even
    · simp at even
      omega
    · rw [List.length_cons, List.length_cons] at even
      rw [readWorkerIds] at read
      by_cases invalid : UInt16.ofNat (Bytes.fromBe [high, low]) = 0 ∨
          desiredCount < UInt16.ofNat (Bytes.fromBe [high, low])
      · rw [if_pos invalid] at read
        cases read
      · rw [if_neg invalid, Option.map_eq_some_iff] at read
        obtain ⟨later, fromRest, rfl⟩ := read
        obtain ⟨whole, length, inRange⟩ := ih (by omega) fromRest
        have digits : [high, low] =
            Bytes.be 2 (UInt16.ofNat (Bytes.fromBe [high, low])).toNat :=
          (Bytes.be_uint16 rfl).symm
        have bounds := not_or.mp invalid
        refine ⟨?_, by rw [List.length_cons, length], fun workerId member => ?_⟩
        · show [high, low] ++ rest = Bytes.be 2 _ ++ encodeIds later
          rw [← digits, whole]
        · rcases List.mem_cons.mp member with rfl | other
          · have positive : 0 < UInt16.ofNat (Bytes.fromBe [high, low]) :=
              UInt16.pos_iff_ne_zero.mpr bounds.1
            exact ⟨UInt16.le_iff_toNat_le.mpr (UInt16.lt_iff_toNat_lt.mp positive),
              UInt16.not_lt.mp bounds.2⟩
          · exact inRange workerId other

end Encoding

section Parse

/-- What is parsed begins as it should. -/
theorem lead_of_parseStreamCommand {payload lead : List UInt8} {command : StreamRepairCommand}
    (parsed : parseStreamCommand payload lead = some command) : lead <+: payload := by
  unfold parseStreamCommand at parsed
  by_cases begins : lead.isPrefixOf payload
  · exact List.isPrefixOf_iff_prefix.mp begins
  · rw [if_neg begins] at parsed
    cases parsed

/-- The fields of a payload that begins as it should. -/
theorem parseStreamCommand_fields (lead : List UInt8) {sequence desired : List UInt8}
    (count : UInt8) (ids : List UInt8) (eight : sequence.length = 8) (two : desired.length = 2) :
    parseStreamCommand (lead ++ (sequence ++ (desired ++ count :: ids))) lead =
      if UInt64.ofNat (Bytes.fromBe sequence) = 0 ∨ UInt16.ofNat (Bytes.fromBe desired) = 0 ∨
          maxStreamWorkers < UInt16.ofNat (Bytes.fromBe desired) ∨
          ids.length ≠ count.toNat * 2 then none
      else
        (readWorkerIds (UInt16.ofNat (Bytes.fromBe desired)) ids).bind fun workerIds =>
          if workerIds.isEmpty then none
          else some ⟨UInt64.ofNat (Bytes.fromBe sequence), UInt16.ofNat (Bytes.fromBe desired),
            workerIds⟩ := by
  have begins : lead.isPrefixOf (lead ++ (sequence ++ (desired ++ count :: ids))) = true :=
    List.isPrefixOf_iff_prefix.mpr (List.prefix_append _ _)
  have long : ¬(sequence ++ (desired ++ count :: ids)).length < 11 := by
    rw [List.length_append, List.length_append, List.length_cons, eight, two]
    omega
  have first : Bytes.slice (sequence ++ (desired ++ count :: ids)) 0 8 = sequence := by
    have segment := Bytes.slice_segment [] sequence (desired ++ count :: ids)
    rw [List.nil_append, List.length_nil, eight] at segment
    exact segment
  have second : Bytes.slice (sequence ++ (desired ++ count :: ids)) 8 10 = desired := by
    have segment := Bytes.slice_segment sequence desired (count :: ids)
    rw [eight, two] at segment
    exact segment
  have third : (sequence ++ (desired ++ count :: ids))[10]? = some count := by
    rw [← List.append_assoc, List.getElem?_append_right (by simp [eight, two])]
    simp [eight, two]
  have fourth : (sequence ++ (desired ++ count :: ids)).drop 11 = ids := by
    have front : (sequence ++ desired ++ [count]).length = 11 := by simp [eight, two]
    have split : sequence ++ (desired ++ count :: ids) = sequence ++ desired ++ [count] ++ ids := by
      simp
    rw [split, ← front, List.drop_left]
  unfold parseStreamCommand
  rw [if_pos begins, List.drop_left, if_neg long, first, second, third, fourth, Option.getD_some]

/-- What can be parsed has all fields. -/
theorem exists_fields {rest : List UInt8} (long : 11 ≤ rest.length) :
    ∃ (sequence desired : List UInt8) (count : UInt8) (ids : List UInt8),
      rest = sequence ++ (desired ++ count :: ids) ∧ sequence.length = 8 ∧ desired.length = 2 := by
  obtain ⟨sequence, desired, back, split, eight, two, length⟩ :=
    Bytes.exists_segments rest 8 2 (rest.length - 10) (by omega)
  cases back with
  | nil =>
    rw [List.length_nil] at length
    omega
  | cons count ids => exact ⟨sequence, desired, count, ids, split, eight, two⟩

/-- A payload is parsed if and only if it is the encoding of a command about existing streams, of
which there are not too many. -/
theorem parseStreamCommand_eq_some (payload lead : List UInt8) (command : StreamRepairCommand) :
    parseStreamCommand payload lead = some command ↔
      payload = command.encode lead ∧ command.Addressed ∧
        command.desiredCount ≤ maxStreamWorkers := by
  constructor
  · intro parsed
    obtain ⟨rest, rfl⟩ := lead_of_parseStreamCommand parsed
    have long : 11 ≤ rest.length := by
      by_contra short
      have begins : lead.isPrefixOf (lead ++ rest) = true :=
        List.isPrefixOf_iff_prefix.mpr (List.prefix_append _ _)
      unfold parseStreamCommand at parsed
      rw [if_pos begins, List.drop_left, if_pos (Nat.lt_of_not_le short)] at parsed
      cases parsed
    obtain ⟨sequence, desired, count, ids, rfl, eight, two⟩ := exists_fields long
    rw [parseStreamCommand_fields lead count ids eight two] at parsed
    by_cases refused : UInt64.ofNat (Bytes.fromBe sequence) = 0 ∨
        UInt16.ofNat (Bytes.fromBe desired) = 0 ∨
        maxStreamWorkers < UInt16.ofNat (Bytes.fromBe desired) ∨ ids.length ≠ count.toNat * 2
    · rw [if_pos refused] at parsed
      cases parsed
    · rw [if_neg refused, Option.bind_eq_some_iff] at parsed
      obtain ⟨workerIds, read, built⟩ := parsed
      obtain ⟨numbered, _, bounded, even⟩ : _ ∧ _ ∧ _ ∧ _ := by simpa only [not_or] using refused
      obtain ⟨whole, length, inRange⟩ := encodeIds_of_readWorkerIds (not_not.mp even) read
      by_cases none : workerIds.isEmpty
      · rw [if_pos none] at built
        cases built
      · rw [if_neg none, Option.some.injEq] at built
        subst built
        have small := count.toNat_lt
        refine ⟨?_, ⟨?_, mt List.isEmpty_iff.mpr none, by simp only; omega, inRange⟩,
          UInt16.not_lt.mp bounded⟩
        · simp only [StreamRepairCommand.encode, Bytes.be_uint64 eight, Bytes.be_uint16 two, length,
            UInt8.ofNat_toNat, ← whole]
        · have positive : 0 < UInt64.ofNat (Bytes.fromBe sequence) :=
            UInt64.pos_iff_ne_zero.mpr numbered
          exact UInt64.le_iff_toNat_le.mpr (UInt64.lt_iff_toNat_lt.mp positive)
  · rintro ⟨rfl, addressed, bounded⟩
    have count : (UInt8.ofNat command.workerIds.length).toNat = command.workerIds.length :=
      UInt8.toNat_ofNat_of_lt' (Nat.lt_succ_of_le addressed.counted)
    have numbered : command.sequence ≠ 0 := by
      intro zero
      have positive := addressed.numbered
      rw [zero] at positive
      exact absurd positive (by decide)
    have some_streams : command.desiredCount ≠ 0 := by
      obtain ⟨workerId, member⟩ := List.exists_mem_of_ne_nil _ addressed.some
      have range := addressed.inRange workerId member
      intro zero
      rw [zero] at range
      exact absurd (UInt16.le_trans range.1 range.2) (by decide)
    have accepted : ¬(command.sequence = 0 ∨ command.desiredCount = 0 ∨
        maxStreamWorkers < command.desiredCount ∨
        command.workerIds.length * 2 ≠ command.workerIds.length * 2) := by
      rintro (zero | zero | large | differ)
      · exact numbered zero
      · exact some_streams zero
      · exact UInt16.not_le.mpr large bounded
      · exact differ rfl
    have present : ¬command.workerIds.isEmpty = true := mt List.isEmpty_iff.mp addressed.some
    rw [StreamRepairCommand.encode,
      parseStreamCommand_fields lead _ _ (Bytes.length_be _ _) (Bytes.length_be _ _),
      Bytes.uint64_be, Bytes.uint16_be, count, length_encodeIds, if_neg accepted,
      readWorkerIds_encodeIds addressed.inRange, Option.bind_some, if_neg present]

end Parse

section WorkerCounts

/-- The client has whole groups of workers, from one to eighteen. -/
theorem normalizeWorkerCountForHashes_groups (requested hashCount : Nat)
    (allowHashRedistribution : Bool) :
    ∃ groups, 1 ≤ groups ∧ groups ≤ 18 ∧
      normalizeWorkerCountForHashes requested hashCount allowHashRedistribution = groups * 9 := by
  have whole : ∃ groups, 1 ≤ groups ∧ groups ≤ 18 ∧ normalizeWorkerCount requested = groups * 9 := by
    refine ⟨min (max requested 9) 162 / 9, ?_, ?_, rfl⟩
    · omega
    · omega
  obtain ⟨groups, some, most, same⟩ := whole
  cases allowHashRedistribution with
  | true => exact ⟨groups, some, most, same⟩
  | false =>
    have limited : normalizeWorkerCountForHashes requested hashCount false =
        min (groups * 9) (min (max hashCount 1) 6 * 3 * 9) := by
      rw [← same]
      rfl
    exact ⟨min groups (min (max hashCount 1) 6 * 3), by omega, by omega, by omega⟩

/-- A command that counts the workers of a client is parsed back if and only if there are at most
126 of them, and nothing but an encoding of a command is parsed. -/
theorem streamCommands_understood (requested hashCount : Nat) (allowHashRedistribution : Bool)
    (command : StreamRepairCommand)
    (counts : command.desiredCount.toNat =
      normalizeWorkerCountForHashes requested hashCount allowHashRedistribution)
    (addressed : command.Addressed) :
    ((parseStreamRepair (command.encode streamRepairPrefix) = some command ∧
        parseStreamAlive (command.encode streamAlivePrefix) = some command) ↔
      normalizeWorkerCountForHashes requested hashCount allowHashRedistribution ≤ 126) ∧
      ∀ payload,
        ((∀ other : StreamRepairCommand, other.Addressed →
          payload ≠ other.encode streamRepairPrefix) → parseStreamRepair payload = none) ∧
        ((∀ other : StreamRepairCommand, other.Addressed →
          payload ≠ other.encode streamAlivePrefix) → parseStreamAlive payload = none) := by
  have exact_parse (lead : List UInt8) :
      parseStreamCommand (command.encode lead) lead = some command ↔
        normalizeWorkerCountForHashes requested hashCount allowHashRedistribution ≤ 126 := by
    rw [parseStreamCommand_eq_some, ← counts]
    exact ⟨fun parsed => UInt16.le_iff_toNat_le.mp parsed.2.2,
      fun small => ⟨rfl, addressed, UInt16.le_iff_toNat_le.mpr small⟩⟩
  have nothing_else (lead payload : List UInt8) (never : ∀ other : StreamRepairCommand,
      other.Addressed → payload ≠ other.encode lead) : parseStreamCommand payload lead = none := by
    by_contra parsed
    obtain ⟨other, same⟩ := Option.ne_none_iff_exists'.mp parsed
    have encoded := (parseStreamCommand_eq_some payload lead other).mp same
    exact never other encoded.2.1 encoded.1
  refine ⟨⟨fun both => (exact_parse _).mp both.1,
    fun small => ⟨(exact_parse _).mpr small, (exact_parse _).mpr small⟩⟩, fun payload => ?_⟩
  exact ⟨nothing_else _ payload, nothing_else _ payload⟩

/-- Two of thirty-six streams. -/
def twoStreams : StreamRepairCommand := ⟨9, 36, [14, 28]⟩

/-- The command about them is understood. -/
theorem twoStreams_understood :
    parseStreamRepair (twoStreams.encode streamRepairPrefix) = some twoStreams ∧
      parseStreamAlive (twoStreams.encode streamAlivePrefix) = some twoStreams := by
  have addressed : twoStreams.Addressed := ⟨by decide, by decide, by decide,
    List.forall_mem_cons.mpr ⟨by decide, List.forall_mem_singleton.mpr (by decide)⟩⟩
  have counts : normalizeWorkerCountForHashes 36 2 false = 36 := by decide +kernel
  refine (streamCommands_understood 36 2 false twoStreams counts.symm addressed).1.mpr ?_
  rw [counts]
  decide

/-- The first one of 135 streams. -/
def firstOfMany : StreamRepairCommand := ⟨1, 135, [1]⟩

/-- Five hashes allow 135 workers, and the command about the first one is not understood. -/
theorem firstOfMany_refused :
    firstOfMany.desiredCount.toNat = normalizeWorkerCountForHashes 162 5 false ∧
      firstOfMany.Addressed ∧
      parseStreamRepair (firstOfMany.encode streamRepairPrefix) = none ∧
      parseStreamAlive (firstOfMany.encode streamAlivePrefix) = none :=
  ⟨by decide +kernel, ⟨by decide, by decide, by decide, List.forall_mem_singleton.mpr (by decide)⟩,
    by decide +kernel, by decide +kernel⟩

end WorkerCounts

end Focsq.Protocol
