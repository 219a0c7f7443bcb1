import Focsq.Verif.DnsCursor

/-!
# Answers of a name server

What a well-formed answer is, written out: names with labels and at most one pointer, questions, and
records of any type. Reading one gives the addresses of its records, in their order and each one
once. A query that is built has a name that ends in front of its type.
-/

namespace Focsq.Dns

section Format

/-- A label of a name. -/
abbrev Label : Type := { bytes : List UInt8 // 0 < bytes.length ∧ bytes.length ≤ 63 }

/-- A label with its length. -/
def Label.encode (label : Label) : List UInt8 := UInt8.ofNat label.val.length :: label.val

/-- A name in a message. -/
structure WireName where
  /-- Its labels. -/
  labels : List Label
  /-- Where the rest of the name is, if it does not end here. -/
  pointer : Option (Fin (2 ^ 14))

/-- What a name ends with. -/
def WireName.ending (name : WireName) : List UInt8 :=
  match name.pointer with
  | none => [0]
  | some pointer => [UInt8.ofNat (0xc0 + pointer.val / 256), UInt8.ofNat pointer.val]

/-- A name as it is sent. -/
def WireName.encode (name : WireName) : List UInt8 :=
  name.labels.flatMap Label.encode ++ name.ending

/-- A question. -/
structure Question where
  /-- What is asked about. -/
  name : WireName
  /-- The type of the records that are asked for. -/
  recordType : UInt16
  /-- Their class. -/
  recordClass : UInt16

/-- A question as it is sent. -/
def Question.encode (question : Question) : List UInt8 :=
  question.name.encode ++
    (Bytes.be 2 question.recordType.toNat ++ Bytes.be 2 question.recordClass.toNat)

/-- A record. -/
structure Record where
  /-- What it is about. -/
  name : WireName
  /-- Its type. -/
  recordType : UInt16
  /-- Its class. -/
  recordClass : UInt16
  /-- How long it holds. -/
  ttl : UInt32
  /-- Its data. -/
  data : List UInt8
  /-- The length of the data is a number of 16 bits. -/
  short : data.length < 2 ^ 16

/-- A record as it is sent. -/
def Record.encode (record : Record) : List UInt8 :=
  record.name.encode ++
    (Bytes.be 2 record.recordType.toNat ++
      (Bytes.be 2 record.recordClass.toNat ++
        (Bytes.be 4 record.ttl.toNat ++ (Bytes.be 2 record.data.length ++ record.data))))

/-- The address in a record of class IN, if its type is A or AAAA. -/
def Record.address? (record : Record) : Option IpAddr :=
  if record.recordClass = 1 then
    if record.recordType = dnsARecord then
      if four : record.data.length = 4 then some (.v4 ⟨record.data, four⟩) else none
    else if record.recordType = dnsAaaaRecord then
      if sixteen : record.data.length = 16 then some (.v6 ⟨record.data, sixteen⟩) else none
    else none
  else none

/-- A well-formed answer. -/
structure Message where
  /-- The number of the query. -/
  id : UInt16
  /-- The flags. -/
  flags : UInt16
  /-- It is an answer. -/
  answered : flags &&& 0x8000 ≠ 0
  /-- It is not cut off. -/
  whole : flags &&& 0x0200 = 0
  /-- There is no error. -/
  succeeded : flags &&& 0x000f = 0
  /-- The questions. -/
  questions : List Question
  /-- Their number has 16 bits. -/
  fewQuestions : questions.length < 2 ^ 16
  /-- The answers. -/
  answers : List Record
  /-- Their number has 16 bits. -/
  fewAnswers : answers.length < 2 ^ 16
  /-- How many authority records there are. -/
  authorities : UInt16
  /-- How many additional records there are. -/
  additionals : UInt16
  /-- The records of the other sections. -/
  others : List UInt8

/-- The header of an answer. -/
def Message.header (message : Message) : List UInt8 :=
  Bytes.be 2 message.id.toNat ++
    (Bytes.be 2 message.flags.toNat ++
      (Bytes.be 2 message.questions.length ++
        (Bytes.be 2 message.answers.length ++
          (Bytes.be 2 message.authorities.toNat ++ Bytes.be 2 message.additionals.toNat))))

/-- An answer as it is sent. -/
def Message.encode (message : Message) : List UInt8 :=
  message.header ++
    (message.questions.flatMap Question.encode ++
      (message.answers.flatMap Record.encode ++ message.others))

/-- The addresses in an answer, in their order and each one once. -/
def Message.addresses (message : Message) : List IpAddr :=
  (message.answers.filterMap Record.address?).eraseDups

end Format

section Names

/-- The two bits in front of the length of a label are clear. -/
theorem label_bits (length : Nat) (short : length ≤ 63) : UInt8.ofNat length &&& 0xc0 = 0 := by
  have all : ∀ length < 64, UInt8.ofNat length &&& 0xc0 = 0 := by decide
  exact all length (by omega)

/-- The two bits in front of a pointer are set. -/
theorem pointer_bits (pointer : Fin (2 ^ 14)) :
    UInt8.ofNat (0xc0 + pointer.val / 256) &&& 0xc0 = 0xc0 := by
  have all : ∀ high < 64, UInt8.ofNat (0xc0 + high) &&& 0xc0 = 0xc0 := by decide
  have small := pointer.isLt
  exact all _ (by omega)

variable {message : Slice} {offset : Nat}

/-- A position that is inside is found. -/
theorem checkedIn_inside {amount : Nat} (context : String)
    (inside : offset + amount ≤ message.bytes.length) :
    checkedIn message offset amount context = .ok (offset + amount) := by
  have fits := message.fits
  rw [checkedIn, checkedAdd, if_pos (by omega), Option.filter_some,
    if_pos (decide_eq_true inside)]

/-- A label is skipped. -/
theorem skipLabel_label {label : Label} (stands : Bytes.At message.bytes offset label.encode) :
    skipLabel message offset = .ok (.again (offset + label.encode.length)) := by
  obtain ⟨bytes, some, short⟩ := label
  have inside := stands.le
  have here := Bytes.At.head stands
  have width : (UInt8.ofNat bytes.length).toNat = bytes.length := by
    rw [UInt8.toNat_ofNat']
    omega
  have bits := label_bits bytes.length short
  have long : UInt8.ofNat bytes.length ≠ 0 := by
    intro zero
    rw [zero] at width
    exact absurd width (Nat.ne_of_lt some)
  have fits := message.fits
  unfold Label.encode at inside ⊢
  rw [List.length_cons] at inside ⊢
  dsimp only at inside ⊢
  rw [skipLabel, here]
  dsimp only
  rw [bits, if_neg (by decide), if_neg (not_not.mpr rfl), checkedAdd, if_pos (by omega)]
  dsimp only
  rw [if_neg long, checkedIn_inside _ (by omega), width]
  show Except.ok (Turn.again (offset + 1 + bytes.length)) = _
  rw [Nat.add_right_comm, Nat.add_assoc]

/-- The end of a name is skipped. -/
theorem skipLabel_ending {name : WireName} (stands : Bytes.At message.bytes offset name.ending) :
    skipLabel message offset = .ok (.returned (offset + name.ending.length)) := by
  have inside := stands.le
  have fits := message.fits
  unfold WireName.ending at stands inside ⊢
  cases ends : name.pointer with
  | none =>
    rw [ends] at stands inside
    have here := Bytes.At.head stands
    rw [List.length_singleton] at inside
    rw [skipLabel, here]
    dsimp only
    rw [if_neg (by decide), if_neg (by decide), checkedAdd, if_pos (by omega)]
    rfl
  | some pointer =>
    rw [ends] at stands inside
    have here := Bytes.At.head stands
    rw [skipLabel, here]
    dsimp only
    have checked (context : String) : checkedIn message offset 2 context = .ok (offset + 2) :=
      checkedIn_inside context inside
    rw [pointer_bits, if_pos rfl, checked]
    rfl

/-- There are not more labels than bytes. -/
theorem length_labels (labels : List Label) :
    labels.length ≤ (labels.flatMap Label.encode).length := by
  induction labels with
  | nil => exact Nat.le_refl 0
  | cons label labels ih =>
    rw [List.flatMap_cons, List.length_append, List.length_cons, Label.encode, List.length_cons]
    omega

/-- The labels of a name are skipped one by one, and then its end. -/
theorem skipLabels_name {name : WireName} {labels : List Label} {fuel : Nat}
    (enough : labels.length < fuel)
    (stands : Bytes.At message.bytes offset (labels.flatMap Label.encode ++ name.ending)) :
    skipLabels message fuel offset =
      .ok (offset + (labels.flatMap Label.encode ++ name.ending).length) := by
  induction labels generalizing offset fuel with
  | nil =>
    obtain ⟨turns, rfl⟩ := Nat.exists_eq_succ_of_ne_zero (Nat.ne_of_gt enough)
    rw [skipLabels, skipLabel_ending stands]
    rfl
  | cons label labels ih =>
    obtain ⟨turns, rfl⟩ := Nat.exists_eq_succ_of_ne_zero (Nat.ne_of_gt (Nat.zero_lt_of_lt enough))
    rw [List.flatMap_cons, List.append_assoc] at stands
    rw [skipLabels, skipLabel_label stands.left]
    dsimp only
    rw [ih (Nat.lt_of_succ_lt_succ enough) stands.right, List.flatMap_cons, List.append_assoc,
      @List.length_append _ label.encode, Nat.add_assoc]

/-- A name is skipped. -/
theorem skipName_name {name : WireName} (stands : Bytes.At message.bytes offset name.encode) :
    skipName message offset = .ok (offset + name.encode.length) := by
  have inside := stands.le
  have labels := length_labels name.labels
  unfold WireName.encode at inside stands ⊢
  rw [List.length_append] at inside
  exact skipLabels_name (by omega) stands

end Names

section Answers

variable {response : Slice} {offset : Nat}

/-- What follows a result. -/
theorem ok_bind {α β : Type} (result : α) (next : α → Except DnsError β) :
    (Except.ok result >>= next) = next result := rfl

/-- A sum of positions in a message is in range. -/
theorem add_small {left right : Nat} (small : left + right < 2 ^ 64) :
    add left right = .ok (left + right) := by
  rw [add, if_pos small]

/-- A number is read. -/
theorem readU16_be {value : Nat} (small : value < 2 ^ 16)
    (stands : Bytes.At response.bytes offset (Bytes.be 2 value)) :
    readU16 response offset = .ok (UInt16.ofNat value) := by
  have inside := stands.le
  have fits := response.fits
  have range := stands.slice
  have bound : value < 256 ^ 2 := small
  rw [Bytes.length_be] at inside range
  rw [readU16, add_small (by omega)]
  show (if offset + 2 ≤ response.bytes.length then _ else _) = _
  rw [if_pos inside, range, Bytes.fromBe_be, Nat.mod_eq_of_lt bound]
  rfl

/-- A number of 16 bits is read. -/
theorem readU16_word {value : UInt16}
    (stands : Bytes.At response.bytes offset (Bytes.be 2 value.toNat)) :
    readU16 response offset = .ok value := by
  rw [readU16_be value.toNat_lt stands, UInt16.ofNat_toNat]

/-- Four bytes are an address. -/
theorem readV4_octets {octets : List UInt8} (four : octets.length = 4)
    (stands : Bytes.At response.bytes offset octets) :
    readV4 response offset = .ok (.v4 ⟨octets, four⟩) := by
  have inside := stands.le
  have fits := response.fits
  obtain ⟨first, second, third, fourth, rfl⟩ : ∃ first second third fourth,
      octets = [first, second, third, fourth] := List.length_eq_four.mp four
  have read {position : Nat} {byte : UInt8} (here : response.bytes[position]? = some byte) :
      index response position = .ok byte := by
    rw [index, here]
  have second := stands.tail
  have third := second.tail
  have fourth := third.tail
  rw [List.length_cons, List.length_cons, List.length_cons, List.length_singleton] at inside
  rw [readV4, read stands.head, add_small (by omega), add_small (by omega), add_small (by omega)]
  simp only [ok_bind]
  rw [read second.head, ok_bind, read third.head, ok_bind, read fourth.head]
  rfl

/-- Sixteen bytes are an address. -/
theorem readV6_octets {octets : List UInt8} (sixteen : octets.length = 16)
    (stands : Bytes.At response.bytes offset octets) :
    readV6 response offset (offset + 16) = .ok (.v6 ⟨octets, sixteen⟩) := by
  have inside := stands.le
  have range := stands.slice
  rw [sixteen] at inside range
  simp only [readV6, if_pos inside, range, dif_pos sixteen]

/-- Nothing is added if the record has no address of this kind. -/
theorem addIf_neg {condition : Prop} [Decidable condition] (address : Except DnsError IpAddr)
    (addresses : List IpAddr) (no : ¬condition) :
    addIf condition address addresses = .ok addresses := by
  rw [addIf, if_neg no]

/-- Of the two branches at most one adds an address, and it is that of the record. -/
theorem addIf_address {record : Record} {β : Type} (addresses : List IpAddr)
    (next : List IpAddr → Except DnsError β) (stands : Bytes.At response.bytes offset record.data) :
    (addIf (record.recordClass = 1 ∧ record.recordType = dnsARecord ∧ record.data.length = 4)
        (readV4 response offset) addresses >>= fun addresses =>
      addIf (record.recordClass = 1 ∧ record.recordType = dnsAaaaRecord ∧ record.data.length = 16)
        (readV6 response offset (offset + record.data.length)) addresses >>= next) =
      next ((record.address?.map (addAddress addresses)).getD addresses) := by
  unfold Record.address?
  by_cases internet : record.recordClass = 1
  · rw [if_pos internet]
    by_cases kind : record.recordType = dnsARecord
    · have other : record.recordType ≠ dnsAaaaRecord := by
        rw [kind]
        decide
      rw [if_pos kind]
      by_cases four : record.data.length = 4
      · rw [dif_pos four, addIf, if_pos ⟨internet, kind, four⟩, readV4_octets four stands]
        show addIf _ _ (addAddress addresses _) >>= next = _
        rw [addIf_neg _ _ fun found => other found.2.1]
        rfl
      · rw [dif_neg four, addIf_neg _ _ fun found => four found.2.2, ok_bind,
          addIf_neg _ _ fun found => other found.2.1]
        rfl
    · rw [if_neg kind, addIf_neg _ _ fun found => kind found.2.1, ok_bind]
      by_cases longKind : record.recordType = dnsAaaaRecord
      · rw [if_pos longKind]
        by_cases sixteen : record.data.length = 16
        · rw [dif_pos sixteen, addIf, if_pos ⟨internet, longKind, sixteen⟩, sixteen,
            readV6_octets sixteen stands]
          rfl
        · rw [dif_neg sixteen, addIf_neg _ _ fun found => sixteen found.2.2]
          rfl
      · rw [if_neg longKind, addIf_neg _ _ fun found => longKind found.2.1]
        rfl
  · rw [if_neg internet, addIf_neg _ _ fun found => internet found.1, ok_bind,
      addIf_neg _ _ fun found => internet found.1]
    rfl

/-- The addresses of a record are read, and the cursor is behind it. -/
theorem readAnswer_record {record : Record} (addresses : List IpAddr)
    (stands : Bytes.At response.bytes offset record.encode) :
    readAnswer response offset addresses = .ok (offset + record.encode.length,
      (record.address?.map (addAddress addresses)).getD addresses) := by
  have inside := stands.le
  have fits := response.fits
  have total : record.encode.length = record.name.encode.length + 10 + record.data.length := by
    simp only [Record.encode, List.length_append, Bytes.length_be]
    omega
  rw [total] at inside
  unfold Record.encode at stands
  have kind := stands.right.left
  have rest := stands.right.right
  rw [Bytes.length_be] at rest
  have set := rest.left
  have rest := rest.right.right
  rw [Bytes.length_be, Bytes.length_be] at rest
  have long := rest.left
  have data := rest.right
  rw [Bytes.length_be, Nat.add_assoc, Nat.add_assoc, Nat.add_assoc] at data
  have width : (UInt16.ofNat record.data.length).toNat = record.data.length :=
    UInt16.toNat_ofNat_of_lt' record.short
  rw [readAnswer, skipName_name stands.left, ok_bind, readU16_word kind, ok_bind,
    add_small (by omega), ok_bind, readU16_word set, ok_bind, add_small (by omega), ok_bind,
    readU16_be record.short long, ok_bind, checkedIn_inside _ (by omega), ok_bind, width,
    checkedIn_inside _ (by omega), ok_bind, addIf_address addresses _ data, total]
  show Except.ok _ = _
  rw [Nat.add_assoc, Nat.add_assoc, Nat.add_assoc]

/-- The addresses of all records are added, one after the other. -/
theorem readAnswers_records {records : List Record} (addresses : List IpAddr)
    (stands : Bytes.At response.bytes offset (records.flatMap Record.encode)) :
    readAnswers response records.length offset addresses =
      .ok ((records.filterMap Record.address?).foldl addAddress addresses) := by
  induction records generalizing offset addresses with
  | nil => rfl
  | cons record records ih =>
    rw [List.flatMap_cons] at stands
    rw [List.length_cons, readAnswers, readAnswer_record addresses stands.left, ok_bind,
      List.filterMap_cons]
    dsimp only
    rw [ih _ stands.right]
    cases record.address? <;> rfl

/-- Adding addresses one by one keeps the first of each. -/
theorem foldl_addAddress (addresses : List IpAddr) :
    addresses.foldl addAddress [] = addresses.eraseDups := by
  induction addresses using List.reverseRecOn with
  | nil => rfl
  | append_singleton addresses address ih =>
    rw [List.foldl_append, ih, List.eraseDups_append]
    show addAddress addresses.eraseDups address = _
    unfold addAddress
    by_cases member : address ∈ addresses
    · rw [if_pos (List.contains_iff_mem.mpr (List.mem_eraseDups.mpr member)), List.removeAll,
        List.filter_cons_of_neg (by simpa using member)]
      exact (List.append_nil _).symm
    · have missing : ¬addresses.eraseDups.contains address = true := fun found =>
        member (List.mem_eraseDups.mp (List.contains_iff_mem.mp found))
      rw [if_neg missing, List.removeAll, List.filter_cons_of_pos (by simpa using member)]
      rfl

/-- The questions are skipped. -/
theorem skipQuestions_questions {questions : List Question}
    (stands : Bytes.At response.bytes offset (questions.flatMap Question.encode)) :
    skipQuestions response questions.length offset =
      .ok (offset + (questions.flatMap Question.encode).length) := by
  induction questions generalizing offset with
  | nil => rfl
  | cons question questions ih =>
    rw [List.flatMap_cons] at stands
    have inside := stands.left.le
    have total : question.encode.length = question.name.encode.length + 4 := by
      simp only [Question.encode, List.length_append, Bytes.length_be]
    have later := ih stands.right
    rw [total] at inside later
    rw [List.length_cons, skipQuestions, skipName_name stands.left.left, ok_bind,
      checkedIn_inside _ (by omega), ok_bind, Nat.add_assoc, later, List.flatMap_cons,
      List.length_append, total, Nat.add_assoc]

/-- The header of a well-formed answer passes the checks. -/
theorem readHeader_message {message : Message}
    (stands : Bytes.At response.bytes 0 message.header) :
    readHeader response message.id = .ok (message.questions.length, message.answers.length) := by
  have inside := stands.le
  have total : message.header.length = 12 := by
    simp only [Message.header, List.length_append, Bytes.length_be]
  rw [total] at inside
  unfold Message.header at stands
  have flags := stands.right
  have questions := flags.right
  have answers := questions.right
  simp only [Bytes.length_be, Nat.zero_add, Nat.reduceAdd] at flags questions answers
  have passes {condition : Prop} [Decidable condition] (reason : DnsError) (no : ¬condition) :
      bailIf condition reason = .ok () := if_neg no
  rw [readHeader, passes _ (by omega), ok_bind, readU16_word stands.left, ok_bind,
    passes _ (not_not.mpr rfl), ok_bind, readU16_word flags.left, ok_bind,
    passes _ message.answered, ok_bind, passes _ (not_not.mpr message.whole), ok_bind]
  dsimp only
  rw [passes _ (not_not.mpr message.succeeded), ok_bind,
    readU16_be message.fewQuestions questions.left, ok_bind,
    readU16_be message.fewAnswers answers.left, ok_bind,
    UInt16.toNat_ofNat_of_lt' message.fewQuestions, UInt16.toNat_ofNat_of_lt' message.fewAnswers]
  rfl

/-- Of a well-formed answer, the addresses are returned. -/
theorem parseResponse_message {message : Message} (same : response.bytes = message.encode) :
    parseResponse response message.id = .ok message.addresses := by
  have stands : Bytes.At response.bytes 0 message.encode :=
    ⟨[], [], rfl, by rw [same, List.append_nil, List.nil_append]⟩
  have total : message.header.length = 12 := by
    simp only [Message.header, List.length_append, Bytes.length_be]
  have body := stands.right
  rw [total] at body
  rw [parseResponse, readHeader_message stands.left, ok_bind]
  dsimp only
  rw [skipQuestions_questions body.left, ok_bind, readAnswers_records [] body.right.left,
    foldl_addAddress]
  rfl

end Answers

section Queries

/-- A text has as many bytes as its characters have. -/
theorem length_asBytes (text : Text) : (asBytes text).length = text.utf8Length := by
  rw [asBytes, List.length_flatMap, Text.utf8Length]
  congr 1
  exact List.map_congr_left fun letter _ => String.length_utf8EncodeChar letter

/-- Labels that are pushed fit into a name. -/
theorem pushLabels_labels {query pushed : List UInt8} {labels : List Text}
    (done : pushLabels query labels = .ok pushed) :
    ∃ name : List Label, name.map Label.encode =
        labels.map (fun label => UInt8.ofNat label.utf8Length :: asBytes label) ∧
      pushed = query ++ name.flatMap Label.encode := by
  induction labels generalizing query with
  | nil =>
    cases done
    exact ⟨[], rfl, (List.append_nil _).symm⟩
  | cons label labels ih =>
    rw [pushLabels] at done
    split at done
    · cases done
    · rename_i fine
      obtain ⟨name, same, whole⟩ := ih done
      have some : 0 < label.utf8Length := by
        cases label with
        | nil => exact absurd (.inl rfl) fine
        | cons letter rest =>
          rw [Text.utf8Length, List.map_cons, List.sum_cons]
          exact Nat.add_pos_left letter.utf8Size_pos _
      have short : label.utf8Length ≤ 63 := Nat.not_lt.mp fun long => fine (.inr (.inl long))
      rw [← length_asBytes] at some short
      have encoded : Label.encode ⟨asBytes label, some, short⟩ =
          UInt8.ofNat label.utf8Length :: asBytes label := by
        rw [← length_asBytes]
        rfl
      refine ⟨⟨asBytes label, some, short⟩ :: name, ?_, ?_⟩
      · rw [List.map_cons, List.map_cons, encoded, same]
      · rw [whole, List.flatMap_cons, encoded, List.append_assoc]

/-- The labels of a host and their lengths have one byte more than the host. -/
theorem length_split (host : Text) :
    ((host.splitOn '.').map fun label =>
      UInt8.ofNat label.utf8Length :: asBytes label).flatten.length = host.utf8Length + 1 := by
  have pieces (labels : List Text) :
      (labels.map fun label => UInt8.ofNat label.utf8Length :: asBytes label).flatten.length =
        (labels.map fun label => label.utf8Length + 1).sum := by
    rw [List.length_flatten, List.map_map]
    congr 1
    refine List.map_congr_left fun label _ => ?_
    rw [Function.comp_apply, List.length_cons, length_asBytes]
  rw [pieces]
  induction host with
  | nil => rfl
  | cons letter rest ih =>
    rw [List.splitOn_cons_eq_if_modifyHead]
    split
    · rename_i dot
      rw [List.map_cons, List.sum_cons, ih, eq_of_beq dot]
      show 0 + 1 + (Text.utf8Length rest + 1) = 1 + Text.utf8Length rest + 1
      omega
    · obtain ⟨first, more, shape⟩ := List.exists_cons_of_ne_nil (List.splitOn_ne_nil '.' rest)
      rw [shape, List.modifyHead_cons, List.map_cons, List.sum_cons]
      rw [shape, List.map_cons, List.sum_cons] at ih
      show letter.utf8Size + Text.utf8Length first + 1 + _ =
        letter.utf8Size + Text.utf8Length rest + 1
      omega

/-- The header of a query has twelve bytes. -/
theorem length_queryHeader (queryId : UInt16) : (queryHeader queryId).length = 12 := by
  simp only [queryHeader, List.length_append, Bytes.length_be]

/-- A query has one question, and fits in a datagram. -/
theorem buildQuery_question {host : Text} {queryId recordType : UInt16} {query : List UInt8}
    (built : buildQuery host queryId recordType = .ok query) :
    ∃ name : WireName, query = queryHeader queryId ++
        (name.encode ++ (Bytes.be 2 recordType.toNat ++ Bytes.be 2 1)) ∧ query.length ≤ 271 := by
  unfold buildQuery bailIf at built
  dsimp only at built
  split at built
  · cases built
  · rename_i fine
    have short : Text.utf8Length (host.rdropWhile (· == '.')) ≤ 253 :=
      Nat.not_lt.mp fun long => fine (.inr long)
    rw [ok_bind] at built
    cases result : pushLabels (queryHeader queryId) ((host.rdropWhile (· == '.')).splitOn '.') with
    | error reason =>
      rw [result] at built
      cases built
    | ok pushed =>
      rw [result, ok_bind] at built
      cases built
      obtain ⟨labels, same, whole⟩ := pushLabels_labels result
      have total : (labels.flatMap Label.encode).length =
          Text.utf8Length (host.rdropWhile (· == '.')) + 1 := by
        rw [List.flatMap_def, same, length_split]
      refine ⟨⟨labels, none⟩, ?_, ?_⟩
      · rw [whole]
        simp only [WireName.encode, WireName.ending, List.append_assoc]
      · rw [whole]
        simp only [List.length_append, length_queryHeader, Bytes.length_be, total,
          List.length_singleton]
        omega

/-- A query is skipped up to the type of the records. -/
theorem skipName_query {host : Text} {queryId recordType : UInt16} {query : List UInt8}
    (built : buildQuery host queryId recordType = .ok query) :
    ∃ fits offset, skipName ⟨query, fits⟩ 12 = .ok offset ∧ offset + 4 = query.length ∧
      readU16 ⟨query, fits⟩ offset = .ok recordType := by
  obtain ⟨name, whole, short⟩ := buildQuery_question built
  have twelve := length_queryHeader queryId
  have fits : query.length < 2 ^ 63 := by omega
  have stands : Bytes.At query 12
      (name.encode ++ (Bytes.be 2 recordType.toNat ++ Bytes.be 2 1)) :=
    ⟨queryHeader queryId, [], twelve, by rw [whole, List.append_nil]⟩
  refine ⟨fits, 12 + name.encode.length, skipName_name stands.left, ?_,
    readU16_word stands.right.left⟩
  rw [whole]
  simp only [List.length_append, Bytes.length_be, twelve]
  omega

/-- Reading an answer gives its addresses, it ends on every message without an index out of range,
and a query is read up to the type of the records. -/
theorem parseResponse_exact :
    (∀ (response : Slice) (message : Message), response.bytes = message.encode →
      parseResponse response message.id = .ok message.addresses) ∧
    (∀ (response : Slice) (queryId : UInt16),
      parseResponse response queryId ≠ .error .panic ∧
        parseResponse response queryId ≠ .error .unfinished) ∧
    ∀ (host : Text) (queryId recordType : UInt16) (query : List UInt8),
      buildQuery host queryId recordType = .ok query →
        ∃ fits offset, skipName ⟨query, fits⟩ 12 = .ok offset ∧ offset + 4 = query.length ∧
          readU16 ⟨query, fits⟩ offset = .ok recordType := by
  refine ⟨fun response message same => parseResponse_message same, fun response queryId => ?_,
    fun host queryId recordType query built => skipName_query built⟩
  have orderly := orderly_parseResponse response queryId
  constructor
  · intro panics
    rw [panics] at orderly
    cases orderly
  · intro endless
    rw [endless] at orderly
    cases orderly

/-- An answer about a host of two labels, with a pointer to its name in front of the address. -/
def compressed : Message where
  id := 0x1234
  flags := 0x8180
  answered := by decide
  whole := by decide
  succeeded := by decide
  questions :=
    [⟨⟨[⟨asBytes ['v', 'k'], by decide⟩, ⟨asBytes ['r', 'u'], by decide⟩], none⟩, dnsARecord, 1⟩]
  fewQuestions := by decide
  answers := [⟨⟨[], some 12⟩, dnsARecord, 1, 60, [77, 88, 8, 8], by decide⟩]
  fewAnswers := by decide
  authorities := 0
  additionals := 0
  others := []

/-- The bytes of this answer fit in a slice. -/
def compressedSlice : Slice := ⟨compressed.encode, by decide⟩

/-- The address of a compressed answer is read, and the query for it is skipped. -/
theorem parseResponse_exact_compressed :
    parseResponse compressedSlice 0x1234 = .ok [.v4 ⟨[77, 88, 8, 8], rfl⟩] ∧
      ∃ fits offset, skipName ⟨[0x12, 0x34, 1, 0, 0, 1, 0, 0, 0, 0, 0, 0, 2, 118, 107, 2, 114, 117,
          0, 0, 1, 0, 1], fits⟩ 12 = .ok offset ∧ offset + 4 = 23 ∧
        readU16 ⟨[0x12, 0x34, 1, 0, 0, 1, 0, 0, 0, 0, 0, 0, 2, 118, 107, 2, 114, 117, 0, 0, 1, 0,
          1], fits⟩ offset = .ok dnsARecord :=
  ⟨parseResponse_exact.1 compressedSlice compressed rfl,
    parseResponse_exact.2.2 ['v', 'k', '.', 'r', 'u'] 0x1234 dnsARecord _ rfl⟩

end Queries

end Focsq.Dns
