import Focsq.Backend.StunCodec

/-!
# Messages with a common beginning

Two messages with the same bytes up to the end of an attribute have the same attributes up to
that one, whatever follows it. Only the length field in the header may differ, which tells where
the attributes end.
-/

namespace Focsq.Stun

/-- Two datagrams have the same bytes up to a position, except in the length field. -/
def AgreeTo (limit : Nat) (first second : List UInt8) : Prop :=
  ∀ position < limit, position < 2 ∨ 4 ≤ position → first[position]? = second[position]?

instance decidableAgreeTo (limit : Nat) (first second : List UInt8) :
    Decidable (AgreeTo limit first second) :=
  inferInstanceAs (Decidable (∀ position < limit, _ → _))

/-- The same numbers are read from both. -/
theorem AgreeTo.same_u16 {limit : Nat} {first second : List UInt8}
    (agree : AgreeTo limit first second) (position : Nat)
    (place : position = 0 ∨ 4 ≤ position) (inside : position + 2 ≤ limit) :
    u16At first position = u16At second position := by
  unfold u16At
  rw [Bytes.slice_congr first second]
  intro index low high
  exact agree index (by omega) (by omega)

/-- The same slices are read from both. -/
theorem AgreeTo.same_slice {limit : Nat} {first second : List UInt8}
    (agree : AgreeTo limit first second) (start stop : Nat) (place : 4 ≤ start)
    (inside : stop ≤ limit) :
    Bytes.slice first start stop = Bytes.slice second start stop := by
  apply Bytes.slice_congr
  intro index low high
  exact agree index (by omega) (Or.inr (by omega))

/-- Lengths are padded to at least themselves. -/
theorem le_padded (length : Nat) : length ≤ padded length := by
  unfold padded
  omega

/-- An attribute ends behind its value. -/
theorem attributeAt_next (raw : List UInt8) (position : Nat) :
    (attributeAt raw position).next =
      position + 4 + padded (u16At raw (position + 2)).toNat := by
  unfold Attribute.next attributeAt
  rw [Nat.add_sub_cancel_left]

/-- The same attribute is read from both, if it ends in the common part. -/
theorem AgreeTo.same_attribute {limit : Nat} {first second : List UInt8}
    (agree : AgreeTo limit first second) (position : Nat) (place : 4 ≤ position)
    (inside : position + 4 + (u16At first (position + 2)).toNat ≤ limit) :
    attributeAt first position = attributeAt second position := by
  have kind := agree.same_u16 position (Or.inr place) (by omega)
  have length := agree.same_u16 (position + 2) (Or.inr (by omega)) (by omega)
  have value := agree.same_slice (position + 4)
    (position + 4 + (u16At first (position + 2)).toNat) (by omega) inside
  unfold attributeAt
  simp only [← kind, ← length, value]

/-- Attributes come in the order of their positions. -/
theorem le_headerStart (raw : List UInt8) (stop fuel position : Nat) (entry : Attribute)
    (member : entry ∈ attributesFrom raw stop fuel position) : position ≤ entry.headerStart := by
  induction fuel generalizing position with
  | zero => cases member
  | succ fuel ih =>
    unfold attributesFrom at member
    split at member
    · cases member
    · cases List.mem_cons.mp member with
      | inl here =>
        rw [here]
        exact Nat.le_refl _
      | inr later =>
        have after := ih _ later
        rw [attributeAt_next] at after
        omega

/-- Where an attribute was read. -/
theorem eq_attributeAt (raw : List UInt8) (stop fuel position : Nat) (entry : Attribute)
    (member : entry ∈ attributesFrom raw stop fuel position) :
    entry = attributeAt raw entry.headerStart := by
  induction fuel generalizing position with
  | zero => cases member
  | succ fuel ih =>
    unfold attributesFrom at member
    split at member
    · cases member
    · cases List.mem_cons.mp member with
      | inl here =>
        rw [here]
        rfl
      | inr later => exact ih _ later

/-- The attributes of two datagrams up to the first one of a kind, when the datagrams agree up to
its end. -/
theorem attributesFrom_shared {raw other : List UInt8} {stop otherStop limit : Nat}
    (agree : AgreeTo limit raw other) (fits : limit ≤ otherStop) (kind : UInt16)
    (target : Attribute) (ends : target.headerStart + 4 +
      (u16At raw (target.headerStart + 2)).toNat = limit)
    (fuel otherFuel position : Nat) (place : 4 ≤ position)
    (enough : otherStop ≤ position + otherFuel)
    (found : (attributesFrom raw stop fuel position).find? (·.kind == kind) = some target) :
    ∃ before rest otherRest,
      attributesFrom raw stop fuel position = before ++ target :: rest ∧
      attributesFrom other otherStop otherFuel position = before ++ target :: otherRest ∧
      (∀ entry ∈ before, (entry.kind == kind) = false) ∧
      ∀ entry ∈ rest, target.headerStart < entry.headerStart := by
  induction fuel generalizing otherFuel position with
  | zero => cases found
  | succ fuel ih =>
    have low := le_headerStart raw stop (fuel + 1) position target
      (List.mem_of_find?_eq_some found)
    have more : ¬otherStop ≤ position := by omega
    cases otherFuel with
    | zero => omega
    | succ otherFuel =>
      unfold attributesFrom at found ⊢
      rw [if_neg more]
      split at found
      · cases found
      · rename_i inside
        rw [if_neg inside]
        cases hit : (attributeAt raw position).kind == kind with
        | true =>
          -- the first attribute is the one that is looked for
          rw [List.find?_cons, hit] at found
          cases found
          have same := agree.same_attribute position place (Nat.le_of_eq ends)
          refine ⟨[], attributesFrom raw stop fuel (attributeAt raw position).next,
            attributesFrom other otherStop otherFuel (attributeAt raw position).next, rfl, ?_,
            by simp, ?_⟩
          · rw [← same]
            rfl
          · intro entry member
            have after := le_headerStart raw stop fuel _ entry member
            rw [attributeAt_next] at after
            show position < entry.headerStart
            omega
        | false =>
          -- it comes later, so the first attribute ends in the common part
          rw [List.find?_cons, hit] at found
          have after := le_headerStart raw stop fuel _ target (List.mem_of_find?_eq_some found)
          have next := attributeAt_next raw position
          have padding := le_padded (u16At raw (position + 2)).toNat
          have same := agree.same_attribute position place (by omega)
          obtain ⟨before, rest, otherRest, left, right, none, behind⟩ :=
            ih otherFuel (attributeAt raw position).next (by omega) (by omega) found
          refine ⟨attributeAt raw position :: before, rest, otherRest, ?_, ?_, ?_, behind⟩
          · rw [left]
            rfl
          · rw [← same, right]
            rfl
          · intro entry member
            cases List.mem_cons.mp member with
            | inl here => rw [here, hit]
            | inr later => exact none entry later

/-- When a datagram is accepted. -/
theorem decode_ok_iff (raw : List UInt8) (message : Message) :
    Message.decode raw = .ok message ↔
      headerSize ≤ raw.length ∧ u16At raw 0 &&& 0xc000 = 0 ∧ u16At raw 0 ≠ 0 ∧
        Bytes.slice raw 4 8 = Bytes.be 4 magicCookie.toNat ∧ (u16At raw 2).toNat % 4 = 0 ∧
        raw.length = headerSize + (u16At raw 2).toNat ∧
        checkAttributes raw raw.length raw.length headerSize = .ok () ∧
        message = { raw, kind := u16At raw 0, transaction := .ofList (Bytes.slice raw 8 20),
                    stop := raw.length } := by
  constructor
  · intro decoded
    simp only [Message.decode, bind, Except.bind, pure, Except.pure, throw, throwThe,
      MonadExceptOf.throw] at decoded
    split at decoded
    · cases decoded
    rename_i long
    split at decoded
    · cases decoded
    rename_i leading
    split at decoded
    · cases decoded
    rename_i kind
    split at decoded
    · cases decoded
    rename_i cookie
    split at decoded
    · cases decoded
    rename_i aligned
    split at decoded
    · cases decoded
    rename_i whole
    simp only [bne_iff_ne, ne_eq, not_not] at leading cookie aligned whole
    rw [beq_iff_eq] at kind
    rw [← whole] at decoded
    split at decoded
    · cases decoded
    rename_i checked
    cases decoded
    exact ⟨Nat.not_lt.mp long, leading, kind, cookie, aligned, whole, checked, rfl⟩
  · rintro ⟨long, leading, kind, cookie, aligned, whole, checked, rfl⟩
    simp only [Message.decode, bind, Except.bind, pure, Except.pure, throw, throwThe,
      MonadExceptOf.throw]
    rw [if_neg (Nat.not_lt.mpr long), if_neg (by simpa using leading), if_neg (by simpa using kind),
      if_neg (by simpa using cookie), if_neg (by simpa using aligned), if_neg (by simpa using whole),
      ← whole, checked]

/-- What a decoded message consists of. -/
theorem decode_ok {raw : List UInt8} {message : Message}
    (decoded : Message.decode raw = .ok message) :
    message = { raw, kind := u16At raw 0, transaction := .ofList (Bytes.slice raw 8 20),
                stop := raw.length } ∧ headerSize ≤ raw.length ∧
      checkAttributes raw raw.length raw.length headerSize = .ok () := by
  obtain ⟨long, _, _, _, _, _, checked, same⟩ := (decode_ok_iff raw message).mp decoded
  exact ⟨same, long, checked⟩

/-- The attributes of a checked body lie in it. -/
theorem attributes_inside (raw : List UInt8) (stop fuel position : Nat)
    (checked : checkAttributes raw stop fuel position = .ok ()) (entry : Attribute)
    (member : entry ∈ attributesFrom raw stop fuel position) :
    entry.headerStart + 4 + (u16At raw (entry.headerStart + 2)).toNat ≤ stop := by
  induction fuel generalizing position with
  | zero => cases member
  | succ fuel ih =>
    unfold attributesFrom at member
    unfold checkAttributes at checked
    split at member
    · cases member
    · rename_i inside
      rw [if_pos (by omega)] at checked
      split at checked
      · cases checked
      · dsimp only at checked
        split at checked
        · cases checked
        · rename_i fits
          simp only [Bool.or_eq_true, decide_eq_true_eq, not_or, Nat.not_lt] at fits
          cases List.mem_cons.mp member with
          | inl here =>
            rw [here]
            exact fits.2
          | inr later =>
            rw [attributeAt_next] at later
            exact ih _ checked later

/-- An attribute of a decoded message has the length it says, and lies in the message. -/
theorem attribute_length {raw : List UInt8} {message : Message} {kind : UInt16}
    {entry : Attribute} (decoded : Message.decode raw = .ok message)
    (found : message.attribute kind = some entry) :
    (u16At raw (entry.headerStart + 2)).toNat = entry.value.length ∧
      entry.headerStart + 4 + entry.value.length ≤ raw.length := by
  obtain ⟨rfl, _, checked⟩ := decode_ok decoded
  have member := List.mem_of_find?_eq_some found
  have inside := attributes_inside raw raw.length raw.length headerSize checked entry member
  have read := congrArg (fun entry => entry.value.length)
    (eq_attributeAt raw raw.length raw.length headerSize entry member)
  dsimp only [attributeAt] at read
  rw [Bytes.length_slice _ _ _ inside, Nat.add_sub_cancel_left] at read
  omega

/-- Two messages that agree beyond the header are of one kind and one transaction. -/
theorem AgreeTo.same_header {limit : Nat} {first second : List UInt8} {message other : Message}
    (agree : AgreeTo limit first second) (inside : headerSize ≤ limit)
    (decoded : Message.decode first = .ok message)
    (otherDecoded : Message.decode second = .ok other) :
    other.kind = message.kind ∧ other.transaction = message.transaction := by
  unfold headerSize at inside
  rw [(decode_ok decoded).1, (decode_ok otherDecoded).1]
  refine ⟨(agree.same_u16 0 (Or.inl rfl) (by omega)).symm, ?_⟩
  show Bytes.Octets.ofList _ = Bytes.Octets.ofList _
  rw [agree.same_slice 8 20 (by omega) inside]

/-- The attributes of two messages up to the first one of a kind, when the messages agree up to
its end. -/
theorem AgreeTo.shared_attributes {first second : List UInt8} {message other : Message}
    {target : Attribute} {kind : UInt16}
    (agree : AgreeTo (target.headerStart + 4 + target.value.length) first second)
    (decoded : Message.decode first = .ok message)
    (otherDecoded : Message.decode second = .ok other)
    (found : message.attribute kind = some target) :
    ∃ before rest otherRest, message.attributes = before ++ target :: rest ∧
      other.attributes = before ++ target :: otherRest ∧
      (∀ entry ∈ before, (entry.kind == kind) = false) ∧
      ∀ entry ∈ rest, target.headerStart < entry.headerStart := by
  obtain ⟨whole, inside⟩ := attribute_length decoded found
  have fits : target.headerStart + 4 + target.value.length ≤ second.length := by
    by_contra short
    have last := agree (target.headerStart + 4 + target.value.length - 1) (by omega)
      (Or.inr (by
        have low := le_headerStart message.raw message.stop message.raw.length headerSize target
          (List.mem_of_find?_eq_some found)
        unfold headerSize at low
        omega))
    have gone : second[target.headerStart + 4 + target.value.length - 1]? = none :=
      List.getElem?_eq_none (by omega)
    rw [gone, List.getElem?_eq_none_iff] at last
    omega
  obtain ⟨rfl, _⟩ := decode_ok decoded
  obtain ⟨rfl, _⟩ := decode_ok otherDecoded
  exact attributesFrom_shared agree fits kind target (by rw [whole]) first.length second.length
    headerSize (by decide) (by omega) found

/-- An attribute comes before another one in a message. -/
def Before (message : Message) (kind : UInt16) (target : Attribute) : Prop :=
  (message.attribute kind).any (fun entry => entry.headerStart < target.headerStart) = true

instance decidableBefore (message : Message) (kind : UInt16) (target : Attribute) :
    Decidable (Before message kind target) := inferInstanceAs (Decidable (_ = true))

/-- An attribute in the common part is found in both messages. -/
theorem Before.attribute_eq {message other : Message} {kind : UInt16} {target : Attribute}
    {before rest otherRest : List Attribute}
    (parts : message.attributes = before ++ target :: rest)
    (otherParts : other.attributes = before ++ target :: otherRest)
    (behind : ∀ entry ∈ rest, target.headerStart < entry.headerStart)
    (early : Before message kind target) :
    other.attribute kind = message.attribute kind := by
  unfold Before at early
  unfold Message.attribute at early ⊢
  rw [parts, List.find?_append] at early ⊢
  rw [otherParts, List.find?_append]
  cases inside : before.find? (·.kind == kind) with
  | some entry => rfl
  | none =>
    rw [inside, Option.none_or] at early
    rw [Option.any_eq_true] at early
    obtain ⟨entry, found, low⟩ := early
    rw [decide_eq_true_eq] at low
    cases List.mem_cons.mp (List.mem_of_find?_eq_some found) with
    | inl here =>
      rw [here] at low
      omega
    | inr later =>
      have high := behind entry later
      omega

end Focsq.Stun
