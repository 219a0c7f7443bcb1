import Focsq.Verif.UriCoding
import Mathlib.Data.List.Nodup

/-!
# What a link is parsed to

The separators that are missing between the parameters of a link are put back at the first place
where a key with its equals sign occurs. An encoded value has no equals sign and no key ends with
another one, so that this is where the key stands.
-/

namespace Focsq.Import

open ConnectStart (ServerProfile isValidPort)

section Separation

/-- A parameter as it is written, with separators in front of it. -/
structure Piece where
  /-- How many separators. -/
  marks : Nat
  /-- The key. -/
  key : Text
  /-- The value, encoded. -/
  value : Text

/-- The text of a piece. -/
def Piece.text (piece : Piece) : Text :=
  List.replicate piece.marks '&' ++ (piece.key ++ '=' :: piece.value)

/-- The piece with one more separator. -/
def Piece.marked (piece : Piece) : Piece := { piece with marks := piece.marks + 1 }

/-- The piece with one more separator, if it has the key. -/
def Piece.separate (key : Text) (piece : Piece) : Piece :=
  if piece.key = key then piece.marked else piece

/-- Separating keeps the key. -/
@[simp] theorem Piece.separate_key (key : Text) (piece : Piece) :
    (piece.separate key).key = piece.key := by
  unfold Piece.separate
  split <;> rfl

/-- Separating keeps the value. -/
@[simp] theorem Piece.separate_value (key : Text) (piece : Piece) :
    (piece.separate key).value = piece.value := by
  unfold Piece.separate
  split <;> rfl

/-- What may stand in a link: no equals sign in a key or in a value. -/
def Piece.Plain (piece : Piece) : Prop := '=' ∉ piece.key ∧ '=' ∉ piece.value

/-- The pieces, one behind the other. -/
def joined (front : Text) (pieces : List Piece) : Text := front ++ pieces.flatMap Piece.text

/-- The first piece is in front of the others. -/
theorem joined_cons (front : Text) (piece : Piece) (pieces : List Piece) :
    joined front (piece :: pieces) =
      (front ++ List.replicate piece.marks '&' ++ piece.key) ++ '=' :: joined piece.value pieces := by
  simp [joined, Piece.text]

/-- A text whose last character is another one does not end with the word. -/
theorem not_suffix_of_getLast? {word text : Text} (some : word ≠ []) (more : text ≠ [])
    (apart : word.getLast? ≠ text.getLast?) (before : Text) : ¬word <:+ before ++ text := by
  rintro ⟨rest, whole⟩
  have last := congrArg List.getLast? whole
  rw [List.getLast?_append_of_ne_nil _ some, List.getLast?_append_of_ne_nil _ more] at last
  exact apart last

/-- A key gets a separator where it stands. -/
theorem replaceFirst_joined {key : Text} (plain : '=' ∉ key) (some : key ≠ [])
    {pieces : List Piece} (distinct : (pieces.map Piece.key).Nodup)
    (clean : ∀ piece ∈ pieces, piece.Plain)
    (apart : ∀ piece ∈ pieces, piece.key ≠ [] ∧
      (piece.key ≠ key → key.getLast? ≠ piece.key.getLast?))
    {front : Text} (free : '=' ∉ front) :
    (joined front pieces).replaceFirst (key ++ ['=']) ('&' :: key ++ ['=']) =
      joined front (pieces.map (Piece.separate key)) := by
  induction pieces generalizing front with
  | nil =>
    rw [joined, List.flatMap_nil, List.append_nil, Text.replaceFirst_unmarked _ free]
    exact (List.append_nil front).symm
  | cons piece pieces ih =>
    obtain ⟨⟨keyPlain, valuePlain⟩, cleanRest⟩ := List.forall_mem_cons.mp clean
    obtain ⟨⟨more, other⟩, apartRest⟩ := List.forall_mem_cons.mp apart
    rw [List.map_cons, List.nodup_cons] at distinct
    have marked : '=' ∉ front ++ List.replicate piece.marks '&' := by
      intro member
      rcases List.mem_append.mp member with inside | mark
      · exact free inside
      · exact absurd (List.eq_of_mem_replicate mark) (by decide)
    rw [joined_cons, List.map_cons, joined_cons, Piece.separate_key, Piece.separate_value]
    by_cases same : piece.key = key
    · -- The keys behind are other ones and stay as they are.
      have rest : pieces.map (Piece.separate key) = pieces := by
        refine (List.map_congr_left fun other member => if_neg fun equal => distinct.1 ?_).trans
          (List.map_id pieces)
        rw [same, ← equal]
        exact List.mem_map_of_mem member
      rw [rest, same, List.append_assoc _ key, Text.replaceFirst_marked _ plain marked,
        Piece.separate, if_pos same, Piece.marked, List.replicate_succ']
      simp
    · have keyed : '=' ∉ front ++ List.replicate piece.marks '&' ++ piece.key := fun member =>
        (List.mem_append.mp member).elim marked keyPlain
      rw [Text.replaceFirst_other _ plain keyed (not_suffix_of_getLast? some more (other same) _),
        ih distinct.2 cleanRest apartRest valuePlain, Piece.separate, if_neg same]

/-- The keys of a link. -/
def linkKeys : List Text := "v".toList :: knownKeys

/-- No key of a link ends with another one. -/
theorem linkKeys_apart : ∀ key ∈ linkKeys, ('=' ∉ key ∧ key ≠ []) ∧
    ∀ other ∈ linkKeys, other ≠ key → key.getLast? ≠ other.getLast? := by
  have all : linkKeys.all (fun key => decide (('=' ∉ key ∧ key ≠ []) ∧
      ∀ other ∈ linkKeys, other ≠ key → key.getLast? ≠ other.getLast?)) = true := by decide
  exact fun key member => of_decide_eq_true (List.all_eq_true.mp all key member)

/-- Keys get their separators one after the other. -/
theorem foldl_joined {keys : List Text} (known : ∀ key ∈ keys, key ∈ linkKeys)
    {pieces : List Piece} (distinct : (pieces.map Piece.key).Nodup)
    (clean : ∀ piece ∈ pieces, piece.key ∈ linkKeys ∧ piece.Plain) {front : Text}
    (free : '=' ∉ front) :
    keys.foldl (fun result key => result.replaceFirst (key ++ ['=']) ('&' :: key ++ ['=']))
        (joined front pieces) =
      joined front (pieces.map fun piece => keys.foldl (fun piece key => piece.separate key) piece) := by
  induction keys generalizing pieces with
  | nil => rw [List.foldl_nil]; exact congrArg _ (List.map_id pieces).symm
  | cons key keys ih =>
    obtain ⟨mine, rest⟩ := List.forall_mem_cons.mp known
    obtain ⟨⟨plain, some⟩, apart⟩ := linkKeys_apart key mine
    have once := replaceFirst_joined plain some distinct (fun piece member => (clean piece member).2)
      (fun piece member => ⟨(linkKeys_apart _ (clean piece member).1).1.2,
        apart _ (clean piece member).1⟩) free
    have keys : (pieces.map (Piece.separate key)).map Piece.key = pieces.map Piece.key := by
      rw [List.map_map]
      exact List.map_congr_left fun piece _ => piece.separate_key key
    have still : ∀ piece ∈ pieces.map (Piece.separate key), piece.key ∈ linkKeys ∧ piece.Plain := by
      intro piece member
      obtain ⟨before, inside, rfl⟩ := List.mem_map.mp member
      rw [Piece.Plain, Piece.separate_key, Piece.separate_value]
      exact clean before inside
    rw [List.foldl_cons, once, ih rest (keys ▸ distinct) still, List.map_map]
    rfl

/-- As many separators are put in front of a piece as its key is among the keys. -/
theorem Piece.foldl_separate (keys : List Text) (piece : Piece) :
    keys.foldl (fun piece key => piece.separate key) piece =
      { piece with marks := piece.marks + keys.count piece.key } := by
  induction keys generalizing piece with
  | nil => rfl
  | cons key keys ih =>
    rw [List.foldl_cons, ih, Piece.separate_key, List.count_cons, Piece.separate]
    by_cases same : piece.key = key
    · rw [if_pos same, if_pos (beq_iff_eq.mpr same.symm), Piece.marked,
      Nat.add_right_comm, Nat.add_assoc]
    · rw [if_neg same, if_neg fun equal => same (beq_iff_eq.mp equal).symm, Nat.add_zero]

/-- The version that a link begins with. -/
def versionPiece : Piece := ⟨0, "v".toList, "2".toList⟩

/-- Every parameter behind the version gets a separator. -/
theorem separateParams_joined {pieces : List Piece} (distinct : (pieces.map Piece.key).Nodup)
    (clean : ∀ piece ∈ pieces, piece.key ∈ knownKeys ∧ piece.Plain) :
    separateParams (joined connectPrefix (versionPiece :: pieces)) =
      joined connectPrefix (versionPiece :: pieces.map Piece.marked) := by
  have fresh : "v".toList ∉ knownKeys := by decide
  have single : knownKeys.Nodup := by decide
  have distinctAll : ((versionPiece :: pieces).map Piece.key).Nodup := by
    rw [List.map_cons, List.nodup_cons]
    refine ⟨fun member => ?_, distinct⟩
    obtain ⟨piece, inside, same⟩ := List.mem_map.mp member
    have known : piece.key ∈ knownKeys := (clean piece inside).1
    rw [same] at known
    exact fresh known
  have cleanAll : ∀ piece ∈ versionPiece :: pieces, piece.key ∈ linkKeys ∧ piece.Plain := by
    refine List.forall_mem_cons.mpr ⟨⟨List.mem_cons_self, ?_⟩, fun piece member => ?_⟩
    · exact ⟨by decide, by decide⟩
    · exact ⟨List.mem_cons_of_mem _ (clean piece member).1, (clean piece member).2⟩
  have free : '=' ∉ connectPrefix := by decide
  have separated := foldl_joined (fun key member => List.mem_cons_of_mem _ member) distinctAll
    cleanAll free
  rw [separateParams, separated, List.map_cons]
  congr 2
  refine List.map_congr_left fun piece member => ?_
  rw [Piece.foldl_separate, List.count_eq_one_of_mem single (clean piece member).1]
  rfl

end Separation

section Queries

/-- The first element of a query, with a separator behind it. -/
theorem splitQueryString_append {element : Text} (free : '&' ∉ element) (rest : Text) :
    splitQueryString (element ++ '&' :: rest) =
      (splitElement element).bind fun head => (splitQueryString rest).map (head ++ ·) := by
  rw [splitQueryString, List.splitOn_append_cons_self_of_not_mem free, List.mapM_cons,
    splitQueryString]
  cases splitElement element with
  | none => rfl
  | some head =>
    cases (rest.splitOn '&').mapM splitElement with
    | none => rfl
    | some tail => rfl

/-- A query without a separator. -/
theorem splitQueryString_single {element : Text} (free : '&' ∉ element) :
    splitQueryString element = splitElement element := by
  rw [splitQueryString, List.splitOn_eq_singleton free, List.mapM_cons, List.mapM_nil]
  cases splitElement element with
  | none => rfl
  | some head => exact congrArg some (List.append_nil head)

/-- Nothing is read between separators. -/
theorem splitQueryString_marks (marks : Nat) (rest : Text) :
    splitQueryString (List.replicate marks '&' ++ rest) = splitQueryString rest := by
  induction marks with
  | zero => rfl
  | succ marks ih =>
    have one := splitQueryString_append List.not_mem_nil (List.replicate marks '&' ++ rest)
    rw [List.nil_append] at one
    rw [List.replicate_succ, List.cons_append, one, ih]
    cases splitQueryString rest <;> rfl

/-- The key and the value of an element. -/
theorem splitElement_append {key : Text} (plain : '=' ∉ key) (some : key ≠ [])
    (simple : isSimple true key = true) (value : Text) :
    splitElement (key ++ '=' :: value) =
      (decodeQueryComponent value).map fun value => [(key, value)] := by
  have known : decodeQueryComponent key = .some key := if_pos simple
  have behind : (key ++ '=' :: value).drop (key.length + 1) = value := by
    rw [List.drop_append, List.drop_eq_nil_of_le (Nat.le_succ _), Nat.add_sub_cancel_left]
    rfl
  rw [splitElement, Text.indexOf_append plain]
  obtain ⟨length, long⟩ := Nat.exists_eq_succ_of_ne_zero fun zero =>
    some (List.eq_nil_of_length_eq_zero zero)
  split
  · next missing => cases missing
  · next first =>
    cases Option.some.inj first ▸ long
  · next index _ found =>
    rw [← Option.some.inj found, List.take_left, behind, known]
    cases decodeQueryComponent value <;> rfl

/-- The key and the value of a piece, as they are read. -/
def Piece.read (piece : Piece) : Text × Text :=
  (piece.key, (decodeQueryComponent piece.value).getD [])

/-- Pieces with separators in front of them are read one by one. -/
theorem splitQueryString_pieces {pieces : List Piece}
    (marked : ∀ piece ∈ pieces, 0 < piece.marks ∧ '&' ∉ piece.key ++ '=' :: piece.value ∧
      splitElement (piece.key ++ '=' :: piece.value) = some [piece.read])
    {element : Text} (free : '&' ∉ element) :
    splitQueryString (element ++ pieces.flatMap Piece.text) =
      (splitElement element).map (· ++ pieces.map Piece.read) := by
  induction pieces generalizing element with
  | nil =>
    rw [List.flatMap_nil, List.append_nil, splitQueryString_single free]
    cases splitElement element with
    | none => rfl
    | some head => exact congrArg some (List.append_nil head).symm
  | cons piece pieces ih =>
    obtain ⟨⟨positive, freePiece, readPiece⟩, rest⟩ := List.forall_mem_cons.mp marked
    obtain ⟨marks, counted⟩ := Nat.exists_eq_succ_of_ne_zero (Nat.ne_of_gt positive)
    have shape : (piece :: pieces).flatMap Piece.text = '&' :: (List.replicate marks '&' ++
        ((piece.key ++ '=' :: piece.value) ++ pieces.flatMap Piece.text)) := by
      rw [List.flatMap_cons, Piece.text, counted, List.replicate_succ, List.cons_append,
        List.cons_append, List.append_assoc]
    rw [shape, splitQueryString_append free, splitQueryString_marks, ih rest freePiece, readPiece]
    cases splitElement element with
    | none => rfl
    | some head => rfl

/-- The query of a link without a fragment. -/
theorem queryOf_connect {query : Text} (whole : '#' ∉ query) :
    queryOf (connectPrefix ++ query) = query := by
  have behind : ((connectPrefix ++ query).dropWhile (· != '?')).tail = query := rfl
  rw [queryOf, behind, List.takeWhile_eq_self_iff]
  intro char member
  rw [bne_iff_ne]
  rintro rfl
  exact whole member

/-- A parameter whose key occurs once is found. -/
theorem parameter_of_mem {parameters : List (Text × Text)}
    (distinct : (parameters.map Prod.fst).Nodup) {key value : Text}
    (member : (key, value) ∈ parameters) : parameter parameters key = some value := by
  obtain ⟨before, after, shape⟩ := List.append_of_mem (List.mem_reverse.mpr member)
  refine List.lookup_eq_some_iff.mpr ⟨before, after, shape, fun other inside => ?_⟩
  have turned : (parameters.reverse.map Prod.fst).Nodup := by
    rw [List.map_reverse]
    exact List.nodup_reverse.mpr distinct
  rw [shape, List.map_append, List.nodup_append] at turned
  have apart := turned.2.2 other.1 (List.mem_map_of_mem inside) key List.mem_cons_self
  exact bne_iff_ne.mpr (Ne.symm apart)

end Queries

section Numbers

/-- A decimal digit is no white space. -/
theorem isWhite_of_isDigit {char : Char} (digit : char.isDigit = true) :
    Text.isWhite char = false := by
  have range : 48 ≤ char.toNat ∧ char.toNat ≤ 57 := by
    simpa [Char.isDigit, UInt32.le_iff_toNat_le, and_comm] using digit
  simp only [Text.isWhite, Bool.or_eq_false_iff, Bool.and_eq_false_iff, decide_eq_false_iff_not,
    beq_eq_false_iff_ne]
  omega

/-- What is not there is a character that is no digit. -/
theorem not_mem_decimal {digits : Text} (decimal : ∀ char ∈ digits, char.isDigit = true)
    {char : Char} (other : char.isDigit = false) : char ∉ digits := by
  intro member
  rw [decimal char member] at other
  cases other

/-- Digits are left alone by `trim`. -/
theorem trim_decimal {digits : Text} (decimal : ∀ char ∈ digits, char.isDigit = true) :
    digits.trim = digits := by
  by_cases none : digits = []
  · rw [none, Text.trim_nil]
  · exact Text.trim_eq_self (List.head?_eq_some_head none) (List.getLast?_eq_some_getLast none)
      (isWhite_of_isDigit (decimal _ (List.head_mem none)))
      (isWhite_of_isDigit (decimal _ (List.getLast_mem none)))

/-- Decimal digits are read as a number, if it fits. -/
theorem intTryParse_decimal {digits : Text} (some : digits ≠ [])
    (decimal : ∀ char ∈ digits, char.isDigit = true) :
    intTryParse digits = if Nat.ofDigitChars 10 digits 0 < 2 ^ 63
      then .some (Nat.ofDigitChars 10 digits 0 : Int) else none := by
  have absent {char : Char} (other : char.isDigit = false) : digits.head? ≠ .some char := by
    intro starts
    exact not_mem_decimal decimal other (List.mem_of_mem_head? (Option.mem_def.mpr starts))
  have minus : ¬digits.head? = .some '-' := absent rfl
  have plus : ¬digits.head? = .some '+' := absent rfl
  have radix : ¬(digits.take 2 = "0x".toList ∨ digits.take 2 = "0X".toList) := by
    rintro (same | same)
    · have inside : 'x' ∈ digits.take 2 := by rw [same]; decide
      exact not_mem_decimal decimal rfl (List.mem_of_mem_take inside)
    · have inside : 'X' ∈ digits.take 2 := by rw [same]; decide
      exact not_mem_decimal decimal rfl (List.mem_of_mem_take inside)
  have read : digits.all (Reader.isDigit 10) = true := by
    refine List.all_eq_true.mpr fun char member => ?_
    rw [Reader.isDigit, Reader.toDigit_decimal (decimal char member)]
    rfl
  unfold intTryParse
  dsimp only
  rw [trim_decimal decimal]
  simp only [minus, plus, radix, some, read, not_true_eq_false, or_self, if_false, false_and,
    Reader.valueOf_decimal decimal]
  by_cases small : Nat.ofDigitChars 10 digits 0 < 2 ^ 63
  · rw [if_pos small, if_pos (by omega)]
  · rw [if_neg small, if_neg (by omega)]

/-- The digits of a number. -/
theorem toDigits_decimal (value : Nat) : ∀ char ∈ Nat.toDigits 10 value, char.isDigit = true :=
  fun _ member => Nat.isDigit_of_mem_toDigits (by decide) (by decide) member

/-- A port is read as it was written. -/
theorem intTryParse_toDigits {port : Nat} (small : port ≤ 65535) :
    intTryParse (Nat.toDigits 10 port) = some (port : Int) := by
  rw [intTryParse_decimal Nat.toDigits_ne_nil (toDigits_decimal port), Nat.ofDigitChars_ten_toDigits,
    if_pos (by omega)]

end Numbers

section Parameters

/-- A parameter of a link, with or without a separator in front of it. -/
structure Parameter where
  /-- Whether the separator is there. -/
  separated : Bool
  /-- The key. -/
  key : Text
  /-- The value. -/
  value : Text

/-- A parameter as it is written. -/
def Parameter.text (parameter : Parameter) : Text :=
  (if parameter.separated then ['&'] else []) ++
    (parameter.key ++ '=' :: encodeQueryComponent parameter.value)

/-- The parameters of a link to a server. -/
def linkParameters (host : Text) (port : Nat) (password : Text) (hashes : Option Text) :
    List (Text × Text) :=
  [("host".toList, host), ("peer".toList, Nat.toDigits 10 port), ("password".toList, password)] ++
    (hashes.map fun hashes => ("hashes".toList, hashes)).toList

/-- A link with parameters. -/
def connectLink (parameters : List Parameter) : Text :=
  connectPrefix ++ "v=2".toList ++ parameters.flatMap Parameter.text

/-- Decoding inverts the encoding of a value in a query. -/
def QueryInverts (text : Text) : Prop :=
  decodeQueryComponent (encodeQueryComponent text) = some text

/-- Decoding inverts the encoding of a component. -/
def ComponentInverts (text : Text) : Prop := decodeComponent (encodeComponent text) = some text

/-- Decoding inverts the encoding of a text without a byte order mark in front. -/
theorem queryInverts_iff (text : Text) : QueryInverts text ↔ unmarked text = text := by
  rw [QueryInverts, decodeQueryComponent_encode, Option.some.injEq]

/-- The same of a component. -/
theorem componentInverts_iff (text : Text) : ComponentInverts text ↔ unmarked text = text := by
  rw [ComponentInverts, decodeComponent_encode, Option.some.injEq]

/-- Digits have no mark in front. -/
theorem unmarked_decimal {digits : Text} (decimal : ∀ char ∈ digits, char.isDigit = true) :
    unmarked digits = digits := by
  refine if_neg fun marked => ?_
  have mark : byteOrderMark ∈ digits := List.mem_of_mem_head? (Option.mem_def.mpr marked)
  exact not_mem_decimal decimal rfl mark

/-- The piece that a parameter is. -/
def Parameter.piece (parameter : Parameter) : Piece :=
  ⟨if parameter.separated then 1 else 0, parameter.key, encodeQueryComponent parameter.value⟩

/-- A piece is written as its parameter. -/
theorem Parameter.piece_text (parameter : Parameter) : parameter.piece.text = parameter.text := by
  rw [Piece.text, piece, Parameter.text]
  cases parameter.separated <;> rfl

/-- A link consists of pieces. -/
theorem connectLink_eq (parameters : List Parameter) :
    connectLink parameters = joined connectPrefix (versionPiece :: parameters.map Parameter.piece) := by
  have pieces : (parameters.map Parameter.piece).flatMap Piece.text =
      parameters.flatMap Parameter.text := by
    rw [List.flatMap_map]
    exact congrArg (List.flatMap · parameters) (funext Parameter.piece_text)
  rw [connectLink, joined, List.flatMap_cons, pieces, List.append_assoc]
  rfl

/-- A character that an encoding may keep is no white space. -/
theorem isWhite_of_isUnreserved {char : Char} (kept : isUnreserved char = true) :
    Text.isWhite char = false := by
  rw [isUnreserved, Bool.or_eq_true, List.contains_iff_mem] at kept
  rcases kept with letter | mark
  · have range : ((65 ≤ char.toNat ∧ char.toNat ≤ 90) ∨ 97 ≤ char.toNat ∧ char.toNat ≤ 122) ∨
        48 ≤ char.toNat ∧ char.toNat ≤ 57 := by
      have spelled : (decide (65 ≤ char.val ∧ char.val ≤ 90) ||
          (decide (97 ≤ char.val) && decide (char.val ≤ 122)) ||
            (decide (48 ≤ char.val) && decide (char.val ≤ 57))) = true := letter
      simpa [UInt32.le_iff_toNat_le] using spelled
    simp only [Text.isWhite, Bool.or_eq_false_iff, Bool.and_eq_false_iff, decide_eq_false_iff_not,
      beq_eq_false_iff_ne]
    omega
  · have marks : "-._~".toList.all (fun char => !Text.isWhite char) = true := by decide
    exact (Bool.not_eq_true' _).mp (List.all_eq_true.mp marks char mark)

/-- What is in the encoding of a value: no white space and no mark of a query. -/
theorem plain_of_mem {value : Text} {char : Char} (member : char ∈ encodeQueryComponent value) :
    Text.isWhite char = false ∧ char ≠ '&' ∧ char ≠ '=' ∧ char ≠ '#' := by
  refine ⟨?_, ?_, ?_, ?_⟩
  · rcases mem_uriEncode member with kept | escape
    · exact isWhite_of_isUnreserved kept
    · have escapes : "+%0123456789ABCDEF".toList.all (fun char => !Text.isWhite char) = true := by
        decide
      exact (Bool.not_eq_true' _).mp (List.all_eq_true.mp escapes char escape)
  · rintro rfl
    exact not_mem_uriEncode rfl (by decide) true value member
  · rintro rfl
    exact not_mem_uriEncode rfl (by decide) true value member
  · rintro rfl
    exact not_mem_uriEncode rfl (by decide) true value member

/-- A key is read as it is written. -/
theorem knownKeys_simple : ∀ key ∈ knownKeys, key ≠ [] ∧ isSimple true key = true := by
  have all : knownKeys.all (fun key => decide (key ≠ [] ∧ isSimple true key = true)) = true := by
    decide
  exact fun key member => of_decide_eq_true (List.all_eq_true.mp all key member)

/-- What is in a key. -/
theorem knownKeys_plain : ∀ key ∈ knownKeys, ∀ char ∈ key,
    Text.isWhite char = false ∧ char ≠ '&' ∧ char ≠ '=' ∧ char ≠ '#' := by
  have all : knownKeys.all (fun key => key.all fun char =>
      !Text.isWhite char && char != '&' && char != '=' && char != '#') = true := by decide
  intro key member char inside
  have plain := List.all_eq_true.mp (List.all_eq_true.mp all key member) char inside
  simp only [Bool.and_eq_true, Bool.not_eq_true', bne_iff_ne] at plain
  exact ⟨plain.1.1.1, plain.1.1.2, plain.1.2, plain.2⟩

/-- A parameter is read, but for a byte order mark in front of its value. -/
theorem Parameter.piece_read (parameter : Parameter) :
    parameter.piece.read = (parameter.key, unmarked parameter.value) :=
  congrArg (fun value => (parameter.key, Option.getD value []))
    (decodeQueryComponent_encode parameter.value)

section Pieces

variable {parameter : Parameter} (known : parameter.key ∈ knownKeys)
include known

/-- The piece of a parameter has one equals sign. -/
theorem Parameter.piece_plain : parameter.piece.Plain :=
  ⟨fun member => (knownKeys_plain _ known _ member).2.2.1 rfl,
    fun member => (plain_of_mem member).2.2.1 rfl⟩

/-- There is no separator in a parameter. -/
theorem Parameter.piece_whole : '&' ∉ parameter.piece.key ++ '=' :: parameter.piece.value := by
  intro member
  rcases List.mem_append.mp member with inKey | behind
  · exact (knownKeys_plain _ known _ inKey).2.1 rfl
  · rcases List.mem_cons.mp behind with mark | inValue
    · exact absurd mark (by decide)
    · exact (plain_of_mem inValue).2.1 rfl

/-- A parameter is split at its equals sign. -/
theorem Parameter.splitElement_piece :
    splitElement (parameter.piece.key ++ '=' :: parameter.piece.value) =
      some [parameter.piece.read] := by
  obtain ⟨some, simple⟩ := knownKeys_simple _ known
  have plain : '=' ∉ parameter.key := (parameter.piece_plain known).1
  show splitElement (parameter.key ++ '=' :: encodeQueryComponent parameter.value) = _
  rw [splitElement_append plain some simple, decodeQueryComponent_encode, parameter.piece_read]
  rfl

/-- There is no white space in a parameter, and it begins no fragment. -/
theorem Parameter.char_of_piece {marks : Nat} {char : Char}
    (member : char ∈ Piece.text { parameter.piece with marks := marks }) :
    Text.isWhite char = false ∧ char ≠ '#' := by
  rcases List.mem_append.mp member with mark | behind
  · rw [List.eq_of_mem_replicate mark]
    decide
  · rcases List.mem_append.mp behind with inKey | behind
    · have plain := knownKeys_plain _ known _ inKey
      exact ⟨plain.1, plain.2.2.2⟩
    · rcases List.mem_cons.mp behind with rfl | inValue
      · decide
      · have plain := plain_of_mem inValue
        exact ⟨plain.1, plain.2.2.2⟩

end Pieces

variable {parameters : List Parameter}

/-- The parameters of a link are read. -/
theorem queryParameters_connectLink (distinct : (parameters.map Parameter.key).Nodup)
    (known : ∀ parameter ∈ parameters, parameter.key ∈ knownKeys) :
    queryParameters (connectLink parameters) = some (("v".toList, "2".toList) ::
      parameters.map fun parameter => (parameter.key, unmarked parameter.value)) := by
  have keys : (parameters.map Parameter.piece).map Piece.key = parameters.map Parameter.key := by
    rw [List.map_map]
    rfl
  have clean : ∀ piece ∈ parameters.map Parameter.piece, piece.key ∈ knownKeys ∧ piece.Plain := by
    intro piece member
    obtain ⟨parameter, inside, rfl⟩ := List.mem_map.mp member
    exact ⟨known parameter inside, parameter.piece_plain (known parameter inside)⟩
  have marked : ∀ piece ∈ parameters.map (Piece.marked ∘ Parameter.piece), 0 < piece.marks ∧
      '&' ∉ piece.key ++ '=' :: piece.value ∧
      splitElement (piece.key ++ '=' :: piece.value) = some [piece.read] := by
    intro piece member
    obtain ⟨parameter, inside, rfl⟩ := List.mem_map.mp member
    exact ⟨Nat.succ_pos _, parameter.piece_whole (known parameter inside),
      parameter.splitElement_piece (known parameter inside)⟩
  have whole : '#' ∉ "v=2".toList ++
      (parameters.map (Piece.marked ∘ Parameter.piece)).flatMap Piece.text := by
    intro member
    rcases List.mem_append.mp member with version | behind
    · exact absurd version (by decide)
    · obtain ⟨piece, inside, char⟩ := List.mem_flatMap.mp behind
      obtain ⟨parameter, given, rfl⟩ := List.mem_map.mp inside
      exact (parameter.char_of_piece (known parameter given) char).2 rfl
  have version : '&' ∉ "v=2".toList := by decide
  have two : splitElement "v=2".toList = some [("v".toList, "2".toList)] := by decide
  have read : (parameters.map (Piece.marked ∘ Parameter.piece)).map Piece.read =
      parameters.map fun parameter => (parameter.key, unmarked parameter.value) := by
    rw [List.map_map]
    exact List.map_congr_left fun parameter _ => parameter.piece_read
  rw [queryParameters, connectLink_eq, separateParams_joined (keys ▸ distinct) clean, List.map_map,
    joined, List.flatMap_cons]
  have front : versionPiece.text = "v=2".toList := rfl
  rw [front, queryOf_connect whole, splitQueryString_pieces marked version, two, read]
  rfl

end Parameters

section RoundTrip

variable {host password : Text} {port : Nat}

/-- The profile that a link to a server is parsed to. -/
def linkProfile (number : Nat) (host : Text) (port : Nat) (password : Text) : ServerProfile :=
  ⟨some (generateName number), some host, some (port : Int), some password, none⟩

/-- A profile is made for a valid port. -/
theorem profileOf_valid (number : Nat) (host : Text) (valid : 0 < port ∧ port ≤ 65535)
    (password : Text) :
    profileOf number host (some (port : Int)) password =
      some (linkProfile number host port password) := by
  refine if_pos ?_
  simp only [isValidPort, Option.any_some, Bool.and_eq_true, decide_eq_true_eq]
  omega

/-- There is no white space in a link with known keys. -/
theorem isWhite_of_mem_connectLink {parameters : List Parameter}
    (known : ∀ parameter ∈ parameters, parameter.key ∈ knownKeys) :
    ∀ char ∈ connectLink parameters, Text.isWhite char = false := by
  have front : (connectPrefix ++ "v=2".toList).all (fun char => !Text.isWhite char) = true := by
    decide
  intro char member
  rw [connectLink, List.mem_append] at member
  rcases member with early | late
  · exact (Bool.not_eq_true' _).mp (List.all_eq_true.mp front char early)
  · obtain ⟨parameter, inside, written⟩ := List.mem_flatMap.mp late
    rw [← parameter.piece_text] at written
    exact (parameter.char_of_piece (known parameter inside) written).1

/-- The keys of a link are known. -/
theorem linkParameters_keys (host : Text) (port : Nat) (password : Text) (hashes : Option Text) :
    List.Sublist ((linkParameters host port password hashes).map Prod.fst) knownKeys := by
  cases hashes with
  | none => exact List.take_sublist 3 knownKeys
  | some hashes => exact List.Sublist.refl knownKeys

section Order

variable {hashes : Option Text} {parameters : List Parameter}
  (order : (parameters.map fun parameter => (parameter.key, parameter.value)).Perm
    (linkParameters host port password hashes))
include order

/-- The keys in a link, in whatever order, are known and occur once. -/
theorem keys_of_order : (parameters.map Parameter.key).Nodup ∧
    ∀ parameter ∈ parameters, parameter.key ∈ knownKeys := by
  have keys := linkParameters_keys host port password hashes
  have permuted : (parameters.map Parameter.key).Perm
      ((linkParameters host port password hashes).map Prod.fst) := by
    have mapped := order.map Prod.fst
    rwa [List.map_map] at mapped
  have single : knownKeys.Nodup := by decide
  exact ⟨permuted.nodup_iff.mpr (single.sublist keys), fun parameter member =>
    keys.subset (permuted.mem_iff.mp (List.mem_map_of_mem member))⟩

/-- What is read of a link has the version and each of the parameters. -/
theorem parameters_of_order : ∃ query, queryParameters (connectLink parameters) = some query ∧
    parameter query "v".toList = some "2".toList ∧
    ∀ pair ∈ linkParameters host port password hashes,
      parameter query pair.1 = some (unmarked pair.2) := by
  obtain ⟨distinct, known⟩ := keys_of_order order
  have keys : (parameters.map fun parameter => (parameter.key, unmarked parameter.value)).map
      Prod.fst = parameters.map Parameter.key := by
    rw [List.map_map]
    rfl
  have whole : ((("v".toList, "2".toList) :: parameters.map fun parameter =>
      (parameter.key, unmarked parameter.value)).map Prod.fst).Nodup := by
    rw [List.map_cons, keys, List.nodup_cons]
    refine ⟨fun member => ?_, distinct⟩
    obtain ⟨parameter, inside, same⟩ := List.mem_map.mp member
    have version := known parameter inside
    rw [same] at version
    exact absurd version (by decide)
  refine ⟨_, queryParameters_connectLink distinct known, parameter_of_mem whole List.mem_cons_self,
    fun pair given => parameter_of_mem whole (List.mem_cons_of_mem _ ?_)⟩
  obtain ⟨parameter, inside, same⟩ := List.mem_map.mp (order.mem_iff.mpr given)
  exact List.mem_map.mpr ⟨parameter, inside, by rw [← same]⟩

/-- A link is left alone by `trim`. -/
theorem trim_connectLink : (connectLink parameters).trim = connectLink parameters := by
  have black := isWhite_of_mem_connectLink (keys_of_order order).2
  have some : connectLink parameters ≠ [] := List.cons_ne_nil _ _
  exact Text.trim_eq_self (List.head?_eq_some_head some) (List.getLast?_eq_some_getLast some)
    (black _ (List.head_mem some)) (black _ (List.getLast_mem some))

/-- A link with parameters is parsed to its server. -/
theorem parse_connectLink (number : Nat) (someHost : host ≠ []) (somePassword : password ≠ [])
    (valid : 0 < port ∧ port ≤ 65535) (hostInverts : QueryInverts host)
    (passwordInverts : QueryInverts password) :
    parse number (connectLink parameters) = some (linkProfile number host port password) := by
  obtain ⟨query, read, version, found⟩ := parameters_of_order order
  have givenHost : parameter query "host".toList = some host := by
    rw [found ("host".toList, host) (by simp [linkParameters]), (queryInverts_iff _).mp hostInverts]
  have givenPeer : parameter query "peer".toList = some (Nat.toDigits 10 port) := by
    rw [found ("peer".toList, Nat.toDigits 10 port) (by simp [linkParameters]),
      unmarked_decimal (toDigits_decimal port)]
  have givenPassword : parameter query "password".toList = some password := by
    rw [found ("password".toList, password) (by simp [linkParameters]),
      (queryInverts_iff _).mp passwordInverts]
  have form : Text.startsWith (connectLink parameters) scheme = true := rfl
  have connects : Text.startsWith (connectLink parameters) connectPrefix = true := rfl
  have complete : ¬(host = [] ∨ password = []) := fun missing => missing.elim someHost somePassword
  rw [parse, trim_connectLink order, if_neg (not_not_intro form), if_pos connects, parseV2, read]
  simp only [Option.bind_eq_bind, Option.bind_some, version, givenHost, givenPeer, givenPassword,
    Option.getD_some, intTryParse_toDigits valid.2, complete, ne_eq, not_true_eq_false, if_false]
  exact profileOf_valid number host valid password

end Order

section Legacy

/-- An address with a host and a port. -/
inductive Addresses (host : Text) (port : Nat) : Text → Prop
  /-- The host is in front of the only colon. -/
  | plain : '@' ∉ host → ':' ∉ host → '[' ∉ host →
      Addresses host port (host ++ ':' :: Nat.toDigits 10 port)
  /-- The host is in brackets. -/
  | bracketed : '@' ∉ host → ']' ∉ host →
      Addresses host port ('[' :: host ++ ']' :: ':' :: Nat.toDigits 10 port)

/-- A link of the older form. -/
def legacyLink (password address : Text) : Text :=
  scheme ++ (encodeComponent password ++ '@' :: address)

/-- The last occurrence of a character is the one behind which there is none. -/
theorem lastIndexOf_append {target : Char} (front : Text) {rest : Text} (absent : target ∉ rest) :
    lastIndexOf target (front ++ target :: rest) = some front.length := by
  have none : lastIndexOf target rest = none := by
    induction rest with
    | nil => rfl
    | cons char rest ih =>
      have both : target ≠ char ∧ target ∉ rest := by simpa using absent
      rw [lastIndexOf, ih both.2]
      exact if_neg (Ne.symm both.1)
  induction front with
  | nil =>
    rw [List.nil_append, lastIndexOf, none]
    exact if_pos rfl
  | cons char front ih =>
    rw [List.cons_append, lastIndexOf, ih]
    rfl

variable {address : Text}

/-- What an address ends with, and that there is no `@` in it. -/
theorem Addresses.shape (addresses : Addresses host port address) :
    '@' ∉ address ∧ ∃ front, address = front ++ Nat.toDigits 10 port := by
  have digits : '@' ∉ Nat.toDigits 10 port := not_mem_decimal (toDigits_decimal port) rfl
  cases addresses with
  | plain free _ _ =>
    refine ⟨?_, host ++ [':'], by simp⟩
    simp [free, digits]
  | bracketed free _ =>
    refine ⟨?_, '[' :: host ++ [']', ':'], by simp⟩
    simp [free, digits]

/-- An address is split into its host and its port. -/
theorem splitAddress_of_addresses (addresses : Addresses host port address) (someHost : host ≠ [])
    (small : port ≤ 65535) : splitAddress address = some (host, some (port : Int)) := by
  have digits : ':' ∉ Nat.toDigits 10 port := not_mem_decimal (toDigits_decimal port) rfl
  cases addresses with
  | plain _ colon bracket =>
    have other : Text.startsWith (host ++ ':' :: Nat.toDigits 10 port) ['['] = false := by
      obtain ⟨first, rest, shape⟩ := List.exists_cons_of_ne_nil someHost
      have different : '[' ≠ first := fun same => bracket (by rw [shape, same]; exact List.mem_cons_self)
      rw [shape, List.cons_append, Text.startsWith, List.isPrefixOf, beq_eq_false_iff_ne.mpr different,
        Bool.false_and]
    have parts : (host ++ ':' :: Nat.toDigits 10 port).splitOn ':' =
        [host, Nat.toDigits 10 port] := by
      rw [List.splitOn_append_cons_self_of_not_mem colon, List.splitOn_eq_singleton digits]
    rw [splitAddress, other, if_neg Bool.false_ne_true, parts]
    dsimp only
    rw [if_neg someHost, intTryParse_toDigits small]
  | bracketed _ closed =>
    have free : ']' ∉ '[' :: host := by
      simpa using closed
    have found := Text.indexOf_append free (':' :: Nat.toDigits 10 port)
    have starts : Text.startsWith ('[' :: host ++ ']' :: ':' :: Nat.toDigits 10 port) ['['] = true :=
      rfl
    have inside : (('[' :: host ++ ']' :: ':' :: Nat.toDigits 10 port).take
        ('[' :: host).length).drop 1 = host := by
      rw [List.take_left]
      rfl
    have behind : ('[' :: host ++ ']' :: ':' :: Nat.toDigits 10 port).drop
        (('[' :: host).length + 1) = ':' :: Nat.toDigits 10 port := by
      rw [List.drop_length_add_append]
      rfl
    have separated : Text.startsWith (':' :: Nat.toDigits 10 port) [':'] = true := rfl
    rw [splitAddress, if_pos starts, found]
    dsimp only
    rw [inside, behind, if_neg (fun wrong => wrong.elim someHost (not_not_intro separated)),
      List.drop_one, List.tail_cons, intTryParse_toDigits small]

/-- A link of the older form is left alone by `trim`. -/
theorem trim_legacyLink (password : Text) (addresses : Addresses host port address) :
    (legacyLink password address).trim = legacyLink password address := by
  obtain ⟨-, front, shape⟩ := addresses.shape
  have some : Nat.toDigits 10 port ≠ [] := Nat.toDigits_ne_nil
  have whole : legacyLink password address =
      (scheme ++ (encodeComponent password ++ '@' :: front)) ++ Nat.toDigits 10 port := by
    rw [legacyLink, shape]
    simp
  have final : (legacyLink password address).getLast? = .some ((Nat.toDigits 10 port).getLast some) := by
    rw [whole, List.getLast?_append_of_ne_nil _ some, List.getLast?_eq_some_getLast some]
  exact Text.trim_eq_self rfl final rfl
    (isWhite_of_isDigit (toDigits_decimal port _ (List.getLast_mem some)))

/-- No password makes a link of the older form one with parameters. -/
theorem startsWith_legacyLink (password address : Text) :
    Text.startsWith (legacyLink password address) connectPrefix = false := by
  have encoded : '?' ∉ encodeComponent password := not_mem_uriEncode rfl (by decide) false password
  have word : '@' ∉ "connect".toList := by decide
  rw [← Bool.not_eq_true, Text.startsWith, List.isPrefixOf_iff_prefix]
  intro starts
  have behind : "connect".toList ++ ['?'] <+: encodeComponent password ++ '@' :: address :=
    (List.prefix_append_right_inj scheme).mp starts
  obtain ⟨rest, whole⟩ := behind
  rw [List.append_assoc, List.singleton_append] at whole
  -- The first of the two marks would be in front of the other one.
  rcases List.append_eq_append_iff.mp whole with ⟨more, shape, tail⟩ | ⟨more, shape, tail⟩
  · cases more with
    | nil => exact absurd (List.cons.inj tail).1 (by decide)
    | cons mark more =>
      have same : '?' = mark := (List.cons.inj tail).1
      exact encoded (by rw [shape, same]; simp)
  · cases more with
    | nil => exact absurd (List.cons.inj tail).1 (by decide)
    | cons mark more =>
      have same : '@' = mark := (List.cons.inj tail).1
      exact word (by rw [shape, same]; simp)

/-- A link of the older form is parsed to its server. -/
theorem parse_legacyLink (number : Nat) (someHost : host ≠ []) (somePassword : password ≠ [])
    (valid : 0 < port ∧ port ≤ 65535) (inverts : ComponentInverts password)
    (addresses : Addresses host port address) :
    parse number (legacyLink password address) =
      some (linkProfile number host port password) := by
  obtain ⟨free, front, shape⟩ := addresses.shape
  have form : Text.startsWith (legacyLink password address) scheme = true :=
    Text.startsWith_append _ _
  have rest : (legacyLink password address).drop scheme.length =
      encodeComponent password ++ '@' :: address := List.drop_left
  have someFront : ¬(encodeComponent password).length = 0 := by
    intro zero
    have empty := List.eq_nil_of_length_eq_zero zero
    rw [ComponentInverts, empty] at inverts
    exact somePassword (Option.some.inj inverts).symm
  have someAddress : 0 < address.length := by
    have positive : 0 < (Nat.toDigits 10 port).length := List.length_pos_iff.mpr Nat.toDigits_ne_nil
    rw [shape, List.length_append]
    omega
  have fits : ¬((encodeComponent password).length = 0 ∨ (encodeComponent password).length + 1 =
      (encodeComponent password ++ '@' :: address).length) := by
    rw [List.length_append, List.length_cons]
    omega
  have decoded : decodeComponent (encodeComponent password) = some password := inverts
  have behind : (encodeComponent password ++ '@' :: address).drop
      ((encodeComponent password).length + 1) = address := by
    rw [List.drop_length_add_append]
    rfl
  rw [parse, trim_legacyLink password addresses, if_neg (not_not_intro form),
    startsWith_legacyLink, if_neg Bool.false_ne_true, parseLegacy, rest]
  simp only [Option.bind_eq_bind, Option.bind_some, lastIndexOf_append _ free, fits, if_false,
    List.take_left, behind, decoded, splitAddress_of_addresses addresses someHost valid.2]
  exact profileOf_valid number host valid password

end Legacy

/-- A link to a server, of either form, is parsed to its host, its port and its password. -/
theorem parse_roundTrip (number : Nat) (host password : Text) (port : Nat) (someHost : host ≠ [])
    (somePassword : password ≠ []) (valid : 0 < port ∧ port ≤ 65535) :
    (∀ (hashes : Option Text) (parameters : List Parameter),
      QueryInverts host → QueryInverts password →
      (parameters.map fun parameter => (parameter.key, parameter.value)).Perm
        (linkParameters host port password hashes) →
      parse number (connectLink parameters) = some (linkProfile number host port password)) ∧
    ∀ address : Text, ComponentInverts password → Addresses host port address →
      parse number (legacyLink password address) = some (linkProfile number host port password) :=
  ⟨fun _ _ hostInverts passwordInverts order =>
      parse_connectLink order number someHost somePassword valid hostInverts passwordInverts,
    fun _ inverts addresses =>
      parse_legacyLink number someHost somePassword valid inverts addresses⟩

/-- Three parameters with one separator. -/
def mixedParameters : List Parameter :=
  [⟨false, "password".toList, "my@pass word".toList⟩, ⟨true, "host".toList, "h.io".toList⟩,
    ⟨false, "peer".toList, "1000".toList⟩]

example : connectLink mixedParameters =
    "csqtt://connect?v=2password=my%40pass+word&host=h.iopeer=1000".toList := by decide

/-- A password that has to be encoded, in both forms. -/
theorem parse_roundTrip_mixed :
    parse 0 (connectLink mixedParameters) =
        some (linkProfile 0 "h.io".toList 1000 "my@pass word".toList) ∧
      parse 0 (legacyLink "my@pass word".toList "h.io:1000".toList) =
        some (linkProfile 0 "h.io".toList 1000 "my@pass word".toList) := by
  have both := parse_roundTrip 0 "h.io".toList "my@pass word".toList 1000 (by decide) (by decide)
    (by decide)
  have order : (mixedParameters.map fun parameter => (parameter.key, parameter.value)).Perm
      (linkParameters "h.io".toList 1000 "my@pass word".toList none) := by decide
  exact ⟨both.1 none mixedParameters ((queryInverts_iff _).mpr (by decide))
      ((queryInverts_iff _).mpr (by decide)) order,
    both.2 _ ((componentInverts_iff _).mpr (by decide))
      (.plain (by decide) (by decide) (by decide))⟩

end RoundTrip

end Focsq.Import
