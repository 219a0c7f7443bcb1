import Focsq.Frontend.ConnectStart
import Focsq.Lib.Reader

/-!
# Links

`LinkParser` of `import.dart`. A link is either a list of parameters or the older form with a
password in front of an address. What throws while a link is parsed makes it a link that is not
accepted, so that here it comes to the same as `null`.

The number that the random generator yields for the name of a profile is a parameter.
-/

namespace Focsq.Import

open ConnectStart (ServerProfile isValidPort)

section Numbers

/-- `int.tryParse` — decimal, or hexadecimal after `0x`; hexadecimal digits may stand for the 64 bits
of a negative number. -/
def intTryParse (source : Text) : Option Int :=
  let trimmed := source.trim
  let negative := trimmed.head? = some '-'
  let unsigned := if negative ∨ trimmed.head? = some '+' then trimmed.tail else trimmed
  let hexadecimal := unsigned.take 2 = "0x".toList ∨ unsigned.take 2 = "0X".toList
  let radix := if hexadecimal then 16 else 10
  let digits := if hexadecimal then unsigned.drop 2 else unsigned
  let value : Int := Reader.valueOf radix digits
  if digits = [] ∨ ¬digits.all (Reader.isDigit radix) then none
  else if negative then if value ≤ 2 ^ 63 then some (-value) else none
  else if value < 2 ^ 63 then some value
  else if hexadecimal ∧ value < 2 ^ 64 then some (value - 2 ^ 64)
  else none

end Numbers

section Decoding

/-- The byte that two hexadecimal digits stand for. -/
def hexByte (first second : Char) : Option UInt8 := do
  let high ← Json.hexValue first
  let low ← Json.hexValue second
  pure (.ofNat (high * 16 + low))

/-- `utf8.decode` — a byte order mark in front is dropped, and malformed bytes throw. -/
def decodeUtf8 (bytes : List UInt8) : Option Text :=
  let marked := bytes.take 3 = [0xEF, 0xBB, 0xBF]
  (String.fromUTF8? ⟨(if marked then bytes.drop 3 else bytes).toArray⟩).map String.toList

/-- Whether a text is its own decoding. -/
def isSimple (plusToSpace : Bool) (text : Text) : Bool :=
  text.all fun char => char.toNat < 128 && char != '%' && !(plusToSpace && char == '+')

/-- The bytes of `decodeComponent`. -/
def componentBytes : Text → Option (List UInt8)
  | [] => some []
  | '%' :: first :: second :: rest => do
    let byte ← hexByte first second
    let bytes ← componentBytes rest
    pure (byte :: bytes)
  | char :: rest =>
    if char = '%' ∨ 128 ≤ char.toNat then none
    else (componentBytes rest).map (UInt8.ofNat char.toNat :: ·)

/-- `decodeComponent`. -/
def decodeComponent (text : Text) : Option Text :=
  if isSimple false text then some text else (componentBytes text).bind decodeUtf8

/-- The bytes of `decodeQueryComponent` in a query that `Uri` has put in order: what is no escape and
what is not ASCII was escaped. -/
def queryBytes : Text → List UInt8
  | [] => []
  | '%' :: first :: second :: rest =>
    match hexByte first second with
    | some byte => byte :: queryBytes rest
    | none => 0x25 :: queryBytes (first :: second :: rest)
  | '+' :: rest => 0x20 :: queryBytes rest
  | char :: rest => String.utf8EncodeChar char ++ queryBytes rest

/-- `decodeQueryComponent`. -/
def decodeQueryComponent (text : Text) : Option Text :=
  if isSimple true text then some text else decodeUtf8 (queryBytes text)

/-- One element of `splitQueryString`. -/
def splitElement (element : Text) : Option (List (Text × Text)) :=
  match Text.indexOf ['='] element with
  | none =>
    if element = [] then some [] else (decodeQueryComponent element).map fun key => [(key, [])]
  | some 0 => some []
  | some index => do
    let key ← decodeQueryComponent (element.take index)
    let value ← decodeQueryComponent (element.drop (index + 1))
    pure [(key, value)]

/-- `splitQueryString`. -/
def splitQueryString (query : Text) : Option (List (Text × Text)) :=
  ((query.splitOn '&').mapM splitElement).map List.flatten

/-- `[]` on the parameters — a later one replaces an earlier one. -/
def parameter (parameters : List (Text × Text)) (key : Text) : Option Text :=
  parameters.reverse.lookup key

end Decoding

section Links

/-- `scheme`. -/
def scheme : Text := "csqtt://".toList

/-- `_connectPrefix`. -/
def connectPrefix : Text := scheme ++ "connect?".toList

/-- `_knownKeys`. -/
def knownKeys : List Text :=
  ["host".toList, "peer".toList, "password".toList, "hashes".toList]

/-- `_separateParams`. -/
def separateParams (link : Text) : Text :=
  knownKeys.foldl (fun result key => result.replaceFirst (key ++ ['=']) ('&' :: key ++ ['='])) link

/-- `query` — what is behind the question mark, without a fragment. -/
def queryOf (link : Text) : Text := (link.dropWhile (· != '?')).tail.takeWhile (· != '#')

/-- `queryParameters` of a link whose parameters were separated. -/
def queryParameters (link : Text) : Option (List (Text × Text)) :=
  splitQueryString (queryOf (separateParams link))

/-- `lastIndexOf`, of a character. -/
def lastIndexOf (target : Char) : Text → Option Nat
  | [] => none
  | char :: rest =>
    match lastIndexOf target rest with
    | some index => some (index + 1)
    | none => if char = target then some 0 else none

/-- The host and the port of an address, the host with brackets around it or without a colon. -/
def splitAddress (address : Text) : Option (Text × Option Int) :=
  if address.startsWith ['['] then
    match Text.indexOf [']'] address with
    | none => none
    | some closeBracket =>
      let host := (address.take closeBracket).drop 1
      let rest := address.drop (closeBracket + 1)
      if host = [] ∨ ¬Text.startsWith rest [':'] then none
      else some (host, intTryParse (rest.drop 1))
  else
    match address.splitOn ':' with
    | [host, port] => if host = [] then none else some (host, intTryParse port)
    | _ => none

/-- `_generateName`, with what `nextInt` yields. -/
def generateName (number : Nat) : Text := "Сервер #".toList ++ Nat.toDigits 10 (number + 1000)

/-- A profile with a name, if the port is valid. -/
def profileOf (number : Nat) (host : Text) (port : Option Int) (password : Text) :
    Option ServerProfile :=
  if isValidPort port then
    some ⟨some (generateName number), some host, port, some password, none⟩
  else none

/-- `_parseV2`. -/
def parseV2 (number : Nat) (link : Text) : Option ServerProfile := do
  let query ← queryParameters link
  if parameter query "v".toList ≠ some "2".toList then failure
  let host ← parameter query "host".toList
  let password ← parameter query "password".toList
  if host = [] ∨ password = [] then failure
  profileOf number host (intTryParse ((parameter query "peer".toList).getD [])) password

/-- `_parseLegacy`. -/
def parseLegacy (number : Nat) (link : Text) : Option ServerProfile := do
  let withoutScheme := link.drop scheme.length
  let index ← lastIndexOf '@' withoutScheme
  if index = 0 ∨ index + 1 = withoutScheme.length then failure
  let password ← decodeComponent (withoutScheme.take index)
  let (host, port) ← splitAddress (withoutScheme.drop (index + 1))
  profileOf number host port password

/-- `parse`. -/
def parse (number : Nat) (link : Text) : Option ServerProfile :=
  let trimmed := link.trim
  if ¬trimmed.startsWith scheme then none
  else if trimmed.startsWith connectPrefix then parseV2 number trimmed
  else parseLegacy number trimmed

end Links

end Focsq.Import
