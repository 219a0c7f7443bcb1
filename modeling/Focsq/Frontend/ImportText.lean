import Focsq.Frontend.Import
import Focsq.Frontend.Logs

/-!
# Importing links

`ImportService` of `import.dart`, with what it uses of `DbService`. Every link of a text becomes a
profile, unless it is none or a stored profile has the same address and the same port.

A profile is stored with a new number of its own, so that it goes behind the others. A save that
fails is rolled back. In which order profiles with equal names are read is not defined.
-/

namespace Focsq.Import

open ConnectStart (ServerProfile)

section Candidates

/-- What `_linkPattern` matches at the beginning of a text. -/
def matchLink (text : Text) : Option Text :=
  let start := text.take scheme.length
  let path := (text.drop scheme.length).takeWhile fun char => !Logs.isSpace char
  if start.map Char.toLower = scheme ∧ path ≠ [] then some (start ++ path) else none

/-- The matches in a text, behind as many characters as belong to an earlier one. -/
def matchesBehind : Nat → Text → List Text
  | _, [] => []
  | taken + 1, _ :: rest => matchesBehind taken rest
  | 0, char :: rest =>
    match matchLink (char :: rest) with
    | some link => link :: matchesBehind (link.length - 1) rest
    | none => matchesBehind 0 rest

/-- `_extractCandidates`. -/
def extractCandidates (text : Text) : List Text := matchesBehind 0 text

end Candidates

/-- `ImportProblem`. -/
inductive ImportProblem where
  /-- `emptyClipboard`. -/
  | emptyClipboard
  /-- `readError`. -/
  | readError
  /-- `invalidFormat`. -/
  | invalidFormat
  /-- `saveFailed`. -/
  | saveFailed
  deriving DecidableEq

/-- `ImportResult`. -/
structure ImportResult where
  /-- `imported`. -/
  imported : Nat := 0
  /-- `duplicates`. -/
  duplicates : Nat := 0
  /-- `invalid`. -/
  invalid : Nat := 0
  /-- `problem`. -/
  problem : Option ImportProblem := none
  deriving DecidableEq

/-- What an import depends on besides the text and the stored profiles. -/
structure Surroundings where
  /-- `toLowerCase`. -/
  toLowerCase : Text → Text
  /-- What `nextInt` yields for each link. -/
  numbers : Nat → Nat
  /-- Whether the stored profiles can be read. -/
  readable : Bool
  /-- Whether each save goes through. -/
  saves : Nat → Bool

namespace Surroundings

variable (surroundings : Surroundings)

/-- `_compareByName`. -/
def compareByName (first second : ServerProfile) : Ordering :=
  (surroundings.toLowerCase (first.name.getD [])).compareTo
    (surroundings.toLowerCase (second.name.getD []))

/-- `getProfiles`. -/
def getProfiles (stored : List ServerProfile) : Option (List ServerProfile) :=
  if surroundings.readable then
    some (stored.mergeSort fun first second => surroundings.compareByName first second != .gt)
  else none

/-- `saveProfile`, for the save with a number. -/
def saveProfile (index : Nat) (profile : ServerProfile) (stored : List ServerProfile) :
    Option (List ServerProfile) :=
  if surroundings.saves index then some (stored ++ [profile]) else none

/-- The profiles that links are parsed to. -/
def profilesOf (candidates : List Text) : List ServerProfile :=
  candidates.zipIdx.filterMap fun (link, index) => parse (surroundings.numbers index) link

/-- `extractProfiles`. -/
def extractProfiles (text : Text) : List ServerProfile :=
  surroundings.profilesOf (extractCandidates text)

/-- One turn of the loop that looks for duplicates. -/
def sortOut (existing : List ServerProfile) (sorted : List ServerProfile × Nat)
    (profile : ServerProfile) : List ServerProfile × Nat :=
  if existing.any fun other => other.ip == profile.ip && other.port == profile.port then
    (sorted.1, sorted.2 + 1)
  else (sorted.1 ++ [profile], sorted.2)

/-- The loop that saves profiles, and whether all of them are saved. -/
def saveAll (index : Nat) : List ServerProfile → List ServerProfile → Bool × List ServerProfile
  | [], stored => (true, stored)
  | profile :: rest, stored =>
    match surroundings.saveProfile index profile stored with
    | none => (false, stored)
    | some stored => saveAll (index + 1) rest stored

/-- `importText`, with the profiles that are stored afterwards. -/
def importText (stored : List ServerProfile) (text : Text) : ImportResult × List ServerProfile :=
  let candidates := extractCandidates text
  let profiles := surroundings.profilesOf candidates
  let invalid := candidates.length - profiles.length
  if profiles = [] then ({ problem := some .invalidFormat }, stored)
  else match surroundings.getProfiles stored with
    | none => ({ problem := some .saveFailed }, stored)
    | some existing =>
      let (fresh, duplicates) := profiles.foldl (sortOut existing) ([], 0)
      if fresh = [] then ({ duplicates := duplicates, invalid := invalid }, stored)
      else match surroundings.saveAll 0 fresh stored with
        | (false, stored) =>
          ({ problem := some .saveFailed, duplicates := duplicates, invalid := invalid }, stored)
        | (true, stored) =>
          ({ imported := fresh.length, duplicates := duplicates, invalid := invalid }, stored)

/-- `importFromClipboard`, with what is read from the clipboard unless that fails. -/
def importFromClipboard (stored : List ServerProfile) (clipboard : Option (Option Text)) :
    ImportResult × List ServerProfile :=
  match clipboard with
  | none => ({ problem := some .readError }, stored)
  | some data =>
    match data.map Text.trim with
    | none | some [] => ({ problem := some .emptyClipboard }, stored)
    | some text => surroundings.importText stored text

end Surroundings

end Focsq.Import
