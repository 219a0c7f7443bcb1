import Focsq.Frontend.Import

/-!
# Updates

The check of `UpdateService` in `update.dart` for a release that is newer than the installed
version. What comes back for the latest release, or how asking for it fails, is a parameter.
-/

namespace Focsq.Update

open Import (intTryParse)

section Versions

/-- `_normalize`. -/
def normalize (version : Text) : Text :=
  let trimmed := version.trim
  if trimmed.startsWith ['v'] then trimmed.drop 1 else trimmed

/-- The turns of the loop in `_compareVersions`, from an index on. -/
def compareFrom (pa pb : List Text) : Nat → Nat → Ordering
  | 0, _ => .eq
  | turns + 1, i =>
    let sa := if pa.length > i then pa.getD i [] else []
    let sb := if pb.length > i then pb.getD i [] else []
    match intTryParse sa, intTryParse sb with
    | some na, some nb => if na ≠ nb then compare na nb else compareFrom pa pb turns (i + 1)
    | _, _ =>
      let cmp := sa.compareTo sb
      if cmp ≠ .eq then cmp else compareFrom pa pb turns (i + 1)

/-- `_compareVersions`. -/
def compareVersions (a b : Text) : Ordering :=
  let pa := (normalize a).splitOn '.'
  let pb := (normalize b).splitOn '.'
  let count := if pa.length > pb.length then pa.length else pb.length
  compareFrom pa pb count 0

end Versions

section Checks

/-- `_releasesPage`. -/
def releasesPage : Text := "https://github.com/luminescq/focsq/releases".toList

/-- `_releaseNotes`. -/
def releaseNotes (body : Text) : Text :=
  Text.trim (['\n'].intercalate ((body.splitOn '\n').map (List.rdropWhile Text.isWhite)))

/-- What the check reads of a release, as texts. -/
structure Release where
  /-- `tag_name`. -/
  tagName : Option Text
  /-- `html_url`. -/
  htmlUrl : Option Text
  /-- `body`. -/
  body : Option Text

/-- How asking for the latest release fails. -/
inductive Failure where
  /-- `FormatException`, with its message. -/
  | format (message : Text)
  /-- `_HttpError`, with its message. -/
  | httpError (message : Text)
  /-- `HttpException`, with its message. -/
  | http (message : Text)
  /-- `TimeoutException`. -/
  | timeout
  /-- Any other error, as a text. -/
  | other (error : Text)

/-- `UpdateCheckResult`. -/
inductive CheckResult where
  /-- `UpdateAvailable`. -/
  | updateAvailable (version currentVersion releaseUrl notes : Text)
  /-- `UpToDate`. -/
  | upToDate (currentVersion : Text)
  /-- `NoReleases`. -/
  | noReleases (currentVersion : Text)
  /-- `UpdateCheckError`. -/
  | checkError (message : Text)

/-- What is told about a failure. -/
def Failure.message : Failure → Text
  | .format message => "сервер вернул некорректный JSON: ".toList ++ message
  | .httpError message => "сервер ответил: ".toList ++ message
  | .http message => "нет сети: ".toList ++ message
  | .timeout => "сервер не ответил за 15 секунд".toList
  | .other error => "проверка не удалась: ".toList ++ error

/-- `_check`, for the version that is installed and the latest release, if there is one. -/
def check (version : Text) (fetched : Except Failure (Option Release)) : CheckResult :=
  let current := normalize version
  match fetched with
  | .error failure => .checkError failure.message
  | .ok none => .noReleases current
  | .ok (some release) =>
    let tag := normalize (release.tagName.getD [])
    let body := release.body.getD []
    let htmlUrl := release.htmlUrl.getD []
    let url := if htmlUrl ≠ [] then htmlUrl else releasesPage
    if tag = [] then .checkError "релиз без тега версии".toList
    else if compareVersions current tag = .lt then
      .updateAvailable tag current url (releaseNotes body)
    else .upToDate current

end Checks

end Focsq.Update
