import Focsq.Lib.Text

/-!
# The store of the VK token

`VkToken` of `token.dart`. The token lies in the secure storage, or in a file when that storage
fails. Every operation on one of them takes effect or throws, and then it changes nothing.
-/

namespace Focsq.VkToken

/-- What the secure storage throws. -/
inductive StorageError where
  /-- A `PlatformException`. -/
  | platform (code : Text) (message : Option Text)
  /-- Another error, by its text. -/
  | other (text : Text)
  deriving DecidableEq

/-- `describeStorageError`. -/
def describeStorageError : StorageError → Text
  | .other text => text
  | .platform code message =>
    if code = "KeyringLocked".toList then
      ("хранилище заблокировано — разблокируй keyring " ++
        "(пароль обычно вводится при входе в систему)").toList
    else if code = "Libsecret error".toList then
      ("нет Secret Service — установи gnome-keyring " ++
        "(работает и в KDE, в отличие от KWallet)").toList
    else if code = "SecretNotFound".toList then "запись не найдена".toList
    else code ++ ": ".toList ++ message.getD "без описания".toList

/-- What fails during one call. No call does one of these twice. -/
structure Failures where
  /-- Reading from the secure storage. -/
  secureRead : Option StorageError
  /-- Writing to it. -/
  secureWrite : Option StorageError
  /-- Deleting from it. -/
  secureDelete : Option StorageError
  /-- Asking whether the file exists. -/
  fileExists : Option Text
  /-- Creating its directory. -/
  fileCreate : Option Text
  /-- Reading it. -/
  fileRead : Option Text
  /-- Writing it. -/
  fileWrite : Option Text
  /-- Running `chmod` on it. -/
  fileMode : Option Text
  /-- Deleting it. -/
  fileDelete : Option Text
  deriving DecidableEq

/-- Nothing fails. -/
def Failures.never : Failures := ⟨none, none, none, none, none, none, none, none, none⟩

/-- What is stored. -/
structure Store where
  /-- What the secure storage holds. -/
  secure : Option Text
  /-- What the file holds, if it exists. -/
  file : Option Text
  /-- `lastNotice`. -/
  lastNotice : Option Text
  /-- What was added to the log. -/
  log : List Text
  deriving DecidableEq

/-- Nothing is stored. -/
def Store.empty : Store := ⟨none, none, none, []⟩

/-- `LogService.add`. -/
def Store.add (store : Store) (line : Text) : Store := { store with log := store.log ++ [line] }

/-- `_writeSecure` — what failed, if anything. -/
def Store.writeSecure (store : Store) (failures : Failures) (token : Text) : Store × Option Text :=
  match failures.secureWrite with
  | none => ({ store with secure := some token }, none)
  | some error => (store, some (describeStorageError error))

/-- Whether nothing fails that `_deleteFallback` does. -/
def Failures.deletesFile (failures : Failures) : Bool :=
  failures.fileExists.isNone && failures.fileDelete.isNone

/-- `_deleteFallback` — it says nothing of what fails. -/
def Store.deleteFallback (store : Store) (failures : Failures) : Store :=
  if failures.deletesFile then { store with file := none } else store

/-- The notice after the token was saved to the file. -/
def fallbackNotice : Text :=
  ("Токен сохранён в файл без шифрования: на этой системе " ++
    "нет Secret Service (KDE без gnome-keyring или Live-сессия). " ++
    "Установи gnome-keyring, войди заново — токен переедет в " ++ "защищённое хранилище.").toList

/-- The end of `save` when the file fails too. -/
def Store.saveFailed (store : Store) (error : Text) : Store × Option Text :=
  ({ store.add ("[ВК] Токен не сохранён: ".toList ++ error) with lastNotice := none },
    some ("не удалось сохранить токен: ".toList ++ error))

/-- The part of `save` about the file. -/
def Store.saveFallback (linux : Bool) (store : Store) (failures : Failures)
    (token secureIssue : Text) : Store × Option Text :=
  match failures.fileCreate with
  | some error => store.saveFailed error
  | none =>
    match failures.fileWrite with
    | some error => store.saveFailed error
    | none =>
      let written := { store with file := some token }
      match if linux then failures.fileMode else none with
      | some error => written.saveFailed error
      | none =>
        ({ written.add ("[ВК] Secret Service недоступен (".toList ++ secureIssue ++
            ") — токен сохранён в файл без шифрования".toList) with
            lastNotice := some fallbackNotice }, none)

/-- `save` — what failed, if anything. -/
def Store.save (linux : Bool) (store : Store) (failures : Failures) (token : Text) :
    Store × Option Text :=
  match store.writeSecure failures token.trim with
  | (written, none) =>
    ({ written.add "[ВК] Токен сохранён".toList with lastNotice := none }.deleteFallback failures,
      none)
  | (same, some secureIssue) => same.saveFallback linux failures token.trim secureIssue

/-- What `readWithStatus` returns. -/
structure Read where
  /-- `token`. -/
  token : Option Text
  /-- `issue`. -/
  issue : Option Text
  deriving DecidableEq

/-- The part of `readWithStatus` about the file. -/
def Store.readFallback (store : Store) (failures : Failures) (secureIssue : Option Text) :
    Store × Read :=
  match failures.fileExists, store.file with
  | none, some content =>
    if failures.fileRead.isSome then (store, ⟨none, secureIssue⟩)
    else
      let token := content.trim
      if token.isEmpty then (store, ⟨none, secureIssue⟩)
      else
        match store.writeSecure failures token with
        | (written, none) =>
          if failures.fileDelete.isSome then (written, ⟨none, secureIssue⟩)
          else
            ({ written with file := none }.add
              "[ВК] Токен перенесён из файла в защищённое хранилище".toList, ⟨some token, none⟩)
        | (same, some _) => (same, ⟨some token, none⟩)
  | _, _ => (store, ⟨none, secureIssue⟩)

/-- `readWithStatus`. -/
def Store.readWithStatus (store : Store) (failures : Failures) : Store × Read :=
  match failures.secureRead with
  | none =>
    let token := (store.secure.getD []).trim
    if token.isEmpty then store.readFallback failures none else (store, ⟨some token, none⟩)
  | some error => store.readFallback failures (some (describeStorageError error))

/-- `delete` — whether it reports success. -/
def Store.delete (store : Store) (failures : Failures) : Store × Bool :=
  match failures.secureDelete with
  | none => ({ store with secure := none }.deleteFallback failures, true)
  | some error =>
    ((store.add ("[ВК] Не удалось удалить токен: ".toList ++
      describeStorageError error)).deleteFallback failures, false)

/-- A call. -/
inductive Operation where
  /-- `save`. -/
  | save (token : Text)
  /-- `readWithStatus`. -/
  | readWithStatus
  /-- `delete`. -/
  | delete
  deriving DecidableEq

/-- What a call returns. -/
inductive Result where
  /-- That of `save`. -/
  | saved (issue : Option Text)
  /-- That of `readWithStatus`. -/
  | read (result : Read)
  /-- That of `delete`. -/
  | deleted (ok : Bool)
  deriving DecidableEq

/-- A call, with what fails during it. -/
def Store.step (linux : Bool) (store : Store) (call : Operation × Failures) : Store × Result :=
  match call.1 with
  | .save token => ((store.save linux call.2 token).1, .saved (store.save linux call.2 token).2)
  | .readWithStatus => ((store.readWithStatus call.2).1, .read (store.readWithStatus call.2).2)
  | .delete => ((store.delete call.2).1, .deleted (store.delete call.2).2)

end Focsq.VkToken
