import Focsq.Frontend.AutoCalls
import Focsq.Frontend.VkToken

/-!
# Starting the client

What `start` of `connect.dart` does from its call to the launch of the core, with everything that it
learns from outside, and what becomes of the calls that it has made when the core exits. Here one
start is followed by itself; `ConnectTasks` is about what else happens in the meantime.
-/

namespace Focsq.ConnectStart

open AutoCalls

/-- What `_startInternal` reads of the settings. -/
structure Settings where
  /-- `hashes`. -/
  hashes : Text
  /-- `workMode`. -/
  workMode : Text
  /-- `customHashes`. -/
  customHashes : Text
  /-- `deviceId`. -/
  deviceId : Text
  /-- `fingerprint`, in lower case. -/
  fingerprint : Text

/-- `ServerProfile`. -/
structure ServerProfile where
  /-- `name`. -/
  name : Option Text
  /-- `ip`. -/
  ip : Option Text
  /-- `port`. -/
  port : Option Int
  /-- `password`. -/
  password : Option Text
  /-- `power`. -/
  power : Option Int
  deriving DecidableEq

/-- The platform. -/
inductive Platform where
  /-- Windows. -/
  | windows
  /-- Linux. -/
  | linux
  /-- Another one. -/
  | other
  deriving DecidableEq

/-- Where the hashes come from. -/
inductive HashMode where
  /-- `auto_js`. -/
  | autoJs
  /-- `auto_api`. -/
  | autoApi
  /-- `manual`. -/
  | manual
  deriving DecidableEq

/-- How the core authorises itself. -/
inductive AuthMode where
  /-- `auto_js`. -/
  | autoJs
  /-- `legacy`. -/
  | legacy
  /-- `vkcalls`. -/
  | vkcalls
  deriving DecidableEq

/-- What `start` learns from outside. What throws says so with its text. -/
structure Environment (δ : Type) where
  /-- `_ensureRust`. -/
  rust : Except Text Unit
  /-- `DbService.getSettings`. -/
  settings : Except Text Settings
  /-- `DbService.getActiveProfile`. -/
  profile : Except Text (Option ServerProfile)
  /-- The platform. -/
  platform : Platform
  /-- `_isAdmin`. -/
  isAdmin : Bool
  /-- `TunRights.ensureForConnect`. -/
  rights : Except Text (Option Text)
  /-- `VkToken.readWithStatus`. -/
  vk : VkToken.Read
  /-- `_nextGeneration`. -/
  generation : Nat
  /-- `_generateSalt`. -/
  salt : Except Text Text
  /-- The call of `startCsqttClient`. -/
  launch : Except Text Unit

/-- `AppClientConfig`, without what is always the same. -/
structure AppClientConfig where
  /-- `vk`. -/
  vk : Text
  /-- `vkHashMode`. -/
  vkHashMode : HashMode
  /-- `peer`. -/
  peer : Text
  /-- `workers`. -/
  workers : Int
  /-- `allowHashRedistribution`. -/
  allowHashRedistribution : Bool
  /-- `deviceId`. -/
  deviceId : Text
  /-- `password`. -/
  password : Text
  /-- `vkAuthMode`. -/
  vkAuthMode : AuthMode
  /-- `fingerprint`. -/
  fingerprint : Text
  /-- `generation`. -/
  generation : Nat
  /-- `salt`. -/
  salt : Text
  /-- `tunUds`. -/
  tunUds : Text
  /-- `vkJsToken`. -/
  vkJsToken : Text

/-- How a start ends. -/
inductive Outcome where
  /-- Something has thrown. -/
  | thrown (error : Text)
  /-- There is an issue. -/
  | failed (issue : Text)
  /-- The core was launched. -/
  | launched (config : AppClientConfig)

/-- What is known before any call is made. -/
structure Plan where
  /-- `settings`. -/
  settings : Settings
  /-- `ip`. -/
  ip : Text
  /-- `port`. -/
  port : Int
  /-- `password`. -/
  password : Text
  /-- `hashMode`. -/
  hashMode : HashMode
  /-- `authMode`. -/
  authMode : AuthMode
  /-- `vkToken`. -/
  vkToken : Option Text
  /-- `workers`. -/
  workers : Int

section Prepare

/-- `isValidPort`. -/
def isValidPort (port : Option Int) : Bool := port.any fun port => 0 < port && port ≤ 65535

/-- `_normalizeWorkers`. -/
def normalizeWorkers (requested : Option Int) : Int := requested.getD 9

/-- The mode of the hashes in the settings. -/
def HashMode.ofText (hashes : Text) : HashMode :=
  if hashes = "Авто ВК".toList then .autoJs
  else if hashes = "Авто API".toList then .autoApi
  else .manual

/-- The mode of authorisation in the settings. -/
def AuthMode.ofText (workMode : Text) : AuthMode :=
  if workMode = "Авто ВК".toList then .autoJs
  else if workMode = "Капча".toList then .legacy
  else .vkcalls

/-- The issue of a profile, by its name. -/
def profileIssue (profile : ServerProfile) (text : Text) : Outcome :=
  .failed ("В профиле «".toList ++ profile.name.getD "null".toList ++ "» ".toList ++ text)

variable {δ : Type}

/-- The checks of `_startInternal` for the platform. -/
def Environment.allowed (environment : Environment δ) : Except Outcome Unit :=
  match environment.platform with
  | .windows =>
    if environment.isAdmin then .ok ()
    else .error (.failed ("Запустите приложение от имени администратора " ++
      "(нужны права на создание TUN-адаптера)").toList)
  | .linux =>
    match environment.rights with
    | .error error => .error (.thrown error)
    | .ok (some issue) => .error (.failed issue)
    | .ok none => .ok ()
  | .other => .ok ()

/-- The token, if one is needed. -/
def Environment.token (environment : Environment δ) (hashMode : HashMode) (authMode : AuthMode) :
    Except Outcome (Option Text) :=
  if hashMode = .autoApi ∨ hashMode = .autoJs ∨ authMode = .autoJs then
    match environment.vk.issue with
    | some issue => .error (.failed ("Токен ВК недоступен: ".toList ++ issue))
    | none =>
      if (environment.vk.token.getD []).isEmpty then
        .error (.failed "Требуется вход ВКонтакте (Настройки → Аккаунт ВКонтакте)".toList)
      else .ok environment.vk.token
  else .ok none

/-- `_startInternal` up to where calls are made. -/
def Environment.prepare (environment : Environment δ) : Except Outcome Plan := do
  environment.rust.mapError .thrown
  let settings ← environment.settings.mapError .thrown
  let found ← environment.profile.mapError .thrown
  let profile ← found.elim (.error (.failed "Сначала добавьте и выберите профиль сервера".toList))
    .ok
  let ip := (profile.ip.getD []).trim
  let password := (profile.password.getD []).trim
  if ip.isEmpty ∨ ¬ isValidPort profile.port then
    throw (profileIssue profile "не заполнены адрес или порт".toList)
  if password.isEmpty then throw (profileIssue profile "не указан пароль".toList)
  environment.allowed
  let authMode := AuthMode.ofText settings.workMode
  let hashMode := if authMode = .autoJs then .autoJs else HashMode.ofText settings.hashes
  let vkToken ← environment.token hashMode authMode
  if hashMode = .manual ∧ settings.customHashes.trim.isEmpty then
    throw (.failed "Для ручного режима заполните хеши (Настройки → Хеши)".toList)
  return ⟨settings, ip, profile.port.getD 0, password, hashMode, authMode, vkToken,
    normalizeWorkers profile.power⟩

end Prepare

section Start

/-- What the service keeps of the calls. -/
structure Held where
  /-- `_autoCallIds`. -/
  autoCallIds : List Text
  /-- `_autoApiToken`. -/
  autoApiToken : Option Text
  /-- `_callsManager` — whether there is one. -/
  callsManager : Bool
  deriving DecidableEq

/-- The service keeps no calls. -/
def Held.none : Held := ⟨[], .none, false⟩

variable {δ : Type} (doubles : Json.Doubles δ)

/-- The service and the server after a start. -/
structure Started (δ : Type) where
  /-- What the service keeps. -/
  held : Held
  /-- What has happened at the server. -/
  api : Api δ
  /-- Whether `VkToken.delete` was called. -/
  tokenDeleted : Bool
  /-- How the start has ended. -/
  outcome : Outcome

/-- The end of `_startInternal`, from the configuration on. -/
def Environment.launchCore (environment : Environment δ) (plan : Plan) (vkValue : Text)
    (allowRedistribution : Bool) : Outcome :=
  match environment.salt with
  | .error error => .thrown error
  | .ok salt =>
    match environment.launch with
    | .error error => .thrown error
    | .ok () =>
      .launched
        { vk := vkValue
          vkHashMode := plan.hashMode
          peer := plan.ip ++ ':' :: Json.writeInt plan.port
          workers := plan.workers
          allowHashRedistribution := allowRedistribution
          deviceId := plan.settings.deviceId
          password := plan.password
          vkAuthMode := plan.authMode
          fingerprint := plan.settings.fingerprint
          generation := environment.generation
          salt := salt
          tunUds := if environment.platform = .windows then "wintun".toList else "tun".toList
          vkJsToken := plan.vkToken.getD [] }

/-- The line about a call that was made. -/
def progressLine (created total : Nat) : Text :=
  "[АВТО API] Звонок создан: ".toList ++ fraction created total

/-- The issue when there is no batch. -/
def batchIssue (tokenInvalidSeen : Bool) : Text :=
  if tokenInvalidSeen then "Токен ВК недействителен — выполните вход заново".toList
  else "Не удалось создать звонки VK — проверь интернет и попробуй ещё раз".toList

/-- `_startInternal` from where calls are made. -/
def Environment.startPlan (environment : Environment δ) (held : Held) (api : Api δ) (plan : Plan) :
    Started δ :=
  if plan.hashMode = .autoApi then
    let created := api.createForWorkers doubles (plan.vkToken.getD []) plan.workers progressLine
    match created.2 with
    | .error () => ⟨held, created.1, false, .thrown "TypeError".toList⟩
    | .ok none =>
      ⟨held, created.1, created.1.tokenInvalidSeen,
        .failed (batchIssue created.1.tokenInvalidSeen)⟩
    | .ok (some batch) =>
      ⟨⟨batch.callIds, plan.vkToken, true⟩, created.1, false,
        environment.launchCore plan ((batch.hashes.intersperse ",".toList).flatten)
          batch.needsWorkerRedistribution⟩
  else
    ⟨held, api, false, environment.launchCore plan plan.settings.customHashes.trim false⟩

/-- `_startInternal`. -/
def Environment.startInternal (environment : Environment δ) (held : Held) (api : Api δ) :
    Started δ :=
  match environment.prepare with
  | .error outcome => ⟨held, api, false, outcome⟩
  | .ok plan => environment.startPlan doubles held api plan

/-- `_finishAutoApiCalls`. -/
def finishAutoApiCalls (held : Held) (api : Api δ) : Held × Api δ :=
  match held.autoApiToken with
  | none => (.none, api)
  | some token =>
    if held.autoCallIds = [] ∨ held.callsManager = false then (.none, api)
    else
      (.none, ((api.add ("[АВТО API] Завершаю звонки (".toList ++
        Nat.toDigits 10 held.autoCallIds.length ++ ")...".toList)).finishAll token
          held.autoCallIds).1)

end Start

end Focsq.ConnectStart
