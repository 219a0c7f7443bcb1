import Focsq.Lib.Json

/-!
# The log

`LogService` of `logs.dart`. What is added to the log becomes an entry of its own, takes the place of
an older entry with the same key, or counts up the last entry. Outside of the developer mode, what
is shown of a line depends on what it is about.

The clock and the text of an amount of data are parameters.
-/

namespace Focsq.Logs

section Lines

/-- `maxLines`. -/
def maxLines : Nat := 2000

/-- `_keyedScanWindow`. -/
def keyedScanWindow : Nat := 200

/-- The lower case of a character. Other characters have none that occurs in the words that
`isErrorLine` looks for. -/
def toLower (char : Char) : Char :=
  let code := char.toNat
  if 0x41 ≤ code ∧ code ≤ 0x5A ∨ 0x410 ≤ code ∧ code ≤ 0x42F then Char.ofNat (code + 0x20)
  else if 0x400 ≤ code ∧ code ≤ 0x40F then Char.ofNat (code + 0x50)
  else if code = 0x130 then 'i'
  else char

/-- `toLowerCase`. -/
def toLowerCase (text : Text) : Text := text.map toLower

/-- The words of an error. -/
def errorWords : List Text :=
  ["ошибка".toList, "error".toList, "фатал".toList, "fatal".toList, "failed".toList,
    "refused".toList, "timeout".toList, "не удалась".toList, "недоступен".toList, "✗".toList]

/-- `isErrorLine`. -/
def isErrorLine (line : Text) : Bool := errorWords.any (toLowerCase line).contains

/-- `\s` of a regular expression. -/
def isSpace (char : Char) : Bool := Text.isWhite char && char.toNat != 0x85

/-- `_timestampRegex` is replaced by nothing. -/
def dropTimestamp (entry : Text) : Text :=
  let digits := [1, 2, 4, 5, 7, 8].all fun index => (entry[index]?).any Char.isDigit
  if entry[0]? = some '[' ∧ digits = true ∧ entry[3]? = some ':' ∧ entry[6]? = some ':' ∧
      entry[9]? = some ']' then
    (entry.drop 10).dropWhile isSpace
  else entry

/-- A closing bracket. -/
def isClosing (char : Char) : Bool := char == ')' || char == ']'

/-- An opening bracket. -/
def isOpening (char : Char) : Bool := char == '(' || char == '['

/-- The digits at the end of a line in `(x…)`, and what comes before the bracket, both from the
end. -/
def countFromEnd (line : Text) : Option (Text × Text) :=
  let reversed := line.reverse.dropWhile isSpace
  let digits := reversed.tail.takeWhile Char.isDigit
  let before := reversed.tail.dropWhile Char.isDigit
  if (reversed.head?).any isClosing ∧ digits ≠ [] ∧ before.head? = some 'x' ∧
      (before.tail.head?).any isOpening then
    some (digits, before.tail.tail)
  else none

/-- `_countRegex` is replaced by nothing. -/
def dropCount (line : Text) : Text :=
  match countFromEnd line with
  | some found => (found.2.dropWhile isSpace).reverse
  | none => line

/-- `_extractBody`. -/
def extractBody (line : Text) : Text := (dropCount (dropTimestamp line).trim).trim

/-- `_extractCount`. What does not fit into 64 bits is not parsed. -/
def extractCount (line : Text) : Int :=
  match countFromEnd line with
  | some found =>
    let count := Nat.ofDigitChars 10 found.1.reverse 0
    if count < 2 ^ 63 then count else 1
  | none => 1

/-- `_resolveKey`. -/
def resolveKey (body : Text) : Option Text :=
  if body.startsWith "[ВОРКЕР] Поток готов".toList then some "worker_ready".toList
  else if body.startsWith "[СЕТЬ]".toList then some "network_stats".toList
  else if body.startsWith "[TURN]".toList ∧ body.contains "CreatePermission".toList then
    some "turn_permission".toList
  else if body.startsWith "[TURN]".toList ∧ body.contains "ChannelBind".toList then
    some "turn_channel".toList
  else if body.startsWith "[TURN]".toList ∧
      (body.contains "Сессия готова".toList ∨ body.contains "готова к передаче".toList) then
    some "turn_ready".toList
  else if body.startsWith "[TURN]".toList ∧ body.contains "Refresh аллокации".toList then
    some "turn_refresh".toList
  else if body.startsWith "[TURN]".toList ∧ body.contains "Аллокация активна".toList then
    some "turn_alloc".toList
  else if body.startsWith "[КАПЧА]".toList ∧
      (body.contains "Решение".toList ∨ body.contains "решается".toList) then
    some "captcha_progress".toList
  else if body.startsWith "[ЗВОНКИ]".toList ∧ body.contains "Авторизация VK".toList then
    some "vk_auth".toList
  else if body.startsWith "[ЗВОНКИ]".toList ∧ body.contains "Серверы TURN".toList then
    some "vk_turn".toList
  else if body.startsWith "[ЗВОНКИ]".toList ∧ body.contains "Креды получены".toList then
    some "vk_creds".toList
  else if body.startsWith "[TUN]".toList ∧ body.contains "Конфиг сети получен".toList then
    some "tun_config".toList
  else if body.startsWith "[TUN]".toList ∧ body.contains "Сетевой адаптер настроен".toList then
    some "tun_adapter_ready".toList
  else if body.startsWith "[TUN]".toList ∧ body.contains "Маршрутизация и DNS".toList then
    some "tun_routes_ready".toList
  else none

end Lines

section Visible

variable {δ : Type} (doubles : Json.Doubles δ) (megabytes : Int → Text)

/-- The members of an object; otherwise the cast throws. -/
def asMap (json : Text) : Option (List (Text × Json δ)) :=
  match Json.decode doubles json with
  | some (.object members) => some members
  | _ => none

/-- A number of the statistics; otherwise the cast throws. -/
def statOf (members : List (Text × Json δ)) (key : Text) : Option Int :=
  match Json.asInt doubles (members.lookup key) with
  | .ok value => some (value.getD 0)
  | .error () => none

/-- The line about the statistics. -/
def statsLine (json : Text) : Option Text := do
  let members ← asMap doubles json
  let active ← statOf doubles members "active".toList
  let up ← statOf doubles members "bytes_up".toList
  let down ← statOf doubles members "bytes_down".toList
  return "[СЕТЬ] Активных потоков: ".toList ++ Json.writeInt active ++ " | Трафик: ".toList ++
    megabytes ((up + down).bmod (2 ^ 64)) ++ " МБ".toList

/-- The line about the configuration. -/
def configLine (json : Text) : Option Text := do
  let members ← asMap doubles json
  let config := (Json.asText doubles (members.lookup "config".toList)).getD []
  if config.startsWith "TUNCONF:".toList then
    let conf : Text := (config.replaceFirst "TUNCONF:".toList []).trim
    let parts := conf.splitOn ':'
    return "[TUN] Конфиг сети получен: ".toList ++ (parts[0]?).getD [] ++ " (DNS: ".toList ++
      (parts[1]?).getD [] ++ ")".toList
  else none

/-- What is shown of an event of the core. -/
def eventLine (payload : Text) : Option Text :=
  match Text.indexOf ['|'] payload with
  | none => none
  | some pipe =>
    let type := payload.take pipe
    let jsonStr := payload.drop (pipe + 1)
    if type = "READY".toList then some "[ВОРКЕР] Поток готов ✓".toList
    else if type = "STATS".toList then statsLine doubles megabytes jsonStr
    else if type = "PROGRESS".toList then none
    else if type = "CONFIG".toList then configLine doubles jsonStr
    else if type = "SERVER_RESTART".toList then some "[СЕРВЕР] Сервер перезапущен панелью".toList
    else none

/-- The rest of a text after what is in brackets at its front, with white space before it. -/
def afterBrackets (text : Text) : Option Text :=
  let start := text.dropWhile isSpace
  let rest := start.tail.dropWhile (· != ')')
  if start.head? = some '(' ∧ rest ≠ [] then some rest.tail else none

/-- `replaceAll(RegExp(r'\s*\([^)]*\)'), '')`, for a text that is not longer than the first
argument. -/
def dropBrackets : Nat → Text → Text
  | 0, text => text
  | _ + 1, [] => []
  | fuel + 1, char :: rest =>
    match afterBrackets (char :: rest) with
    | some after => dropBrackets fuel after
    | none => char :: dropBrackets fuel rest

/-- `keepPrefixes`. -/
def keepPrefixes : List Text :=
  ["[КОННЕКТ]".toList, "[ЯДРО]".toList, "[ОКНО]".toList, "[Туннель]".toList, "[СТАТУС]".toList,
    "[ТРЕЙ]".toList, "[ВК]".toList, "[АВТОСТАРТ]".toList]

/-- The part of `_userLine` about calls and captchas, and all that is left. -/
def otherLine (trimmed : Text) : Option Text :=
  if trimmed.startsWith "[VK JS]".toList then
    if trimmed.contains "Звонок VK создан".toList ∨ trimmed.contains "Владелец вышел".toList then
      some trimmed
    else none
  else if trimmed.startsWith "[АВТО API]".toList then some trimmed
  else if trimmed.startsWith "[ЗВОНКИ]".toList then
    if trimmed.contains "Запрос параметров".toList ∨ trimmed.contains "Инициализация".toList ∨
        trimmed.contains "Креды получены".toList then none
    else some trimmed
  else if trimmed.startsWith "[КРЕД".toList then none
  else if trimmed.contains "[VKCalls] Identity - Name:".toList then none
  else if trimmed.contains "Success via VK Calls".toList ∨
      trimmed.contains "[VKCalls] SUCCESS".toList then
    some "[ЗВОНКИ] Авторизация VK пройдена ✓".toList
  else if trimmed.contains "Звонки не прошли".toList then
    let separator := (Text.indexOf ['·'] trimmed).getD 0
    let tail := if 0 < separator then trimmed.drop separator else []
    some (Text.trim ("[ЗВОНКИ] Звонки не прошли ".toList ++ tail))
  else if trimmed.startsWith "[КАПЧА]".toList then
    let clean := (dropBrackets trimmed.length trimmed).trim
    if clean.contains "Smart Captcha решена".toList ∨ clean.contains "решена".toList then
      some "[КАПЧА] Капча успешно решена ✓".toList
    else if clean.contains "Решаю".toList ∨ clean.contains "старт".toList then
      some "[КАПЧА] Решение капчи...".toList
    else some clean
  else if trimmed.startsWith "[TURN]".toList then
    if isErrorLine trimmed then some trimmed else none
  else if keepPrefixes.any trimmed.startsWith then some trimmed
  else if trimmed.startsWith "[ВОРКЕР".toList ∨ trimmed.startsWith "[Воркер".toList then
    if isErrorLine trimmed then some trimmed else some "[ВОРКЕР] Поток готов ✓".toList
  else none

/-- `_userLine` — what is shown of a line, if anything. -/
def userLine (line : Text) : Option Text :=
  let trimmed := line.trim
  if trimmed.startsWith "__CSQTT_EVENT__|".toList then
    eventLine doubles megabytes (trimmed.drop "__CSQTT_EVENT__|".length)
  else if trimmed.startsWith "CAPTCHA_SOLVE|".toList then none
  else if trimmed.contains "FATAL_AUTH".toList ∨ trimmed.contains "[ФАТАЛ]".toList ∨
      trimmed.contains "[ОШИБКА]".toList ∨ trimmed.contains "невосстановимая".toList ∨
      trimmed.contains "panic".toList ∨ trimmed.contains "PANIC".toList then
    some trimmed
  else if trimmed.contains "Exclude-маршрут".toList ∨ trimmed.contains "Exclude-подсеть".toList ∨
      trimmed.startsWith "[TUN]".toList ∧ trimmed.contains "перехвата ещё нет".toList then
    none
  else if trimmed.contains "Wintun-адаптер создан".toList ∨
      trimmed.contains "wintun-адаптер создан".toList ∨
      trimmed.contains "Wintun создан".toList then
    some "[TUN] Wintun-адаптер создан ✓".toList
  else if trimmed.contains "TUN-адаптер настроен".toList ∨
      trimmed.contains "адаптер настроен".toList then
    some "[TUN] Сетевой адаптер настроен (IP/DNS/маршруты) ✓".toList
  else if trimmed.startsWith "[КЛИЕНТ] Tunnel IP:".toList then
    some ("[TUN] ".toList ++ Text.trim (trimmed.drop "[КЛИЕНТ]".length))
  else if trimmed.startsWith "[TUN] Настроен:".toList then
    some "[TUN] Маршрутизация и DNS применены ✓".toList
  else if trimmed.startsWith "[TUN]".toList then some trimmed
  else if trimmed.startsWith "[КЛИЕНТ] Слушаю:".toList ∨
      trimmed.startsWith "[КЛИЕНТ] Воркеров:".toList ∨
      trimmed.startsWith "[КЛИЕНТ] Протокол:".toList then
    some trimmed
  else if trimmed.startsWith "[WRAP]".toList then none
  else otherLine trimmed

end Visible

section Service

/-- The time of a day. -/
structure Time where
  /-- `hour`. -/
  hour : Fin 24
  /-- `minute`. -/
  minute : Fin 60
  /-- `second`. -/
  second : Fin 60
  deriving DecidableEq

/-- `two` — a number with two digits. -/
def two (value : Nat) : Text := [Nat.digitChar (value / 10), Nat.digitChar (value % 10)]

/-- `_timestamp`. -/
def timestamp (now : Time) : Text :=
  two now.hour ++ ':' :: two now.minute ++ ':' :: two now.second

/-- An entry of the log. -/
def stamped (now : Time) (visible : Text) : Text := '[' :: (timestamp now ++ "] ".toList ++ visible)

/-- An entry with how often it was added. -/
def counted (now : Time) (visible : Text) (count : Int) : Text :=
  stamped now (visible ++ " (x".toList ++ Json.writeInt count ++ ")".toList)

/-- `LogService`. -/
structure LogService where
  /-- `developerMode`. -/
  developerMode : Bool
  /-- `_lines`. -/
  lines : List Text
  /-- `_version`. -/
  version : Nat
  /-- `_notifyTimer` — whether the timer runs. -/
  notifyTimer : Bool
  deriving DecidableEq

/-- The log at first. -/
def LogService.new : LogService := ⟨false, [], 0, false⟩

/-- What is done with a line. -/
inductive Change where
  /-- Nothing. -/
  | ignored
  /-- It becomes an entry of its own. -/
  | appended (entry : Text)
  /-- The entry takes the place of another one. -/
  | replaced (index : Nat) (entry : Text)
  /-- The log was cleared before. -/
  | cleared
  deriving DecidableEq

/-- `_findLineByKey`, from the last entry on. -/
def LogService.findLineByKey (logs : LogService) (key : Text) : Option Nat :=
  let start := logs.lines.length - keyedScanWindow
  let recent := logs.lines.drop start
  (recent.reverse.findIdx? fun line => resolveKey (extractBody line) == some key).map
    fun back => logs.lines.length - 1 - back

/-- `_trimAndNotify`. -/
def LogService.trimAndNotify (logs : LogService) : LogService :=
  { logs with
    lines := logs.lines.drop (logs.lines.length - maxLines)
    version := logs.version + 1
    notifyTimer := true }

/-- Whether entries with this key are counted. -/
def countsKey (key : Text) : Bool :=
  key == "worker_ready".toList || key.startsWith "turn_".toList || key == "vk_auth".toList

/-- The next count of an entry. -/
def nextCount (line : Text) : Int := (extractCount line + 1).bmod (2 ^ 64)

/-- The end of `add`, when no entry with the same key was found. -/
def LogService.changeLast (logs : LogService) (first second : Time) (visible : Text) : Change :=
  let last := logs.lines.getLast?.getD []
  if extractBody last = visible then
    .replaced (logs.lines.length - 1) (counted second visible (nextCount last))
  else .appended (stamped first visible)

/-- The part of `add` after it is known what is visible. -/
def LogService.changeVisible (logs : LogService) (first second : Time) (visible : Text) : Change :=
  if isErrorLine visible = true ∨ logs.lines = [] then .appended (stamped first visible)
  else
    match if logs.developerMode then none else resolveKey visible with
    | none => logs.changeLast first second visible
    | some key =>
      match logs.findLineByKey key with
      | none => logs.changeLast first second visible
      | some index =>
        if countsKey key then
          .replaced index (counted second visible (nextCount ((logs.lines[index]?).getD [])))
        else .replaced index (stamped first visible)

/-- Carry out a change. -/
def LogService.apply (logs : LogService) : Change → LogService
  | .ignored | .cleared => logs
  | .appended entry => { logs with lines := logs.lines ++ [entry] }.trimAndNotify
  | .replaced index entry => { logs with lines := logs.lines.set index entry }.trimAndNotify

/-- `clear`. -/
def LogService.clear (logs : LogService) : LogService :=
  if logs.lines = [] then { logs with notifyTimer := false }
  else { logs with lines := [], version := logs.version + 1, notifyTimer := false }

variable {δ : Type} (doubles : Json.Doubles δ) (megabytes : Int → Text)

/-- What is visible of a line in the mode of the log, if anything. -/
def LogService.visible (logs : LogService) (line : Text) : Option Text :=
  if line.trim = [] then none
  else if logs.developerMode then some line.trim
  else (userLine doubles megabytes line.trim).filter (· ≠ [])

/-- What `add` does with a line. The clock is read once more when a count is written. -/
def LogService.change (logs : LogService) (first second : Time) (line : Text) : Change :=
  match logs.visible doubles megabytes line with
  | none => .ignored
  | some visible => logs.changeVisible first second visible

/-- `add`. -/
def LogService.add (logs : LogService) (first second : Time) (line : Text) : LogService :=
  logs.apply (logs.change doubles megabytes first second line)

/-- The line that `setDeveloperMode` adds. -/
def modeLine (value : Bool) : Text :=
  if value then "── Режим разработчика: полные логи ──".toList
  else "── Обычный режим логов ──".toList

/-- `setDeveloperMode`. -/
def LogService.setDeveloperMode (logs : LogService) (first second : Time) (value : Bool) :
    LogService × Change :=
  if logs.developerMode = value then (logs, .ignored)
  else
    let changed := { logs with developerMode := value }
    if changed.lines = [] then (changed, .ignored)
    else (changed.clear.add doubles megabytes first second (modeLine value), .cleared)

/-- A call. -/
inductive Call where
  /-- `add`. -/
  | add (line : Text)
  /-- `setDeveloperMode`. -/
  | setDeveloperMode (value : Bool)
  /-- `clear`. -/
  | clear
  deriving DecidableEq

/-- A call at some time. -/
structure Timed where
  /-- The call. -/
  call : Call
  /-- The time when the clock is read first. -/
  first : Time
  /-- The time when it is read again. -/
  second : Time
  deriving DecidableEq

/-- A call, with what it has done. -/
def LogService.step (logs : LogService) (timed : Timed) : LogService × Change :=
  match timed.call with
  | .add line =>
    (logs.add doubles megabytes timed.first timed.second line,
      logs.change doubles megabytes timed.first timed.second line)
  | .setDeveloperMode value =>
    logs.setDeveloperMode doubles megabytes timed.first timed.second value
  | .clear => (logs.clear, .cleared)

end Service

end Focsq.Logs
