import Focsq.Lib.Json

/-!
# Calls made for the workers

`VkAutoCallsManager` of `auto_calls.dart`. The service starts some calls and uses their hashes; when
the client has stopped, it finishes them. What the server answers comes from outside.
-/

namespace Focsq.AutoCalls

/-- What `call` of `VkApiClient` returns: the members of an object, or nothing. -/
abbrev Answer (δ : Type) : Type := Option (List (Text × Json δ))

/-- `VkCallStartResult`. -/
inductive StartResult where
  /-- `VkCallStarted`. -/
  | started (callId hash : Text)
  /-- `VkCallStartApiError`. -/
  | apiError (code : Int) (message : Text)
  /-- `VkCallStartFailed`. -/
  | failed (reason : Text)
  deriving DecidableEq

/-- `tokenInvalidCodes`. -/
def tokenInvalidCodes : List Int := [4, 5, 27, 28]

/-- Whether the token is known to be invalid. -/
def StartResult.tokenInvalid : StartResult → Bool
  | .apiError code _ => decide (code ∈ tokenInvalidCodes)
  | .started _ _ | .failed _ => false

/-- `VkAutoCall`. -/
structure AutoCall where
  /-- `callId`. -/
  callId : Text
  /-- `hash`. -/
  hash : Text
  deriving DecidableEq

/-- `VkCallsBatch`. -/
structure CallsBatch where
  /-- `calls`. -/
  calls : List AutoCall
  /-- `requestedCalls`. -/
  requestedCalls : Nat
  deriving DecidableEq

/-- `callIds`. -/
def CallsBatch.callIds (batch : CallsBatch) : List Text := batch.calls.map AutoCall.callId

/-- `hashes`. -/
def CallsBatch.hashes (batch : CallsBatch) : List Text := batch.calls.map AutoCall.hash

/-- `needsWorkerRedistribution`. -/
def CallsBatch.needsWorkerRedistribution (batch : CallsBatch) : Bool :=
  batch.calls.length < batch.requestedCalls

section Answers

variable {δ : Type} (doubles : Json.Doubles δ)

/-- The hash in the answer to `calls.start`. -/
def hashOf (joinLink okJoinLink : Text) : Text :=
  let hash := okJoinLink.trim
  if hash.isEmpty ∧ ¬ joinLink.isEmpty then
    ((joinLink.trim.splitOn '/').filter fun segment => !segment.isEmpty).getLast?.getD []
  else hash

/-- The part of `startCall` about a response. -/
def startResponse (response : List (Text × Json δ)) : StartResult :=
  let callId := (Json.asText doubles (response.lookup "call_id".toList)).getD []
  let joinLink := (Json.asText doubles (response.lookup "join_link".toList)).getD []
  let okJoinLink := (Json.asText doubles (response.lookup "ok_join_link".toList)).getD []
  let hash := hashOf joinLink okJoinLink
  if callId.isEmpty ∨ hash.isEmpty then
    .failed "пустой call_id/hash в ответе calls.start".toList
  else .started callId hash

/-- `startCall` — it throws on an error whose code is not a number. -/
def startCall : Answer δ → Except Unit StartResult
  | none => .ok (.failed "нет ответа VK API".toList)
  | some json =>
    match json.lookup "error".toList with
    | some (.object error) =>
      match Json.asInt doubles (error.lookup "error_code".toList) with
      | .error () => .error ()
      | .ok code =>
        .ok (.apiError (code.getD 1)
          ((Json.asText doubles (error.lookup "error_msg".toList)).getD []))
    | _ =>
      match json.lookup "response".toList with
      | some (.object response) => .ok (startResponse doubles response)
      | _ => .ok (.failed "нет response в ответе calls.start".toList)

/-- `forceFinishCall` — whether the call is finished. -/
def forceFinishCall : Answer δ → Bool
  | none => false
  | some json =>
    match json.lookup "error".toList with
    | some (.object _) => false
    | _ => true

end Answers

section Manager

/-- What the manager has to do with the server, and what it logs. -/
structure Api (δ : Type) where
  /-- What `calls.start` will answer, in this order. Later calls are not answered. -/
  starts : List (Answer δ)
  /-- What `calls.forceFinish` will answer. -/
  finishes : List (Answer δ)
  /-- The calls that were started. -/
  started : List Text
  /-- The calls that were to be finished. -/
  finished : List Text
  /-- `tokenInvalidSeen`. -/
  tokenInvalidSeen : Bool
  /-- What was added to the log. -/
  log : List Text

variable {δ : Type} (doubles : Json.Doubles δ)

/-- `LogService.add`. -/
def Api.add (api : Api δ) (line : Text) : Api δ := { api with log := api.log ++ [line] }

/-- `calls.start` is called. -/
def Api.startCall (api : Api δ) : Api δ × Except Unit StartResult :=
  let result := AutoCalls.startCall doubles (api.starts.head?.getD none)
  let asked := { api with starts := api.starts.tail }
  match result with
  | .ok (.started callId hash) =>
    ({ asked with started := asked.started ++ [callId] }, .ok (.started callId hash))
  | other => (asked, other)

/-- `_maxAttemptsPerCall`. -/
def maxAttemptsPerCall : Nat := 3

/-- Whether `_startCallWithAttempts` stops with this result. -/
def isLast : Except Unit StartResult → Bool
  | .error () => true
  | .ok (.started _ _) => true
  | .ok result => result.tokenInvalid

/-- `_startCallWithAttempts`, from some attempt on. -/
def Api.startCallWithAttempts (last : Except Unit StartResult) :
    Nat → Api δ → Api δ × Except Unit StartResult
  | 0, api => (api, last)
  | left + 1, api =>
    let called := api.startCall doubles
    if isLast called.2 then called
    else Api.startCallWithAttempts called.2 left called.1

/-- `_startCallWithAttempts`. -/
def Api.attempt (api : Api δ) : Api δ × Except Unit StartResult :=
  api.startCallWithAttempts doubles (.ok (.failed "not attempted".toList)) maxAttemptsPerCall

/-- `maxVkHashes`. -/
def maxVkHashes : Nat := 6

/-- `groupsPerHash` times `workersPerGroup`. -/
def workersPerHash : Nat := 3 * 9

/-- `callCountForWorkers`. -/
def callCountForWorkers (workers : Int) : Nat :=
  ((List.range' 1 maxVkHashes).find? fun n => workers ≤ ((n * workersPerHash : Nat) : Int)).getD
    maxVkHashes

/-- The line about a call that was not made. -/
def notCreated (text : Text) : Text := "[АВТО API] Звонок не создан · ".toList ++ text

/-- What `createForWorkers` does with a result: the calls, and the log. -/
def Api.record (api : Api δ) (calls : List AutoCall) : StartResult → Api δ × List AutoCall
  | .started callId hash => (api, calls ++ [⟨callId, hash⟩])
  | .apiError code message =>
    ({ api.add (notCreated ("код=".toList ++ Json.writeInt code ++ [' '] ++ message)) with
        tokenInvalidSeen :=
          api.tokenInvalidSeen || StartResult.tokenInvalid (.apiError code message) }, calls)
  | .failed reason => (api.add (notCreated reason), calls)

/-- The loop of `createForWorkers`: the calls; nothing if the token is invalid. It may throw. -/
def Api.createCalls (onProgress : Nat → Text) :
    Nat → Api δ → List AutoCall → Api δ × Except Unit (Option (List AutoCall))
  | 0, api, calls => (api, .ok (some calls))
  | left + 1, api, calls =>
    let attempted := api.attempt doubles
    match attempted.2 with
    | .error () => (attempted.1, .error ())
    | .ok result =>
      let recorded := attempted.1.record calls result
      let told := recorded.1.add (onProgress recorded.2.length)
      if result.tokenInvalid then
        (told.add "[АВТО API] Токен недействителен · войдите снова".toList, .ok none)
      else Api.createCalls onProgress left told recorded.2

/-- A number of calls. -/
def fraction (calls total : Nat) : Text :=
  Nat.toDigits 10 calls ++ '/' :: Nat.toDigits 10 total

/-- The end of `createForWorkers`. -/
def Api.finishBatch (api : Api δ) (count : Nat) (calls : List AutoCall) :
    Api δ × Option CallsBatch :=
  if calls.isEmpty then (api, none)
  else if calls.length < count then
    (api.add ("[АВТО API] Звонки ".toList ++ fraction calls.length count ++
      " · потоки распределены".toList), some ⟨calls, count⟩)
  else (api, some ⟨calls, count⟩)

/-- `createForWorkers` — the batch, if there is one. It may throw. -/
def Api.createForWorkers (api : Api δ) (token : Text) (workers : Int)
    (onProgress : Nat → Nat → Text) : Api δ × Except Unit (Option CallsBatch) :=
  if token.trim.isEmpty then (api, .ok none)
  else
    let count := callCountForWorkers workers
    let created := Api.createCalls doubles (fun calls => onProgress calls count) count
      { api with tokenInvalidSeen := false } []
    match created.2 with
    | .error () => (created.1, .error ())
    | .ok none => (created.1, .ok none)
    | .ok (some calls) =>
      ((created.1.finishBatch count calls).1, .ok (created.1.finishBatch count calls).2)

/-- `finishAll`. -/
def Api.finishAll (api : Api δ) (token : Text) (callIds : List Text) : Api δ × Nat :=
  if token.trim.isEmpty ∨ callIds = [] then (api, 0)
  else
    let answers := (List.range callIds.length).map fun index => (api.finishes[index]?).getD none
    let finished := answers.countP forceFinishCall
    ({ api with
        finishes := api.finishes.drop callIds.length
        finished := api.finished ++ callIds }.add
          ("[АВТО API] Звонки завершены ".toList ++ fraction finished callIds.length), finished)

end Manager

end Focsq.AutoCalls
