import Focsq.Frontend.ConnectStart

/-!
# Which calls are finished

When a start succeeds, the service keeps all calls that it has made, and finishes them when the core
has exited. A start that fails finishes none. So it must not have made any: that is the case unless
the server says only after the first call that the token is invalid, or the launch throws.
-/

namespace Focsq.AutoCalls

variable {δ : Type} (doubles : Json.Doubles δ)

section Results

/-- A result after which `createForWorkers` gives up. -/
def isFatal : Except Unit StartResult → Bool
  | .error () => true
  | .ok result => result.tokenInvalid

/-- The call that was made. -/
def madeCall : Except Unit StartResult → Option AutoCall
  | .ok (.started callId hash) => some ⟨callId, hash⟩
  | .ok (.apiError _ _) | .ok (.failed _) | .error () => none

/-- The results of the attempts for a number of calls, if nothing made it give up. -/
def Api.results : Nat → Api δ → List (Except Unit StartResult)
  | 0, _ => []
  | left + 1, api => (api.attempt doubles).2 :: Api.results left (api.attempt doubles).1

/-- The calls that are made before it gives up. -/
def madeCalls (results : List (Except Unit StartResult)) : List AutoCall :=
  (results.takeWhile fun result => !isFatal result).filterMap madeCall

/-- The names of the calls that a result has made. -/
def madeIds (result : Except Unit StartResult) : List Text :=
  (madeCall result).toList.map AutoCall.callId

/-- One call of `calls.start`. -/
theorem startCall_spec (api : Api δ) :
    (api.startCall doubles).2 = startCall doubles (api.starts.head?.getD none) ∧
      (api.startCall doubles).1.starts = api.starts.tail ∧
      (api.startCall doubles).1.started = api.started ++ madeIds (api.startCall doubles).2 ∧
      (api.startCall doubles).1.finished = api.finished := by
  unfold Api.startCall
  dsimp only
  cases answered : startCall doubles (api.starts.head?.getD none) with
  | error thrown => exact ⟨rfl, rfl, (List.append_nil _).symm, rfl⟩
  | ok result =>
    cases result with
    | started callId hash => exact ⟨rfl, rfl, rfl, rfl⟩
    | apiError | failed => exact ⟨rfl, rfl, (List.append_nil _).symm, rfl⟩

/-- What is answered depends only on what the server will answer. -/
theorem startCallWithAttempts_congr {one other : Api δ} (same : one.starts = other.starts)
    (last : Except Unit StartResult) (left : Nat) :
    (one.startCallWithAttempts doubles last left).2 =
        (other.startCallWithAttempts doubles last left).2 ∧
      (one.startCallWithAttempts doubles last left).1.starts =
        (other.startCallWithAttempts doubles last left).1.starts := by
  induction left generalizing one other last with
  | zero => exact ⟨rfl, same⟩
  | succ left ih =>
    obtain ⟨answer, tail, _, _⟩ := startCall_spec doubles one
    obtain ⟨answer', tail', _, _⟩ := startCall_spec doubles other
    have alike : (one.startCall doubles).2 = (other.startCall doubles).2 := by
      rw [answer, answer', same]
    have rest : (one.startCall doubles).1.starts = (other.startCall doubles).1.starts := by
      rw [tail, tail', same]
    simp only [Api.startCallWithAttempts, alike]
    split_ifs
    · exact ⟨alike, rest⟩
    · exact ih rest _

/-- The attempts for one call make no more than their result says, and finish none. -/
theorem startCallWithAttempts_spec (api : Api δ) (last : Except Unit StartResult)
    (unmade : madeCall last = none) (left : Nat) :
    (api.startCallWithAttempts doubles last left).1.started =
        api.started ++ madeIds (api.startCallWithAttempts doubles last left).2 ∧
      (api.startCallWithAttempts doubles last left).1.finished = api.finished := by
  induction left generalizing api last with
  | zero =>
    rw [Api.startCallWithAttempts, madeIds, unmade]
    exact ⟨(List.append_nil _).symm, rfl⟩
  | succ left ih =>
    obtain ⟨_, _, started, finished⟩ := startCall_spec doubles api
    simp only [Api.startCallWithAttempts]
    split_ifs with ends
    · exact ⟨started, finished⟩
    · have none : madeCall (api.startCall doubles).2 = Option.none := by
        cases result : (api.startCall doubles).2 with
        | error thrown => rfl
        | ok made =>
          cases made with
          | started callId hash =>
            rw [result] at ends
            exact absurd rfl ends
          | apiError | failed => rfl
      have later := ih (api.startCall doubles).1 _ none
      rw [started, madeIds, none, Option.toList_none, List.map_nil, List.append_nil,
        finished] at later
      exact later

/-- The results depend only on what the server will answer. -/
theorem results_congr {one other : Api δ} (same : one.starts = other.starts) (left : Nat) :
    one.results doubles left = other.results doubles left := by
  induction left generalizing one other with
  | zero => rfl
  | succ left ih =>
    obtain ⟨alike, rest⟩ := startCallWithAttempts_congr doubles same
      (.ok (.failed "not attempted".toList)) maxAttemptsPerCall
    rw [Api.results, Api.results, Api.attempt, Api.attempt, alike, ih rest]

end Results

section Create

/-- What `createForWorkers` makes of a result that is not fatal. -/
theorem record_spec (api : Api δ) (calls : List AutoCall) (result : StartResult) :
    (api.record calls result).1.starts = api.starts ∧
      (api.record calls result).1.started = api.started ∧
      (api.record calls result).1.finished = api.finished ∧
      (api.record calls result).2 = calls ++ (madeCall (.ok result)).toList := by
  cases result with
  | started callId hash => exact ⟨rfl, rfl, rfl, rfl⟩
  | apiError | failed => exact ⟨rfl, rfl, rfl, (List.append_nil _).symm⟩

/-- The loop makes the calls up to the first fatal result and finishes none. If there is no such
result, it returns all of them, and otherwise none. -/
theorem createCalls_spec (onProgress : Nat → Text) (left : Nat) (api : Api δ)
    (calls : List AutoCall) :
    (Api.createCalls doubles onProgress left api calls).1.started =
        api.started ++ (madeCalls (api.results doubles left)).map AutoCall.callId ∧
      (Api.createCalls doubles onProgress left api calls).1.finished = api.finished ∧
      ((∀ result ∈ api.results doubles left, isFatal result = false) →
        (Api.createCalls doubles onProgress left api calls).2 =
          .ok (some (calls ++ madeCalls (api.results doubles left)))) ∧
      ((∃ result ∈ api.results doubles left, isFatal result = true) →
        (Api.createCalls doubles onProgress left api calls).2 = .error () ∨
          (Api.createCalls doubles onProgress left api calls).2 = .ok none) := by
  induction left generalizing api calls with
  | zero =>
    refine ⟨(List.append_nil _).symm, rfl, fun _ => ?_, ?_⟩
    · simp [Api.createCalls, Api.results, madeCalls]
    · rintro ⟨result, member, _⟩
      cases member
  | succ left ih =>
    obtain ⟨started, finished⟩ := startCallWithAttempts_spec doubles api
      (.ok (.failed "not attempted".toList)) rfl maxAttemptsPerCall
    rw [← Api.attempt] at started finished
    simp only [Api.createCalls, Api.results]
    generalize api.attempt doubles = attempted at started finished ⊢
    obtain ⟨after, result⟩ := attempted
    dsimp only at started finished ⊢
    cases result with
    | error thrown =>
      have none : madeCalls (.error () :: after.results doubles left) = [] := rfl
      refine ⟨?_, finished, fun all => ?_, fun _ => .inl rfl⟩
      · rw [started, none]
        rfl
      · cases all _ List.mem_cons_self
    | ok result =>
      dsimp only
      obtain ⟨starts, same, kept, recorded⟩ := record_spec after calls result
      cases fatal : result.tokenInvalid with
      | true =>
        have stops : isFatal (.ok result) = true := fatal
        have none : madeCalls (.ok result :: after.results doubles left) = [] := by
          rw [madeCalls, List.takeWhile_cons_of_neg (by rw [stops]; exact Bool.false_ne_true)]
          rfl
        have unmade : madeIds (.ok result) = [] := by
          cases result with
          | started callId hash => cases fatal
          | apiError | failed => rfl
        refine ⟨?_, ?_, fun all => ?_, fun _ => .inr rfl⟩
        · rw [none]
          show (after.record calls result).1.started = _
          rw [same, started, unmade]
          rfl
        · show (after.record calls result).1.finished = _
          rw [kept, finished]
        · have clean := all _ List.mem_cons_self
          rw [stops] at clean
          cases clean
      | false =>
        have goes : isFatal (.ok result) = false := fatal
        rw [if_neg Bool.false_ne_true]
        have next := ih ((after.record calls result).1.add
          (onProgress (after.record calls result).2.length)) (after.record calls result).2
        have alike : Api.results doubles left ((after.record calls result).1.add
            (onProgress (after.record calls result).2.length)) = after.results doubles left := by
          refine results_congr doubles ?_ left
          exact starts
        have more : madeCalls (.ok result :: after.results doubles left) =
            (madeCall (.ok result)).toList ++ madeCalls (after.results doubles left) := by
          rw [madeCalls, List.takeWhile_cons_of_pos (by rw [goes]; rfl), List.filterMap_cons]
          cases madeCall (.ok result) <;> rfl
        rw [alike] at next
        obtain ⟨first, second, third, fourth⟩ := next
        refine ⟨?_, ?_, fun all => ?_, fun some => ?_⟩
        · rw [first, more]
          show (after.record calls result).1.started ++ _ = _
          rw [same, started, List.map_append, ← List.append_assoc]
          rfl
        · rw [second]
          show (after.record calls result).1.finished = _
          rw [kept, finished]
        · rw [third fun other member => all other (List.mem_cons_of_mem _ member), recorded, more,
            List.append_assoc]
        · obtain ⟨other, member, bad⟩ := some
          rcases List.mem_cons.mp member with rfl | later
          · rw [goes] at bad
            cases bad
          · exact fourth ⟨other, later, bad⟩

end Create

section Start

open ConnectStart

/-- Whether the core was launched. -/
def isLaunched : Outcome → Bool
  | .launched _ => true
  | .thrown _ | .failed _ => false

/-- Every call that is made during a start is kept and is to be finished after the core has exited,
if the core is launched; otherwise it is to be finished before the start returns. -/
def Released (environment : Environment δ) (held : Held) (api : Api δ) : Prop :=
  ∀ callId ∈ (environment.startInternal doubles held api).api.started.drop api.started.length,
    if isLaunched (environment.startInternal doubles held api).outcome then
      callId ∈ (environment.startInternal doubles held api).held.autoCallIds ∧
        callId ∈ (finishAutoApiCalls (environment.startInternal doubles held api).held
          (environment.startInternal doubles held api).api).2.finished.drop
            (environment.startInternal doubles held api).api.finished.length
    else
      callId ∈ (environment.startInternal doubles held api).api.finished.drop api.finished.length

/-- Whether nothing throws after the calls are made. -/
def launches (environment : Environment δ) : Bool :=
  environment.salt.isOk && environment.launch.isOk

/-- The results of the attempts for a plan. -/
def planned (api : Api δ) (plan : Plan) : List (Except Unit StartResult) :=
  api.results doubles (callCountForWorkers plan.workers)

/-- If a call is made, no result is fatal and nothing throws afterwards. -/
def Fortunate (environment : Environment δ) (api : Api δ) : Prop :=
  ∀ plan, environment.prepare = .ok plan → plan.hashMode = .autoApi →
    (plan.vkToken.getD []).trim.isEmpty = false → madeCalls (planned doubles api plan) ≠ [] →
      (∀ result ∈ planned doubles api plan, isFatal result = false) ∧ launches environment = true

/-- A start that makes no call has none to release. -/
theorem released_of_none {environment : Environment δ} {held : Held} {api : Api δ}
    (none : (environment.startInternal doubles held api).api.started = api.started) :
    Released doubles environment held api := by
  intro callId member
  rw [none, List.drop_length] at member
  cases member

/-- A start that makes calls and fails does not release them. -/
theorem not_released_of_failed {environment : Environment δ} {held : Held} {api : Api δ}
    {made : List Text} (some : made ≠ [])
    (started : (environment.startInternal doubles held api).api.started = api.started ++ made)
    (finished : (environment.startInternal doubles held api).api.finished = api.finished)
    (failed : isLaunched (environment.startInternal doubles held api).outcome = false) :
    ¬ Released doubles environment held api := by
  intro released
  obtain ⟨callId, rest, rfl⟩ := List.exists_cons_of_ne_nil some
  have kept := released callId (by
    rw [started, List.drop_left]
    exact List.mem_cons_self)
  rw [failed, if_neg Bool.false_ne_true, finished, List.drop_length] at kept
  cases kept

/-- The core is launched unless something throws. -/
theorem isLaunched_launchCore (environment : Environment δ) (plan : Plan) (vkValue : Text)
    (allowRedistribution : Bool) :
    isLaunched (environment.launchCore plan vkValue allowRedistribution) =
      launches environment := by
  unfold Environment.launchCore launches
  cases environment.salt with
  | error error => rfl
  | ok salt => cases environment.launch <;> rfl

/-- All calls that are kept are finished after the core has exited. -/
theorem finished_finishAutoApiCalls (api : Api δ) {token : Text} {callIds : List Text}
    (given : token.trim.isEmpty = false) (some : callIds ≠ []) :
    (finishAutoApiCalls ⟨callIds, .some token, true⟩ api).2.finished =
      api.finished ++ callIds := by
  have token' : ¬ (token.trim.isEmpty = true ∨ callIds = []) := by
    rw [given]
    rintro (blank | empty)
    · cases blank
    · exact some empty
  have kept : ¬ (callIds = [] ∨ true = false) := by
    rintro (empty | never)
    · exact some empty
    · cases never
  simp only [finishAutoApiCalls, if_neg kept, Api.finishAll, if_neg token']
  rfl

/-- `createForWorkers` makes the calls up to the first fatal result and finishes none. If there is no
such result, it returns a batch of all of them, if there are any, and otherwise none. -/
theorem createForWorkers_spec (api : Api δ) {token : Text} (given : token.trim.isEmpty = false)
    (workers : Int) (onProgress : Nat → Nat → Text) :
    (api.createForWorkers doubles token workers onProgress).1.started = api.started ++
        (madeCalls (api.results doubles (callCountForWorkers workers))).map AutoCall.callId ∧
      (api.createForWorkers doubles token workers onProgress).1.finished = api.finished ∧
      ((∀ result ∈ api.results doubles (callCountForWorkers workers), isFatal result = false) →
        madeCalls (api.results doubles (callCountForWorkers workers)) ≠ [] →
        (api.createForWorkers doubles token workers onProgress).2 = .ok (some
          ⟨madeCalls (api.results doubles (callCountForWorkers workers)),
            callCountForWorkers workers⟩)) ∧
      ((∃ result ∈ api.results doubles (callCountForWorkers workers), isFatal result = true) →
        (api.createForWorkers doubles token workers onProgress).2 = .error () ∨
          (api.createForWorkers doubles token workers onProgress).2 = .ok none) := by
  have alike := @results_congr _ doubles { api with tokenInvalidSeen := false } api rfl
    (callCountForWorkers workers)
  have spec := createCalls_spec doubles
    (fun calls => onProgress calls (callCountForWorkers workers)) (callCountForWorkers workers)
    { api with tokenInvalidSeen := false } []
  rw [alike] at spec
  simp only [Api.createForWorkers, given, Bool.false_eq_true, if_false]
  generalize Api.createCalls doubles _ _ _ _ = created at spec ⊢
  obtain ⟨after, ended⟩ := created
  obtain ⟨started, finished, whole, stopped⟩ := spec
  have batch (calls : List AutoCall) :
      (after.finishBatch (callCountForWorkers workers) calls).1.started = after.started ∧
        (after.finishBatch (callCountForWorkers workers) calls).1.finished = after.finished := by
    unfold Api.finishBatch
    split_ifs <;> exact ⟨rfl, rfl⟩
  cases ended with
  | error thrown =>
    refine ⟨started, finished, fun all => ?_, fun _ => .inl rfl⟩
    cases whole all
  | ok made =>
    cases made with
    | none =>
      refine ⟨started, finished, fun all => ?_, fun _ => .inr rfl⟩
      cases whole all
    | some calls =>
      refine ⟨?_, ?_, fun all nonempty => ?_, fun some => ?_⟩
      · exact (batch calls).1.trans started
      · exact (batch calls).2.trans finished
      · have same : calls = madeCalls (api.results doubles (callCountForWorkers workers)) := by
          simpa using whole all
        have filled : calls.isEmpty = false := by
          rw [same, List.isEmpty_eq_false_iff]
          exact nonempty
        simp only [Api.finishBatch, filled, Bool.false_eq_true, if_false]
        rw [← same]
        split_ifs <;> rfl
      · rcases stopped some with never | never <;> cases never

/-- Without a token no calls are made. -/
theorem createForWorkers_blank (api : Api δ) {token : Text} (blank : token.trim.isEmpty = true)
    (workers : Int) (onProgress : Nat → Nat → Text) :
    api.createForWorkers doubles token workers onProgress = (api, .ok none) := by
  rw [Api.createForWorkers, if_pos blank]

/-- The calls of a start are those of `createForWorkers`. -/
theorem startPlan_api (environment : Environment δ) (held : Held) (api : Api δ) {plan : Plan}
    (mode : plan.hashMode = .autoApi) :
    (environment.startPlan doubles held api plan).api =
      (api.createForWorkers doubles (plan.vkToken.getD []) plan.workers progressLine).1 := by
  unfold Environment.startPlan
  rw [if_pos mode]
  dsimp only
  split <;> rfl

/-- A start that makes calls releases them if and only if no result is fatal and nothing throws. -/
theorem released_startPlan {environment : Environment δ} {held : Held} {api : Api δ} {plan : Plan}
    (begun : environment.startInternal doubles held api =
      environment.startPlan doubles held api plan) (mode : plan.hashMode = .autoApi)
    (given : (plan.vkToken.getD []).trim.isEmpty = false)
    (some : madeCalls (planned doubles api plan) ≠ []) :
    Released doubles environment held api ↔
      (∀ result ∈ planned doubles api plan, isFatal result = false) ∧
        launches environment = true := by
  obtain ⟨started, finished, whole, stopped⟩ :=
    createForWorkers_spec doubles api given plan.workers progressLine
  rw [← startPlan_api doubles environment held api mode, ← begun] at started finished
  have made : (madeCalls (planned doubles api plan)).map AutoCall.callId ≠ [] := by
    simpa using some
  by_cases all : ∀ result ∈ planned doubles api plan, isFatal result = false
  · have batch := whole all some
    have result : environment.startPlan doubles held api plan =
        ⟨⟨(madeCalls (planned doubles api plan)).map AutoCall.callId, plan.vkToken, true⟩,
          (api.createForWorkers doubles (plan.vkToken.getD []) plan.workers progressLine).1, false,
          (environment.startPlan doubles held api plan).outcome⟩ ∧
        isLaunched (environment.startPlan doubles held api plan).outcome =
          launches environment := by
      unfold Environment.startPlan
      rw [if_pos mode]
      dsimp only
      rw [batch]
      exact ⟨rfl, isLaunched_launchCore _ _ _ _⟩
    obtain ⟨result, launched⟩ := result
    rw [← begun] at launched
    cases throws : launches environment with
    | false =>
      have failed := launched.trans throws
      exact iff_of_false (not_released_of_failed doubles made started finished failed)
        fun both => Bool.false_ne_true both.2
    | true =>
      obtain ⟨token, found⟩ : ∃ token, plan.vkToken = .some token := by
        cases found : plan.vkToken with
        | none =>
          rw [found] at given
          cases given
        | some token => exact ⟨token, rfl⟩
      rw [found, Option.getD_some] at given
      refine iff_of_true (fun callId member => ?_) ⟨all, rfl⟩
      have held' : (environment.startInternal doubles held api).held =
          ⟨(madeCalls (planned doubles api plan)).map AutoCall.callId, .some token, true⟩ := by
        rw [begun, result, found]
      have exits := finished_finishAutoApiCalls
        (environment.startInternal doubles held api).api given made
      rw [started, ← planned, List.drop_left] at member
      rw [launched.trans throws, if_pos rfl, held', exits, List.drop_left]
      exact ⟨member, member⟩
  · have fatal : ∃ result ∈ planned doubles api plan, isFatal result = true := by
      simpa using all
    have failed : isLaunched (environment.startPlan doubles held api plan).outcome = false := by
      unfold Environment.startPlan
      rw [if_pos mode]
      dsimp only
      rcases stopped fatal with ended | ended <;> rw [ended] <;> rfl
    rw [← begun] at failed
    exact iff_of_false (not_released_of_failed doubles made started finished failed)
      fun both => all both.1

/-- A start releases its calls if and only if it makes none before a fatal result or before something
throws. -/
theorem released_iff_fortunate (environment : Environment δ) (held : Held) (api : Api δ) :
    Released doubles environment held api ↔ Fortunate doubles environment api := by
  cases prepared : environment.prepare with
  | error outcome =>
    have same : (environment.startInternal doubles held api).api = api := by
      rw [Environment.startInternal, prepared]
    refine iff_of_true (released_of_none doubles (congrArg Api.started same)) ?_
    intro plan other
    rw [prepared] at other
    cases other
  | ok plan =>
    have begun : environment.startInternal doubles held api =
        environment.startPlan doubles held api plan := by
      rw [Environment.startInternal, prepared]
    have only (fortunate : plan.hashMode = .autoApi →
        (plan.vkToken.getD []).trim.isEmpty = false → madeCalls (planned doubles api plan) ≠ [] →
          (∀ result ∈ planned doubles api plan, isFatal result = false) ∧
            launches environment = true) : Fortunate doubles environment api := by
      intro other same
      rw [prepared] at same
      cases same
      exact fortunate
    by_cases mode : plan.hashMode = .autoApi
    · have calls := startPlan_api doubles environment held api mode
      rw [← begun] at calls
      by_cases given : (plan.vkToken.getD []).trim.isEmpty = false
      · by_cases none : madeCalls (planned doubles api plan) = []
        · have unmade := (createForWorkers_spec doubles api given plan.workers progressLine).1
          rw [← planned, none, List.map_nil, List.append_nil, ← calls] at unmade
          exact iff_of_true (released_of_none doubles unmade)
            (only fun _ _ some => absurd none some)
        · have equal := released_startPlan doubles begun mode given none
          exact equal.trans ⟨fun both => only fun _ _ _ => both,
            fun fortunate => fortunate plan prepared mode given none⟩
      · have blank : (plan.vkToken.getD []).trim.isEmpty = true := by simpa using given
        have unmade := congrArg Api.started (calls.trans
          (congrArg Prod.fst (createForWorkers_blank doubles api blank plan.workers progressLine)))
        exact iff_of_true (released_of_none doubles unmade)
          (only fun _ filled => absurd filled given)
    · have same : (environment.startInternal doubles held api).api = api := by
        rw [begun, Environment.startPlan, if_neg mode]
      exact iff_of_true (released_of_none doubles (congrArg Api.started same))
        (only fun auto => absurd auto mode)

/-- A call was started. -/
def startedAnswer : Answer Text :=
  some [("response".toList, .object [("call_id".toList, .string "c1".toList),
    ("ok_join_link".toList, .string "hash".toList)])]

/-- The token is invalid. -/
def invalidAnswer : Answer Text :=
  some [("error".toList, .object [("error_code".toList, .int 5)])]

/-- The server answers one call, and then that the token is invalid. -/
def expiringApi : Api Text := ⟨[startedAnswer, invalidAnswer], [], [], [], false, []⟩

/-- Two calls are to be made for the workers, and nothing throws. -/
def twoCalls : Environment Text :=
  { rust := .ok ()
    settings := .ok ⟨"Авто API".toList, "Звонки".toList, [], "device".toList, "firefox".toList⟩
    profile := .ok (some ⟨some "home".toList, some "192.0.2.1".toList, some 56000,
      some "secret".toList, some 28⟩)
    platform := .other
    isAdmin := true
    rights := .ok none
    vk := ⟨some "token".toList, none⟩
    generation := 1
    salt := .ok "0123456789abcdef".toList
    launch := .ok () }

/-- The call that was started is not finished when the start fails. -/
theorem expiringApi_orphans :
    (twoCalls.startInternal Json.Doubles.literals .none expiringApi).api.started = ["c1".toList] ∧
      (twoCalls.startInternal Json.Doubles.literals .none expiringApi).api.finished = [] ∧
      isLaunched (twoCalls.startInternal Json.Doubles.literals .none expiringApi).outcome = false ∧
      (twoCalls.startInternal Json.Doubles.literals .none expiringApi).held.autoCallIds = [] := by
  decide

end Start

end Focsq.AutoCalls
