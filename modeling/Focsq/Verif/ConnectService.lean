import Focsq.Frontend.ConnectTasks

/-!
# What the service does to its state

A line of the core ends the session, or makes the connection count as connected while the client
runs, or leaves the state as it is.
-/

namespace Focsq.ConnectService

section State

/-- The state is set. -/
@[simp] theorem setState_state (service : Service) (value : ConnectState) :
    (service.setState value).state = value := by
  unfold Service.setState
  split_ifs with same
  · exact same
  · rfl

/-- Whether the client runs is left alone. -/
@[simp] theorem setState_clientRunning (service : Service) (value : ConnectState) :
    (service.setState value).clientRunning = service.clientRunning := by
  unfold Service.setState
  split_ifs <;> rfl

/-- So is the run of the core. -/
@[simp] theorem setState_coreRun (service : Service) (value : ConnectState) :
    (service.setState value).coreRun = service.coreRun := by
  unfold Service.setState
  split_ifs <;> rfl

/-- The watchdog leaves the state alone. -/
@[simp] theorem restartConnectWatchdog_state (service : Service) :
    service.restartConnectWatchdog.state = service.state := by
  unfold Service.restartConnectWatchdog
  split_ifs <;> rfl

/-- It leaves alone whether the client runs. -/
@[simp] theorem restartConnectWatchdog_clientRunning (service : Service) :
    service.restartConnectWatchdog.clientRunning = service.clientRunning := by
  unfold Service.restartConnectWatchdog
  split_ifs <;> rfl

/-- It leaves alone the run of the core. -/
@[simp] theorem restartConnectWatchdog_coreRun (service : Service) :
    service.restartConnectWatchdog.coreRun = service.coreRun := by
  unfold Service.restartConnectWatchdog
  split_ifs <;> rfl

end State

section Lines

variable {δ : Type} (doubles : Json.Doubles δ)

/-- Whether an event ends the session. -/
def Received.ends (received : Received δ) : Bool :=
  received.type == "STOPPED".toList ||
    received.type == "ERROR".toList && isTrue (received.payload.lookup "fatal".toList) &&
      (Json.asInt doubles (received.payload.lookup "code".toList)).isOk

/-- Whether a line ends the session: it says that the core has stopped, or that there is a fatal
error. -/
def endsSession (line : Text) : Bool :=
  !line.startsWith "CAPTCHA_SOLVE|".toList && (receive doubles line).any (Received.ends doubles)

/-- What a line can do. -/
inductive Service.Follows (before after : Service) : Bool → Prop where
  /-- It leaves the state, or the connection is made while the client runs. -/
  | keep (run : after.coreRun = before.coreRun)
      (client : after.clientRunning = before.clientRunning)
      (state : after.state = before.state ∨ after.state = .connected ∧
        before.clientRunning = true ∧ before.state ≠ .disconnecting) : Follows before after false
  /-- It ends the session. -/
  | ends (run : after.coreRun = before.coreRun) (client : after.clientRunning = false)
      (state : after.state = .disconnected) : Follows before after true

/-- What a computation that goes on has found first. -/
theorem ok_of_bind {ε α β : Type} {first : Except ε α} {rest : α → Except ε β} {value : β}
    (goes : (first >>= rest) = .ok value) : ∃ found, first = .ok found ∧ rest found = .ok value := by
  cases first with
  | error => exact nomatch goes
  | ok found => exact ⟨found, rfl, goes⟩

/-- A connection that is made is made while the client runs. -/
theorem Service.Follows.connects {service ready : Service} {condition : Prop} [Decidable condition]
    (run : ready.coreRun = service.coreRun) (client : ready.clientRunning = service.clientRunning)
    (state : ready.state = service.state)
    (allows : condition → ready.clientRunning = true ∧ ready.state ≠ .disconnecting) :
    service.Follows (if condition then ready.setState .connected else ready) false := by
  split_ifs with met
  · have allowed := allows met
    rw [client, state] at allowed
    exact .keep (by simp [run]) (by simp [client]) (.inr ⟨by simp, allowed⟩)
  · exact .keep run client (.inl state)

/-- The case `STATS`. -/
theorem onStats_follows {service after : Service} {payload : List (Text × Json δ)}
    (counted : service.onStats doubles payload = .ok after) : service.Follows after false := by
  obtain ⟨active, -, counted⟩ := ok_of_bind counted
  obtain ⟨bytesUp, -, counted⟩ := ok_of_bind counted
  obtain ⟨bytesDown, -, counted⟩ := ok_of_bind counted
  rw [← Except.ok.inj counted]
  apply Service.Follows.connects
  · split_ifs <;> simp
  · split_ifs <;> simp
  · split_ifs <;> simp
  · intro met
    exact ⟨met.2.1, met.2.2.2⟩

/-- The case `ERROR`. -/
theorem onError_follows {service after : Service} {payload : List (Text × Json δ)}
    (told : service.onError doubles payload = .ok after) :
    service.Follows after (isTrue (payload.lookup "fatal".toList)) := by
  obtain ⟨code, -, told⟩ := ok_of_bind told
  rw [← Except.ok.inj told]
  cases fatal : isTrue (payload.lookup "fatal".toList) with
  | false => exact .keep rfl rfl (.inl rfl)
  | true =>
    rw [if_pos rfl]
    exact .ends (setState_coreRun _ _) (setState_clientRunning _ _) (setState_state _ _)

/-- The case `CONFIG`. -/
theorem onConfig_follows (service : Service) (received : Received δ) :
    service.Follows (service.onConfig doubles received) false := by
  have run := restartConnectWatchdog_coreRun service
  have client := restartConnectWatchdog_clientRunning service
  have state := restartConnectWatchdog_state service
  by_cases config : (configOf doubles received).startsWith "TUNCONF:".toList
  · simp only [Service.onConfig, if_pos config]
    exact Service.Follows.connects run client state fun met => ⟨met.1, met.2.2⟩
  · simp only [Service.onConfig, if_neg config]
    exact .keep run client (.inl state)

/-- Only two types of events can end the session. -/
theorem ends_of_ne {received : Received δ} (stopped : received.type ≠ "STOPPED".toList)
    (failed : received.type ≠ "ERROR".toList) : received.ends doubles = false := by
  rw [Received.ends, beq_false_of_ne stopped, beq_false_of_ne failed]
  rfl

/-- An event ends the session, or it does not. -/
theorem onEvent_follows {service after : Service} {received : Received δ}
    (handled : service.onEvent doubles received = .ok after) :
    service.Follows after (received.ends doubles) := by
  unfold Service.onEvent at handled
  by_cases stats : received.type = "STATS".toList
  · rw [if_pos stats] at handled
    rw [ends_of_ne doubles (by rw [stats]; decide) (by rw [stats]; decide)]
    exact onStats_follows doubles handled
  rw [if_neg stats] at handled
  by_cases idle : received.type = "ACTIVE_ZERO".toList
  · rw [if_pos idle] at handled
    rw [ends_of_ne doubles (by rw [idle]; decide) (by rw [idle]; decide), ← Except.ok.inj handled]
    exact .keep rfl rfl (.inl rfl)
  rw [if_neg idle] at handled
  by_cases failed : received.type = "ERROR".toList
  · rw [if_pos failed] at handled
    have follows := onError_follows doubles handled
    obtain ⟨code, number, -⟩ := ok_of_bind handled
    have different : ("ERROR".toList == "STOPPED".toList) = false := by decide
    rw [Received.ends, failed, different, beq_self_eq_true, number]
    simpa only [Bool.false_or, Bool.true_and, Except.isOk, Except.toBool, Bool.and_true] using follows
  rw [if_neg failed] at handled
  by_cases stopped : received.type = "STOPPED".toList
  · rw [if_pos stopped] at handled
    rw [Received.ends, stopped, beq_self_eq_true, Bool.true_or, ← Except.ok.inj handled]
    exact .ends (setState_coreRun _ _) (setState_clientRunning _ _) (setState_state _ _)
  rw [if_neg stopped] at handled
  rw [ends_of_ne doubles stopped failed]
  by_cases config : received.type = "CONFIG".toList
  · rw [if_pos config] at handled
    rw [← Except.ok.inj handled]
    exact onConfig_follows doubles service received
  rw [if_neg config] at handled
  -- No other event concerns the state.
  have watched : service.Follows service.restartConnectWatchdog false :=
    .keep (by simp) (by simp) (.inl (by simp))
  split_ifs at handled with restarted ready asked done
  · rw [← Except.ok.inj handled]
    exact .keep rfl rfl (.inl rfl)
  · rw [← Except.ok.inj handled]
    exact watched
  · rw [← Except.ok.inj handled]
    exact .keep rfl rfl (.inl rfl)
  · rw [← Except.ok.inj handled]
    exact watched
  · rw [← Except.ok.inj handled]
    exact .keep rfl rfl (.inl rfl)

/-- An event at which the handler throws does not end the session. -/
theorem ends_of_throws {service : Service} {received : Received δ}
    (throws : service.onEvent doubles received = .error ()) : received.ends doubles = false := by
  by_cases stopped : received.type = "STOPPED".toList
  · have handled : service.onEvent doubles received = .ok service.onStopped := by
      rw [Service.onEvent, stopped, if_neg (by decide), if_neg (by decide), if_neg (by decide),
        if_pos rfl]
    rw [handled] at throws
    exact nomatch throws
  by_cases failed : received.type = "ERROR".toList
  · have handled : service.onEvent doubles received = service.onError doubles received.payload := by
      rw [Service.onEvent, failed, if_neg (by decide), if_neg (by decide), if_pos rfl]
    rw [handled] at throws
    have number : (Json.asInt doubles (received.payload.lookup "code".toList)).isOk = false := by
      cases code : Json.asInt doubles (received.payload.lookup "code".toList) with
      | error => rfl
      | ok code =>
        rw [Service.onError, code] at throws
        exact nomatch throws
    rw [Received.ends, beq_false_of_ne stopped, number, Bool.and_false]
    rfl
  exact ends_of_ne doubles stopped failed

/-- A line ends the session, or it does not. -/
theorem onCoreLine_follows (service : Service) (line : Text) :
    service.Follows (service.onCoreLine doubles line).1 (endsSession doubles line) := by
  unfold Service.onCoreLine endsSession
  by_cases solve : line.startsWith "CAPTCHA_SOLVE|".toList = true
  · simp only [solve, if_true, Bool.not_true, Bool.false_and]
    exact .keep rfl rfl (.inl rfl)
  simp only [solve, Bool.not_false, Bool.true_and]
  cases event : receive doubles line with
  | none => exact .keep rfl rfl (.inl rfl)
  | some received =>
    simp only [Option.any_some]
    cases handled : (service.add line).onEvent doubles received with
    | error =>
      rw [ends_of_throws doubles handled]
      exact .keep rfl rfl (.inl rfl)
    | ok after =>
      have follows := onEvent_follows doubles handled
      generalize received.ends doubles = ended at follows
      cases follows with
      | keep run client state => exact .keep run client state
      | ends run client state => exact .ends run client state

end Lines

end Focsq.ConnectService
