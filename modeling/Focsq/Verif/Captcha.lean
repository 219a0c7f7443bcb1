import Focsq.Frontend.CaptchaService
import Focsq.Lib.Mealy

/-!
# Requests for captchas and their results

A result carries no number, so it is taken for the request that the solver waits for. It is the
right one as long as nothing is left of earlier requests when a line is printed, and the service is
not busy when the line arrives. Nothing is assigned to the function that `abort` calls, so it ends no
window.
-/

namespace Focsq.Captcha

open Mealy

/-- Whether the window of a job is not finished. -/
def Progress.unfinished : Progress → Bool
  | .creating | .opened => true
  | .submitting _ _ | .submitted _ _ | .completing | .ended => false

/-- Whether the result of a job is still to be handed over. -/
def Progress.pends : Progress → Bool
  | .creating | .opened | .submitting _ _ => true
  | .submitted _ _ | .completing | .ended => false

/-- A result that is taken for a request is that of the window of this request, and after `abort` no
window is left unfinished. -/
structure Sound (system : System) (action : Action) : Prop where
  /-- A result is that of the window of its request. -/
  paired : ∀ taken, (system.step action).2 = some taken →
    taken.answer.request = taken.request ∧ taken.answer.source = .window
  /-- No window is left unfinished. -/
  aborts : ∀ reason, action = .abort reason →
    ∀ job ∈ (system.step action).1.service.jobs, job.progress.unfinished = false

/-- Nothing is left of earlier requests: no result is in the channel, and as long as results are
handed over, none is still to be handed over, and no line is on its way that is accepted. -/
structure System.Clear (system : System) : Prop where
  /-- No result is in the channel. -/
  channel : system.solver.channel = none
  /-- No result is still to be handed over. -/
  jobs : system.active = true → ∀ job ∈ system.service.jobs, job.progress.pends = false
  /-- No line is on its way that is accepted. -/
  lines : system.active = true → ∀ line ∈ system.lines, line.complete = false

/-- The line is rejected because the service is busy, although its request still waits for a
result. -/
def System.Rejects (system : System) (line : Line) : Prop :=
  system.active = true ∧ system.service.busy = true ∧ line.complete = true ∧
    system.solver.receiver = .waiting line.request

/-- A line is printed when nothing is left of earlier requests, none is rejected that waits, and
`abort` is not called while a window is unfinished. -/
def Settled (system : System) : Action → Prop
  | .print => ∀ mode captcha, system.solver.receiver = .printing mode captcha → system.Clear
  | .handle clientRunning => clientRunning = true → ∀ line ∈ system.lines.head?,
      ¬system.Rejects line
  | .abort _ => ∀ job ∈ system.service.jobs, job.progress.unfinished = false
  | _ => True

section Jobs

/-- What the service does to the jobs that are there: they stay those of their requests, and none
pends again. -/
def Progresses (before after : List Job) : Prop :=
  ∀ job ∈ after, ∃ same ∈ before, job.request = same.request ∧ job.source = same.source ∧
    (job.progress.pends = true → same.progress.pends = true)

/-- Nothing happens to the jobs. -/
theorem progresses_refl (jobs : List Job) : Progresses jobs jobs :=
  fun job member => ⟨job, member, rfl, rfl, id⟩

/-- A job is put where it is next. -/
theorem progresses_set {jobs : List Job} {index : Nat} {job : Job} {progress : Progress}
    (here : jobs[index]? = some job) (pends : progress.pends = true → job.progress.pends = true) :
    Progresses jobs (jobs.set index { job with progress := progress }) := by
  intro other member
  rcases List.mem_or_eq_of_mem_set member with before | rfl
  · exact ⟨other, before, rfl, rfl, id⟩
  · exact ⟨job, List.mem_of_getElem? here, rfl, rfl, pends⟩

/-- What an action of the service does, apart from that of a line: nothing is assigned to
`_activeFinish`. -/
structure Serves (before after : CaptchaService) : Prop where
  /-- The jobs make progress. -/
  jobs : Progresses before.jobs after.jobs
  /-- Nothing is assigned. -/
  unassigned : before.activeFinish = none → after.activeFinish = none

/-- Nothing happens. -/
theorem serves_refl (service : CaptchaService) : Serves service service :=
  ⟨progresses_refl _, id⟩

/-- A window is created, or that throws. -/
theorem serves_created (service : CaptchaService) (index : Nat) (error : Option Text) :
    Serves service (service.created index error) := by
  unfold CaptchaService.created
  cases here : service.jobs[index]? with
  | none => exact serves_refl _
  | some job =>
    dsimp only
    split_ifs with creating
    · have pends : job.progress.pends = true := by rw [creating]; rfl
      cases error with
      | none => exact ⟨progresses_set here fun _ => pends, id⟩
      | some error => exact ⟨progresses_set here fun _ => pends, id⟩
    · exact serves_refl _

/-- A window is finished. -/
theorem serves_finish (service : CaptchaService) (index : Nat) (result reason : Text) :
    Serves service (service.finish index result reason) := by
  unfold CaptchaService.finish
  cases here : service.jobs[index]? with
  | none => exact serves_refl _
  | some job =>
    dsimp only
    split_ifs with opened
    · have pends : job.progress.pends = true := by rw [opened]; rfl
      exact ⟨progresses_set here fun _ => pends, id⟩
    · exact serves_refl _

/-- A window is finished by itself. -/
theorem serves_finished (service : CaptchaService) (index : Nat) (cause : Cause) :
    Serves service (service.finished index cause) := by
  unfold CaptchaService.finished
  cases here : service.jobs[index]? with
  | none => exact serves_refl _
  | some job => exact serves_finish service index _ _

/-- The service goes on after a result was handed over. -/
theorem serves_goOn (service : CaptchaService) (index : Nat) :
    Serves service (service.goOn index) := by
  unfold CaptchaService.goOn
  cases here : service.jobs[index]? with
  | none => exact serves_refl _
  | some job =>
    cases at' : job.progress with
    | submitted delivered reason =>
      simp only [at']
      exact ⟨progresses_set here (fun again => nomatch again), id⟩
    | _ =>
      simp only [at']
      exact serves_refl _

/-- The service is not busy any more. -/
theorem serves_release (service : CaptchaService) (index : Nat) :
    Serves service (service.release index) := by
  unfold CaptchaService.release
  cases here : service.jobs[index]? with
  | none => exact serves_refl _
  | some job =>
    dsimp only
    split_ifs
    · exact ⟨progresses_set here (fun again => nomatch again), fun _ => rfl⟩
    · exact serves_refl _

/-- Nothing is called when nothing is assigned. -/
theorem abort_of_unassigned {service : CaptchaService} (unassigned : service.activeFinish = none)
    (reason : Text) : service.abort reason = service := by
  rw [CaptchaService.abort, unassigned]

/-- What is finished or not. -/
theorem serves_abort (service : CaptchaService) (reason : Text) :
    Serves service (service.abort reason) := by
  unfold CaptchaService.abort
  cases service.activeFinish with
  | none => exact serves_refl _
  | some index => exact serves_finish service index _ _

end Jobs

section Steps

/-- What a line does to the jobs. -/
inductive Handles (service : CaptchaService) (line : Line) (clientRunning : Bool)
    (after : CaptchaService) : Prop where
  /-- There is no new job. -/
  | same (jobs : after.jobs = service.jobs)
  /-- There is one. -/
  | job (job : Job) (jobs : after.jobs = service.jobs ++ [job]) (request : job.request = line.request)
      (complete : line.complete = true) (running : clientRunning = true)
      (source : service.busy = false → job.source = .window)

/-- A line arrives. -/
theorem handles (service : CaptchaService) (line : Line) (clientRunning : Bool) :
    Handles service line clientRunning (service.handleSolveRequest line clientRunning) ∧
      (service.handleSolveRequest line clientRunning).activeFinish = service.activeFinish := by
  unfold CaptchaService.handleSolveRequest
  split_ifs with partly stopped busy
  · exact ⟨.same rfl, rfl⟩
  · exact ⟨.same rfl, rfl⟩
  · exact ⟨.job _ rfl rfl (eq_true_of_ne_false partly)
      (eq_true_of_ne_false stopped) fun free => absurd busy (by rw [free]; decide), rfl⟩
  · exact ⟨.job _ rfl rfl (eq_true_of_ne_false partly)
      (eq_true_of_ne_false stopped) fun _ => rfl, rfl⟩

/-- What an action can do. -/
inductive Moves (system after : System) (action : Action) : Option Answered → Prop where
  /-- The solver makes a step in which it neither prints nor takes a result for a request. -/
  | rests (channel : after.solver.channel = system.solver.channel ∨ after.solver.channel = none)
      (issued : after.solver.issued = system.solver.issued)
      (waiting : ∀ request, after.solver.receiver = .waiting request →
        system.solver.receiver = .waiting request)
      (active : after.active = true → system.active = true) (lines : after.lines = system.lines)
      (service : after.service = system.service) : Moves system after action none
  /-- It prints a line. -/
  | prints (line : Line) (act : action = .print) (number : line.request = system.solver.issued)
      (printing : ∃ mode captcha, system.solver.receiver = .printing mode captcha)
      (channel : after.solver.channel = system.solver.channel)
      (issued : after.solver.issued = system.solver.issued + 1)
      (waiting : after.solver.receiver = .waiting system.solver.issued)
      (active : after.active = system.active) (lines : after.lines = system.lines ++ [line])
      (service : after.service = system.service) : Moves system after action none
  /-- It takes a result. -/
  | takes (taken : Answered) (waiting : system.solver.receiver = .waiting taken.request)
      (channel : system.solver.channel = some taken.answer)
      (empty : after.solver.channel = none) (issued : after.solver.issued = system.solver.issued)
      (free : after.solver.receiver = .free) (active : after.active = system.active)
      (lines : after.lines = system.lines) (service : after.service = system.service) :
      Moves system after action (some taken)
  /-- A line arrives. -/
  | handles (line : Line) (clientRunning : Bool) (act : action = .handle clientRunning)
      (lines : system.lines = line :: after.lines)
      (solver : after.solver = system.solver) (active : after.active = system.active)
      (unassigned : after.service.activeFinish = system.service.activeFinish)
      (handles : Handles system.service line clientRunning after.service) :
      Moves system after action none
  /-- The service makes a step. -/
  | serves (solver : after.solver = system.solver) (active : after.active = system.active)
      (lines : after.lines = system.lines) (serves : Serves system.service after.service) :
      Moves system after action none
  /-- A result is handed over. -/
  | hands (job : Job) (member : job ∈ system.service.jobs) (pends : job.progress.pends = true)
      (result : Text) (channel : after.solver.channel = some ⟨result, job.request, job.source⟩)
      (handed : system.active = true) (issued : after.solver.issued = system.solver.issued)
      (receiver : after.solver.receiver = system.solver.receiver)
      (active : after.active = system.active) (lines : after.lines = system.lines)
      (serves : Serves system.service after.service) : Moves system after action none

/-- What the solver does when `webview` is called. -/
theorem moves_webview (system : System) (mode : Text) (captcha : VkCaptchaError) :
    Moves system { system with solver := system.solver.webview mode captcha }
      (.webview mode captcha) none := by
  unfold CaptchaSolver.webview
  split_ifs
  · exact .rests (.inl rfl) rfl (fun _ => id) id rfl rfl
  · cases receiver : system.solver.receiver with
    | free => exact .rests (.inl rfl) rfl (fun _ waiting => nomatch waiting) id rfl rfl
    | _ => exact .rests (.inl rfl) rfl (fun _ => id) id rfl rfl

/-- What it does to empty the channel. -/
theorem moves_drain (system : System) :
    Moves system { system with solver := system.solver.drain } .drain none := by
  unfold CaptchaSolver.drain
  cases receiver : system.solver.receiver with
  | draining mode captcha =>
    cases channel : system.solver.channel with
    | none => exact .rests (.inr rfl) rfl (fun _ waiting => nomatch waiting) id rfl rfl
    | some answer => exact .rests (.inr rfl) rfl (fun _ waiting => nomatch waiting) id rfl rfl
  | _ => exact .rests (.inl rfl) rfl (fun _ => id) id rfl rfl

/-- What it does to print a line. -/
theorem moves_print (system : System) :
    Moves system
      { system with
        solver := system.solver.print.1, lines := system.lines ++ system.solver.print.2 }
      .print none := by
  unfold CaptchaSolver.print
  cases receiver : system.solver.receiver with
  | printing mode captcha =>
    exact .prints _ rfl rfl ⟨mode, captcha, receiver⟩ rfl rfl rfl rfl rfl rfl
  | _ => exact .rests (.inl rfl) rfl (fun _ => id) id (List.append_nil _) rfl

/-- What it does to get a result. -/
theorem moves_receive (system : System) :
    Moves system { system with solver := system.solver.receive.1 } .receive
      (system.solver.receive.2.map fun taken => ⟨taken.1, taken.2, conclude taken.2.result⟩) := by
  unfold CaptchaSolver.receive
  cases receiver : system.solver.receiver with
  | waiting request =>
    cases channel : system.solver.channel with
    | none => exact .rests (.inl rfl) rfl (fun _ => id) id rfl rfl
    | some answer => exact .takes _ receiver channel rfl rfl rfl rfl rfl rfl
  | _ => exact .rests (.inl rfl) rfl (fun _ => id) id rfl rfl

/-- What it does when it does not wait any longer. -/
theorem moves_giveUp (system : System) :
    Moves system { system with solver := system.solver.giveUp } .giveUp none := by
  unfold CaptchaSolver.giveUp
  cases receiver : system.solver.receiver with
  | waiting request => exact .rests (.inl rfl) rfl (fun _ waiting => nomatch waiting) id rfl rfl
  | _ => exact .rests (.inl rfl) rfl (fun _ => id) id rfl rfl

/-- A result is handed over, or it is not. -/
theorem moves_submit (system : System) (index : Nat) :
    Moves system (system.submit index) (.submit index) none := by
  have stays : Moves system system (.submit index) none := .serves rfl rfl rfl (serves_refl _)
  unfold System.submit
  cases here : system.service.jobs[index]? with
  | none => exact stays
  | some job =>
    dsimp only
    cases progress : job.progress with
    | submitting result reason =>
      have pends : job.progress.pends = true := by
        rw [progress]
        rfl
      have serves (delivered : Bool) : Serves system.service
          (system.service.moved index job (job.handed delivered reason)) :=
        ⟨progresses_set here fun _ => pends, id⟩
      dsimp only
      unfold System.submitCaptchaResult CaptchaSolver.submitResult
      split_ifs with active
      · cases channel : system.solver.channel with
        | none =>
          exact .hands job (List.mem_of_getElem? here) pends result rfl active rfl rfl rfl rfl
            (serves _)
        | some answer => exact .serves rfl rfl rfl (serves _)
      · exact .serves rfl rfl rfl (serves _)
    | _ => exact stays

/-- What an action can do. -/
theorem step_moves (system : System) (action : Action) :
    Moves system (system.step action).1 action (system.step action).2 := by
  cases action with
  | webview mode captcha => exact moves_webview system mode captcha
  | drain => exact moves_drain system
  | print => exact moves_print system
  | receive => exact moves_receive system
  | giveUp => exact moves_giveUp system
  | clear => exact .rests (.inl rfl) rfl (fun _ => id) (fun active => nomatch active) rfl rfl
  | handle clientRunning =>
    unfold System.step
    cases lines : system.lines with
    | nil => exact .serves rfl rfl rfl (serves_refl _)
    | cons line rest =>
      obtain ⟨handles, unassigned⟩ := handles system.service line clientRunning
      exact .handles line clientRunning rfl lines rfl rfl unassigned handles
  | created job error => exact .serves rfl rfl rfl (serves_created _ job error)
  | finished job cause => exact .serves rfl rfl rfl (serves_finished _ job cause)
  | submit job => exact moves_submit system job
  | goOn job => exact .serves rfl rfl rfl (serves_goOn _ job)
  | release job => exact .serves rfl rfl rfl (serves_release _ job)
  | abort reason => exact .serves rfl rfl rfl (serves_abort _ reason)

end Steps

section Invariants

/-- Requests are numbered in their order, and nothing is assigned to `_activeFinish`. -/
structure Known (system : System) : Prop where
  /-- Nothing is assigned. -/
  unassigned : system.service.activeFinish = none
  /-- Jobs are for requests that were made. -/
  jobs : ∀ job ∈ system.service.jobs, job.request < system.solver.issued
  /-- So is the result in the channel. -/
  channel : ∀ answer ∈ system.solver.channel, answer.request < system.solver.issued
  /-- So are lines. -/
  lines : ∀ line ∈ system.lines, line.request < system.solver.issued
  /-- Lines are in the order of their requests. -/
  order : system.lines.Pairwise fun first second => first.request < second.request
  /-- The lines of jobs have arrived before. -/
  earlier : ∀ job ∈ system.service.jobs, ∀ line ∈ system.lines, job.request < line.request
  /-- So has the line of the result in the channel. -/
  sent : ∀ answer ∈ system.solver.channel, ∀ line ∈ system.lines, answer.request < line.request

/-- What is taken for the request that the solver waits for, or will be, is the result of its
window. -/
structure Matched (system : System) (request : Nat) : Prop where
  /-- The result in the channel. -/
  channel : ∀ answer ∈ system.solver.channel, answer.request = request ∧ answer.source = .window
  /-- A result that is still to be handed over. -/
  jobs : system.active = true → ∀ job ∈ system.service.jobs, job.progress.pends = true →
    job.request = request ∧ job.source = .window
  /-- A line on its way. -/
  lines : system.active = true → ∀ line ∈ system.lines, line.complete = true →
    line.request = request

/-- When no request is made, what there is was there for the same request before, or is the result of
a job that was there. -/
theorem Known.kept {system after : System} (known : Known system)
    (unassigned : after.service.activeFinish = none)
    (issued : after.solver.issued = system.solver.issued)
    (jobs : ∀ job ∈ after.service.jobs, ∃ same ∈ system.service.jobs, job.request = same.request)
    (channel : ∀ answer ∈ after.solver.channel, answer ∈ system.solver.channel ∨
      ∃ job ∈ system.service.jobs, answer.request = job.request)
    (lines : after.lines.Sublist system.lines) : Known after where
  unassigned := unassigned
  jobs job member := by
    obtain ⟨same, there, request⟩ := jobs job member
    rw [issued, request]
    exact known.jobs same there
  channel answer member := by
    rw [issued]
    rcases channel answer member with there | ⟨job, there, request⟩
    · exact known.channel answer there
    · rw [request]
      exact known.jobs job there
  lines line member := by
    rw [issued]
    exact known.lines line (lines.subset member)
  order := known.order.sublist lines
  earlier job member line there := by
    obtain ⟨same, before, request⟩ := jobs job member
    rw [request]
    exact known.earlier same before line (lines.subset there)
  sent answer member line there := by
    rcases channel answer member with before | ⟨job, before, request⟩
    · exact known.sent answer before line (lines.subset there)
    · rw [request]
      exact known.earlier job before line (lines.subset there)

/-- A step of the service makes no request. -/
theorem progresses_same {before after : List Job} (progresses : Progresses before after) :
    ∀ job ∈ after, ∃ same ∈ before, job.request = same.request := by
  intro job member
  obtain ⟨same, there, request, -⟩ := progresses job member
  exact ⟨same, there, request⟩

/-- The request of a line that is printed is the newest. -/
theorem Known.prints {system after : System} (known : Known system) {line : Line}
    (number : line.request = system.solver.issued)
    (channel : after.solver.channel = system.solver.channel)
    (issued : after.solver.issued = system.solver.issued + 1)
    (lines : after.lines = system.lines ++ [line]) (service : after.service = system.service) :
    Known after := by
  constructor
  · rw [service]
    exact known.unassigned
  · rw [service, issued]
    exact fun job member => Nat.lt_succ_of_lt (known.jobs job member)
  · rw [channel, issued]
    exact fun answer member => Nat.lt_succ_of_lt (known.channel answer member)
  · rw [lines, issued]
    intro other member
    rcases List.mem_append.mp member with before | new
    · exact Nat.lt_succ_of_lt (known.lines other before)
    · rw [List.mem_singleton.mp new, number]
      exact Nat.lt_succ_self _
  · rw [lines, List.pairwise_append]
    refine ⟨known.order, List.pairwise_singleton _ _, fun first before second new => ?_⟩
    rw [List.mem_singleton.mp new, number]
    exact known.lines first before
  · rw [service, lines]
    intro job there other member
    rcases List.mem_append.mp member with before | new
    · exact known.earlier job there other before
    · rw [List.mem_singleton.mp new, number]
      exact known.jobs job there
  · rw [channel, lines]
    intro answer there other member
    rcases List.mem_append.mp member with before | new
    · exact known.sent answer there other before
    · rw [List.mem_singleton.mp new, number]
      exact known.channel answer there

/-- A line that arrives adds at most a job for its own request. -/
theorem Handles.jobs {service after : CaptchaService} {line : Line} {clientRunning : Bool}
    (handles : Handles service line clientRunning after) :
    ∀ job ∈ after.jobs, job ∈ service.jobs ∨ job.request = line.request := by
  intro job member
  cases handles with
  | same jobs =>
    rw [jobs] at member
    exact .inl member
  | job new jobs request complete running source =>
    rw [jobs] at member
    rcases List.mem_append.mp member with before | added
    · exact .inl before
    · rw [List.mem_singleton.mp added]
      exact .inr request

/-- The request of a line that arrives is older than those of the lines after it. -/
theorem Known.handles {system after : System} (known : Known system) {line : Line}
    {clientRunning : Bool} (lines : system.lines = line :: after.lines)
    (solver : after.solver = system.solver)
    (unassigned : after.service.activeFinish = system.service.activeFinish)
    (handles : Handles system.service line clientRunning after.service) : Known after := by
  have ordered := known.order
  rw [lines] at ordered
  obtain ⟨first, order⟩ := List.pairwise_cons.mp ordered
  have here : line ∈ system.lines := by
    rw [lines]
    exact List.mem_cons_self
  have later : ∀ other ∈ after.lines, other ∈ system.lines := by
    intro other member
    rw [lines]
    exact List.mem_cons_of_mem _ member
  constructor
  · exact unassigned.trans known.unassigned
  · rw [solver]
    intro job member
    rcases handles.jobs job member with before | same
    · exact known.jobs job before
    · rw [same]
      exact known.lines line here
  · rw [solver]
    exact known.channel
  · rw [solver]
    exact fun other member => known.lines other (later other member)
  · exact order
  · intro job member other there
    rcases handles.jobs job member with before | same
    · exact known.earlier job before other (later other there)
    · rw [same]
      exact first other there
  · rw [solver]
    exact fun answer member other there => known.sent answer member other (later other there)

/-- Every action keeps what is known. -/
theorem known_step {system : System} (known : Known system) (action : Action) :
    Known (system.step action).1 := by
  have moves := step_moves system action
  generalize (system.step action).2 = out at moves
  generalize (system.step action).1 = after at moves ⊢
  cases moves with
  | rests channel issued waiting active lines service =>
    refine known.kept ?_ issued ?_ ?_ ?_
    · rw [service]
      exact known.unassigned
    · rw [service]
      exact fun job member => ⟨job, member, rfl⟩
    · intro answer member
      rcases channel with same | empty
      · rw [same] at member
        exact .inl member
      · rw [empty] at member
        cases member
    · rw [lines]
  | prints line act number printing channel issued waiting active lines service =>
    exact known.prints number channel issued lines service
  | takes taken waiting channel empty issued free active lines service =>
    refine known.kept ?_ issued ?_ ?_ ?_
    · rw [service]
      exact known.unassigned
    · rw [service]
      exact fun job member => ⟨job, member, rfl⟩
    · rw [empty]
      intro answer member
      cases member
    · rw [lines]
  | handles line clientRunning act lines solver active unassigned handles =>
    exact known.handles lines solver unassigned handles
  | serves solver active lines serves =>
    refine known.kept (serves.unassigned known.unassigned) ?_ (progresses_same serves.jobs) ?_ ?_
    · rw [solver]
    · rw [solver]
      exact fun answer member => .inl member
    · rw [lines]
  | hands job member pends result channel handed issued receiver active lines serves =>
    refine known.kept (serves.unassigned known.unassigned) issued (progresses_same serves.jobs) ?_
      ?_
    · rw [channel]
      rintro answer ⟨⟩
      exact .inr ⟨job, member, rfl⟩
    · rw [lines]

/-- What is to be handed over after a step of the service is what was so before. -/
theorem progresses_matched {before after : List Job} (progresses : Progresses before after)
    {request : Nat} (matched : ∀ job ∈ before, job.progress.pends = true →
      job.request = request ∧ job.source = .window) :
    ∀ job ∈ after, job.progress.pends = true → job.request = request ∧ job.source = .window := by
  intro job member pends
  obtain ⟨same, there, number, source, pended⟩ := progresses job member
  rw [number, source]
  exact matched same there (pended pends)

/-- A settled action keeps the results matched. -/
theorem matched_step {system : System} {action : Action} {request : Nat}
    (settled : Settled system action)
    (matched : ∀ request, system.solver.receiver = .waiting request → Matched system request)
    (waiting : (system.step action).1.solver.receiver = .waiting request) :
    Matched (system.step action).1 request := by
  have moves := step_moves system action
  generalize (system.step action).2 = out at moves
  generalize (system.step action).1 = after at moves waiting ⊢
  cases moves with
  | rests channel issued waits active lines service =>
    have before := matched request (waits request waiting)
    constructor
    · intro answer member
      rcases channel with same | empty
      · exact before.channel answer (same ▸ member)
      · rw [empty] at member
        cases member
    · rw [service]
      exact fun now => before.jobs (active now)
    · rw [lines]
      exact fun now => before.lines (active now)
  | prints line act number printing channel issued waits active lines service =>
    obtain ⟨mode, captcha, prints⟩ := printing
    subst act
    have clear := settled mode captcha prints
    have same : system.solver.issued = request := Receiver.waiting.inj (waits.symm.trans waiting)
    constructor
    · rw [channel, clear.channel]
      exact fun answer member => nomatch member
    · rw [active, service]
      intro now job member pends
      exact absurd pends (by rw [clear.jobs now job member]; decide)
    · rw [active, lines]
      intro now other member complete
      rcases List.mem_append.mp member with before | new
      · exact absurd complete (by rw [clear.lines now other before]; decide)
      · rw [List.mem_singleton.mp new, number, same]
  | takes taken waits channel empty issued free active lines service =>
    rw [free] at waiting
    cases waiting
  | handles line clientRunning act lines solver active unassigned handles =>
    subst act
    rw [solver] at waiting
    have before := matched request waiting
    constructor
    · rw [solver]
      exact before.channel
    · rw [active]
      intro now job member pends
      cases handles with
      | same jobs =>
        rw [jobs] at member
        exact before.jobs now job member pends
      | job new jobs number complete running source =>
        rw [jobs] at member
        rcases List.mem_append.mp member with there | added
        · exact before.jobs now job there pends
        · have here : line ∈ system.lines := by
            rw [lines]
            exact List.mem_cons_self
          have same := before.lines now line here complete
          have free : system.service.busy = false := by
            by_contra busy
            refine settled running line (by rw [lines]; rfl) ⟨now, ?_, complete, ?_⟩
            · exact eq_true_of_ne_false busy
            · rw [same]
              exact waiting
          rw [List.mem_singleton.mp added]
          exact ⟨number.trans same, source free⟩
    · rw [active]
      intro now other member
      exact before.lines now other (by rw [lines]; exact List.mem_cons_of_mem _ member)
  | serves solver active lines serves =>
    rw [solver] at waiting
    have before := matched request waiting
    constructor
    · rw [solver]
      exact before.channel
    · rw [active]
      exact fun now => progresses_matched serves.jobs (before.jobs now)
    · rw [active, lines]
      exact before.lines
  | hands job member pends result channel handed issued receiver active lines serves =>
    rw [receiver] at waiting
    have before := matched request waiting
    constructor
    · rw [channel]
      rintro answer ⟨⟩
      exact before.jobs handed job member pends
    · rw [active]
      exact fun now => progresses_matched serves.jobs (before.jobs now)
    · rw [active, lines]
      exact before.lines

/-- What holds in every state of a settled run. -/
def Paired (system : System) : Prop :=
  Known system ∧ ∀ request, system.solver.receiver = .waiting request → Matched system request

/-- A settled action keeps it. -/
theorem paired_step (system : System) (action : Action) (paired : Paired system)
    (settled : Settled system action) : Paired (system.step action).1 :=
  ⟨known_step paired.1 action, fun _ waiting => matched_step settled paired.2 waiting⟩

/-- A settled action is sound. -/
theorem sound_of_paired (system : System) (action : Action) (paired : Paired system)
    (settled : Settled system action) : Sound system action := by
  constructor
  · intro taken out
    have moves := step_moves system action
    rw [out] at moves
    cases moves with
    | takes _ waiting channel =>
      exact (paired.2 taken.request waiting).channel taken.answer channel
  · rintro reason rfl job member
    have same : (system.step (.abort reason)).1.service = system.service :=
      abort_of_unassigned paired.1.unassigned reason
    rw [same] at member
    exact settled job member

end Invariants

section Unsettled

/-- A result is taken that is not that of the window of the request. -/
theorem not_sound_of_taken {system : System} {request : Nat} {answer : Answer}
    (waiting : system.solver.receiver = .waiting request)
    (channel : system.solver.channel = some answer)
    (mixed : answer.request ≠ request ∨ answer.source = .rejection) : ¬Sound system .receive := by
  intro sound
  have taken : (system.step .receive).2 = some ⟨request, answer, conclude answer.result⟩ := by
    simp only [System.step, CaptchaSolver.receive, waiting, channel, Option.map_some]
  obtain ⟨same, window⟩ := sound.paired _ taken
  rcases mixed with different | rejected
  · exact different same
  · rw [rejected] at window
    cases window

/-- The solver waits for a result, and none is there. -/
structure Waits (system : System) (request : Nat) : Prop where
  /-- It waits. -/
  waiting : system.solver.receiver = .waiting request
  /-- No result is there. -/
  channel : system.solver.channel = none
  /-- It gets what is handed over. -/
  active : system.active = true

/-- A job is put where it is next. -/
theorem getElem?_moved {service : CaptchaService} {index : Nat} {job : Job} (progress : Progress)
    (here : service.jobs[index]? = some job) :
    (service.moved index job progress).jobs[index]? = some { job with progress := progress } :=
  List.getElem?_set_self (List.getElem?_eq_some_iff.mp here).1

/-- A result is handed over and taken. -/
theorem not_along_of_submitting {system : System} {request index : Nat} {job : Job}
    {result reason : Text} (waits : Waits system request)
    (here : system.service.jobs[index]? = some job)
    (submitting : job.progress = .submitting result reason)
    (mixed : job.request ≠ request ∨ job.source = .rejection) :
    ¬Along System.step Sound system [.submit index, .receive] := by
  intro along
  have handed : (system.step (.submit index)).1.solver =
      { system.solver with channel := some ⟨result, job.request, job.source⟩ } := by
    simp only [System.step, System.submit, here, submitting, System.submitCaptchaResult,
      waits.active, if_true, CaptchaSolver.submitResult, waits.channel]
  have waiting : (system.step (.submit index)).1.solver.receiver = .waiting request := by
    rw [handed]
    exact waits.waiting
  have channel : (system.step (.submit index)).1.solver.channel =
      some ⟨result, job.request, job.source⟩ := by
    rw [handed]
  exact not_sound_of_taken waiting channel mixed along.2.1

/-- A window that cannot be created has a result. -/
theorem getElem?_created {service : CaptchaService} {index : Nat} {job : Job}
    (here : service.jobs[index]? = some job) (creating : job.progress = .creating) (error : Text) :
    (service.created index (some error)).jobs[index]? = some { job with
      progress := .submitting "error:webview".toList "ошибка WebView".toList } := by
  have created : service.created index (some error) =
      (service.add ("[КАПЧА] Не удалось открыть WebView: ".toList ++ error)).moved index job
        (.submitting "error:webview".toList "ошибка WebView".toList) := by
    rw [CaptchaService.created, here]
    exact if_pos creating
  rw [created]
  exact getElem?_moved _ here

/-- A window that is open has a result when it is finished. -/
theorem getElem?_finished {service : CaptchaService} {index : Nat} {job : Job}
    (here : service.jobs[index]? = some job) (opened : job.progress = .opened) (cause : Cause) :
    (service.finished index cause).jobs[index]? = some { job with
      progress := .submitting cause.result (cause.reason job.mode) } := by
  have finished : service.finished index cause =
      service.moved index job (.submitting cause.result (cause.reason job.mode)) := by
    rw [CaptchaService.finished, here]
    dsimp only
    rw [CaptchaService.finish, here]
    exact if_pos opened
  rw [finished]
  exact getElem?_moved _ here

/-- A result that is still to be handed over is taken. -/
theorem exists_of_pends {system : System} {request : Nat} {job : Job} (waits : Waits system request)
    (member : job ∈ system.service.jobs) (pends : job.progress.pends = true)
    (mixed : job.request ≠ request ∨ job.source = .rejection) :
    ∃ later, ¬Along System.step Sound system later := by
  obtain ⟨index, here⟩ := List.getElem?_of_mem member
  cases progress : job.progress with
  | creating =>
    have still : Waits (system.step (.created index (some []))).1 request :=
      ⟨waits.waiting, waits.channel, waits.active⟩
    have next := not_along_of_submitting still (getElem?_created here progress []) rfl mixed
    exact ⟨.created index (some []) :: _, fun along => next along.2⟩
  | opened =>
    have still : Waits (system.step (.finished index .closed)).1 request :=
      ⟨waits.waiting, waits.channel, waits.active⟩
    have next := not_along_of_submitting still (getElem?_finished here progress .closed) rfl mixed
    exact ⟨.finished index .closed :: _, fun along => next along.2⟩
  | submitting result reason =>
    exact ⟨_, not_along_of_submitting waits here progress mixed⟩
  | _ =>
    rw [progress] at pends
    cases pends

/-- A line that is accepted makes a job that has a result to hand over. -/
theorem handles_complete (service : CaptchaService) {line : Line} (complete : line.complete = true) :
    ∃ job ∈ (service.handleSolveRequest line true).jobs, job.progress.pends = true ∧
      job.request = line.request ∧ (service.busy = true → job.source = .rejection) := by
  unfold CaptchaService.handleSolveRequest
  rw [if_neg (by rw [complete]; decide), if_neg (by decide)]
  split_ifs with busy
  · exact ⟨_, List.mem_append_right _ List.mem_cons_self, rfl, rfl, fun _ => rfl⟩
  · exact ⟨_, List.mem_append_right _ List.mem_cons_self, rfl, rfl, fun again => absurd again busy⟩

/-- The result for a line of another request is taken. -/
theorem exists_of_line {request : Nat} {line : Line} (front : List Line) {system : System}
    (waits : Waits system request) {back : List Line} (lines : system.lines = front ++ line :: back)
    (complete : line.complete = true) (earlier : ∀ other ∈ front, other.request ≠ request)
    (other : line.request ≠ request) : ∃ later, ¬Along System.step Sound system later := by
  induction front generalizing system with
  | nil =>
    obtain ⟨job, member, pends, number, -⟩ := handles_complete system.service complete
    have handled : (system.step (.handle true)).1 =
        { system with
          lines := back, service := system.service.handleSolveRequest line true } := by
      simp only [System.step, lines, List.nil_append]
    have still : Waits (system.step (.handle true)).1 request := by
      rw [handled]
      exact ⟨waits.waiting, waits.channel, waits.active⟩
    obtain ⟨later, mixed⟩ := exists_of_pends still (by rw [handled]; exact member) pends
      (.inl (by rw [number]; exact other))
    exact ⟨.handle true :: later, fun along => mixed along.2⟩
  | cons first rest ih =>
    have handled : (system.step (.handle true)).1 =
        { system with
          lines := rest ++ line :: back
          service := system.service.handleSolveRequest first true } := by
      simp only [System.step, lines, List.cons_append]
    have still : Waits (system.step (.handle true)).1 request := by
      rw [handled]
      exact ⟨waits.waiting, waits.channel, waits.active⟩
    have others : ∀ other ∈ rest, other.request ≠ request := fun other member =>
      earlier other (List.mem_cons_of_mem _ member)
    obtain ⟨later, mixed⟩ := ih still (by rw [handled]) others
    exact ⟨.handle true :: later, fun along => mixed along.2⟩

/-- Something is left of an earlier request when a line is printed. -/
theorem exists_of_print {system : System} {mode : Text} {captcha : VkCaptchaError}
    (known : Known system) (printing : system.solver.receiver = .printing mode captcha)
    (left : ¬system.Clear) : ∃ later, ¬Along System.step Sound system (.print :: later) := by
  have printed : (system.step .print).1 =
      { system with
        solver := { system.solver with
          receiver := .waiting system.solver.issued, issued := system.solver.issued + 1 }
        lines := system.lines ++
          [⟨CoreEvents.delivered (requestLine mode captcha), system.solver.issued⟩] } := by
    simp only [System.step, CaptchaSolver.print, printing]
  have waiting : (system.step .print).1.solver.receiver = .waiting system.solver.issued := by
    rw [printed]
  have same : (system.step .print).1.solver.channel = system.solver.channel := by
    rw [printed]
  cases channel : system.solver.channel with
  | some answer =>
    have before : answer.request < system.solver.issued := known.channel answer channel
    refine ⟨[.receive], fun along => ?_⟩
    exact not_sound_of_taken waiting (same.trans channel) (.inl (Nat.ne_of_lt before)) along.2.1
  | none =>
    have active : system.active = true := by
      by_contra inactive
      exact left ⟨channel, fun now => absurd now inactive, fun now => absurd now inactive⟩
    have waits : Waits (system.step .print).1 system.solver.issued :=
      ⟨waiting, same.trans channel, by rw [printed]; exact active⟩
    have some : ∃ later, ¬Along System.step Sound (system.step .print).1 later := by
      by_cases jobs : ∀ job ∈ system.service.jobs, job.progress.pends = false
      · have lines : ¬∀ line ∈ system.lines, line.complete = false := fun lines =>
          left ⟨channel, fun _ => jobs, fun _ => lines⟩
        obtain ⟨line, member, complete⟩ : ∃ line ∈ system.lines, line.complete = true := by
          simpa using lines
        obtain ⟨front, back, split⟩ := List.append_of_mem member
        have earlier : ∀ other ∈ system.lines, other.request ≠ system.solver.issued :=
          fun other there => Nat.ne_of_lt (known.lines other there)
        have printing : (system.step .print).1.lines = front ++ line :: (back ++
            [⟨CoreEvents.delivered (requestLine mode captcha), system.solver.issued⟩]) := by
          rw [printed, split]
          simp only [List.append_assoc, List.cons_append]
        have others : ∀ other ∈ front, other.request ≠ system.solver.issued := by
          intro other there
          exact earlier other (by rw [split]; exact List.mem_append_left _ there)
        exact exists_of_line front waits printing complete others (earlier line member)
      · obtain ⟨job, member, pends⟩ : ∃ job ∈ system.service.jobs, job.progress.pends = true := by
          simpa using jobs
        exact exists_of_pends waits (by rw [printed]; exact member) pends
          (.inl (Nat.ne_of_lt (known.jobs job member)))
    obtain ⟨later, mixed⟩ := some
    exact ⟨later, fun along => mixed along.2⟩

/-- A line is rejected although its request waits. -/
theorem exists_of_rejects {system : System} {line : Line} (known : Known system)
    (first : line ∈ system.lines.head?) (rejects : system.Rejects line) :
    ∃ later, ¬Along System.step Sound system (.handle true :: later) := by
  obtain ⟨active, busy, complete, waiting⟩ := rejects
  obtain ⟨rest, lines⟩ : ∃ rest, system.lines = line :: rest :=
    ⟨_, (List.cons_head?_tail first).symm⟩
  have handled : (system.step (.handle true)).1 =
      { system with lines := rest, service := system.service.handleSolveRequest line true } := by
    simp only [System.step, lines]
  have still : (system.step (.handle true)).1.solver = system.solver := by
    rw [handled]
  cases channel : system.solver.channel with
  | some answer =>
    have before : answer.request < line.request :=
      known.sent answer channel line (by rw [lines]; exact List.mem_cons_self)
    refine ⟨[.receive], fun along => ?_⟩
    exact not_sound_of_taken (by rw [still]; exact waiting) (by rw [still]; exact channel)
      (.inl (Nat.ne_of_lt before)) along.2.1
  | none =>
    obtain ⟨job, member, pends, -, source⟩ := handles_complete system.service complete
    have waits : Waits (system.step (.handle true)).1 line.request :=
      ⟨by rw [still]; exact waiting, by rw [still]; exact channel, by rw [handled]; exact active⟩
    obtain ⟨later, mixed⟩ := exists_of_pends waits (by rw [handled]; exact member) pends
      (.inr (source busy))
    exact ⟨later, fun along => mixed along.2⟩

end Unsettled

section Run

/-- What is known after every run. -/
theorem known_run (actions : List Action) : Known (final System.step .new actions) := by
  refine final_invariant Known (fun system action known => known_step known action) _ actions ?_
  constructor
  · rfl
  · exact fun job member => nomatch member
  · exact fun answer member => nomatch member
  · exact fun line member => nomatch member
  · exact List.Pairwise.nil
  · exact fun job member => nomatch member
  · exact fun answer member => nomatch member

/-- After an action that is not settled, something unsound can follow. -/
theorem exists_of_not_settled {system : System} {action : Action} (known : Known system)
    (unsettled : ¬Settled system action) :
    ∃ later, ¬Along System.step Sound system (action :: later) := by
  cases action with
  | print =>
    simp only [Settled, not_forall] at unsettled
    obtain ⟨mode, captcha, printing, left⟩ := unsettled
    exact exists_of_print known printing left
  | handle clientRunning =>
    simp only [Settled, not_forall, not_not] at unsettled
    obtain ⟨running, line, first, rejects⟩ := unsettled
    subst running
    exact exists_of_rejects known first rejects
  | abort reason =>
    refine ⟨[], fun along => unsettled fun job member => ?_⟩
    have same : (system.step (.abort reason)).1.service = system.service :=
      abort_of_unassigned known.unassigned reason
    exact along.1.aborts reason rfl job (by rw [same]; exact member)
  | _ => exact absurd trivial unsettled

/-- In a settled run every result is that of the window of its request, and `abort` leaves no window
unfinished. After an action that is not settled, something can follow that breaks this. -/
theorem sound_of_settled (run : List Action) :
    (Along System.step Settled .new run → Along System.step Sound .new run) ∧
      ∀ action, ¬Settled (final System.step .new run) action →
        ∃ later, ¬Along System.step Sound .new (run ++ action :: later) := by
  constructor
  · have start : Paired .new := ⟨known_run [], fun request waiting => nomatch waiting⟩
    exact along_of_invariant Paired paired_step sound_of_paired .new run start
  · intro action unsettled
    obtain ⟨later, unsound⟩ := exists_of_not_settled (known_run run) unsettled
    refine ⟨later, fun along => unsound ?_⟩
    exact ((along_append _ _ _).mp along).2

/-- A captcha of a stream. -/
def loginCaptcha : VkCaptchaError :=
  ⟨"https://id.vk.com/not_robot_captcha".toList, "token".toList⟩

/-- A window is opened for a captcha. -/
def openedRun (mode : Text) : List Action :=
  [.webview mode loginCaptcha, .drain, .print, .handle true]

/-- A token is captured and taken, and after that there is an `abort`. -/
def capturedRun : List Action :=
  openedRun "auto".toList ++
    [.created 0 none, .finished 0 (.captured "success".toList), .submit 0, .receive,
      .abort "клиент остановлен".toList]

/-- The token is that of the window, and no window is left unfinished. -/
theorem capturedRun_sound : Along System.step Sound .new capturedRun := by
  refine (sound_of_settled capturedRun).1
    ⟨trivial, trivial, ?_, ?_, trivial, trivial, trivial, trivial, ?_, trivial⟩
  · intro mode captcha printing
    exact ⟨rfl, (fun _ job member => nomatch member), (fun _ line member => nomatch member)⟩
  · intro running line first rejects
    exact absurd rejects.2.1 (by decide)
  · show ∀ job ∈ (final System.step .new (capturedRun.take 8)).service.jobs,
      job.progress.unfinished = false
    decide

/-- The window is closed, and before the service goes on the core asks for the next one. -/
def busyRun : List Action :=
  openedRun "auto".toList ++ [.created 0 none, .finished 0 .closed, .submit 0, .receive] ++
    openedRun "manual".toList ++ [.submit 1, .receive]

/-- There is an `abort` while a window is open. -/
def abortedRun : List Action :=
  openedRun "auto".toList ++ [.created 0 none, .abort "клиент остановлен".toList]

/-- The rejection of the second request is taken for it although the first one has been answered,
and the window stays open. -/
theorem busyRun_mixed :
    (final System.step .new (busyRun.take 13)).solver =
        ⟨some ⟨"error:busy".toList, 1, .rejection⟩, .waiting 1, 2⟩ ∧
      ¬Along System.step Sound .new busyRun ∧ ¬Along System.step Sound .new abortedRun := by
  have solver : (final System.step .new (busyRun.take 13)).solver =
      ⟨some ⟨"error:busy".toList, 1, .rejection⟩, .waiting 1, 2⟩ := by decide
  refine ⟨solver, fun along => ?_, fun along => ?_⟩
  · have split : busyRun = busyRun.take 13 ++ [.receive] := rfl
    rw [split, along_append] at along
    exact not_sound_of_taken (congrArg CaptchaSolver.receiver solver)
      (congrArg CaptchaSolver.channel solver) (.inr rfl) along.2.1
  · have split : abortedRun = abortedRun.take 5 ++ [.abort "клиент остановлен".toList] := rfl
    rw [split, along_append] at along
    have ended := along.2.1.aborts _ rfl
    revert ended
    decide

end Run

end Focsq.Captcha
