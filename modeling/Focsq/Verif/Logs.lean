import Focsq.Verif.LogWords
import Focsq.Lib.Mealy

/-!
# Errors in the log

An error line becomes an entry of its own, and no line is counted up in its place. But an entry is
also replaced by a later line with the same key, and then it matters that it is not the entry of an
error.
-/

namespace Focsq.Logs

variable {δ : Type} (doubles : Json.Doubles δ) (megabytes : Int → Text)

section Statement

/-- The number of entries that a change adds. -/
def Change.appends : Change → Nat
  | .appended _ => 1
  | .ignored | .replaced _ _ | .cleared => 0

/-- Every entry of an error is still there, unless as many entries have been added after it as the
log can hold. Entries are counted from the last one. -/
def Keeps (before after : LogService) (added : Nat) : Prop :=
  ∀ back entry, before.lines.reverse[back]? = some entry → isErrorLine entry = true →
    back + added < maxLines → after.lines.reverse[back + added]? = some entry

/-- The log after some calls. -/
def LogService.run (logs : LogService) (calls : List Timed) : LogService :=
  Mealy.final (LogService.step doubles megabytes) logs calls

/-- What they have done. -/
def LogService.changes (logs : LogService) (calls : List Timed) : List Change :=
  Mealy.outputs (LogService.step doubles megabytes) logs calls

/-- The log is never too long. An error line becomes an entry of its own, which is there until it is
the oldest one of too many, or until the log is cleared. -/
def ErrorsStay (calls : List Timed) : Prop :=
  ∀ before after, before ++ after <+: calls →
    (LogService.new.run doubles megabytes before).lines.length ≤ maxLines ∧
    (∀ line first second visible,
      (LogService.new.run doubles megabytes before).visible doubles megabytes line = some visible →
      isErrorLine visible = true →
        (LogService.new.run doubles megabytes before).change doubles megabytes first second line =
          .appended (stamped first visible)) ∧
    (.cleared ∉ (LogService.new.run doubles megabytes before).changes doubles megabytes after →
      Keeps (LogService.new.run doubles megabytes before)
        ((LogService.new.run doubles megabytes before).run doubles megabytes after)
        (((LogService.new.run doubles megabytes before).changes doubles megabytes after).map
          Change.appends).sum)

/-- A line that is added with a key and is not that of an error does not replace the entry of an
error. -/
def Safe (logs : LogService) (timed : Timed) : Prop :=
  ∀ line visible key index entry, timed.call = .add line → logs.developerMode = false →
    logs.visible doubles megabytes line = some visible → isErrorLine visible = false →
    resolveKey visible = some key → logs.findLineByKey key = some index →
    logs.lines[index]? = some entry → isErrorLine entry = false

end Statement

section Step

/-- The log is trimmed to its bound. -/
theorem length_trimAndNotify (logs : LogService) :
    logs.trimAndNotify.lines.length ≤ maxLines := by
  rw [LogService.trimAndNotify, List.length_drop]
  omega

/-- It is no longer after a change. -/
theorem length_apply {logs : LogService} (short : logs.lines.length ≤ maxLines) (change : Change) :
    (logs.apply change).lines.length ≤ maxLines := by
  cases change with
  | ignored | cleared => exact short
  | appended | replaced => exact length_trimAndNotify _

/-- Nor after a call. -/
theorem length_step {logs : LogService} (short : logs.lines.length ≤ maxLines) (timed : Timed) :
    (logs.step doubles megabytes timed).1.lines.length ≤ maxLines := by
  have clear (other : LogService) (fits : other.lines.length ≤ maxLines) :
      other.clear.lines.length ≤ maxLines := by
    unfold LogService.clear
    split_ifs
    · exact fits
    · exact Nat.zero_le _
  unfold LogService.step
  cases timed.call with
  | add line => exact length_apply short _
  | clear => exact clear logs short
  | setDeveloperMode value =>
    dsimp only
    unfold LogService.setDeveloperMode
    dsimp only
    split_ifs
    · exact short
    · exact short
    · have empty := clear { logs with developerMode := value } short
      exact length_apply empty _

/-- It is never too long. -/
theorem length_run {logs : LogService} (short : logs.lines.length ≤ maxLines)
    (calls : List Timed) : (logs.run doubles megabytes calls).lines.length ≤ maxLines :=
  Mealy.final_invariant (fun state : LogService => state.lines.length ≤ maxLines)
    (fun _ timed fits => length_step doubles megabytes fits timed) logs calls short

/-- The last entries are those of the log before it was trimmed. -/
theorem reverse_trimAndNotify (logs : LogService) (back : Nat) (recent : back < maxLines) :
    logs.trimAndNotify.lines.reverse[back]? = logs.lines.reverse[back]? := by
  have whole : logs.lines.reverse = logs.trimAndNotify.lines.reverse ++
      (logs.lines.take (logs.lines.length - maxLines)).reverse := by
    rw [LogService.trimAndNotify, ← List.reverse_append, List.take_append_drop]
  by_cases inside : back < logs.trimAndNotify.lines.reverse.length
  · rw [whole, List.getElem?_append_left inside]
  · have trimmed : logs.trimAndNotify.lines.reverse.length =
        logs.lines.length - (logs.lines.length - maxLines) := by
      rw [List.length_reverse, LogService.trimAndNotify, List.length_drop]
    have none : logs.trimAndNotify.lines.reverse.length ≤ back := by omega
    have fewer : logs.lines.reverse.length ≤ back := by
      rw [List.length_reverse]
      omega
    rw [List.getElem?_eq_none none, List.getElem?_eq_none fewer]

/-- An entry that is added comes after the others. -/
theorem keeps_appended (logs : LogService) (entry : Text) :
    Keeps logs (logs.apply (.appended entry)) 1 := by
  intro back kept there _ recent
  rw [LogService.apply, reverse_trimAndNotify _ _ recent]
  simp only [List.reverse_append, List.reverse_cons, List.reverse_nil, List.nil_append,
    List.singleton_append, List.getElem?_cons_succ]
  exact there

/-- An entry that takes the place of another one leaves the rest. -/
theorem keeps_replaced (logs : LogService) {index : Nat}
    (plain : ∀ entry, logs.lines[index]? = some entry → isErrorLine entry = false) (entry : Text) :
    Keeps logs (logs.apply (.replaced index entry)) 0 := by
  intro back kept there bad recent
  have inside : back < logs.lines.length := by
    have bound := (List.getElem?_eq_some_iff.mp there).1
    rwa [List.length_reverse] at bound
  rw [List.getElem?_reverse inside] at there
  have apart : index ≠ logs.lines.length - 1 - back := by
    rintro rfl
    have clean := plain kept there
    rw [bad] at clean
    cases clean
  rw [Nat.add_zero] at recent ⊢
  rw [LogService.apply, reverse_trimAndNotify _ _ recent]
  dsimp only
  rw [List.getElem?_reverse (by rw [List.length_set]; exact inside), List.length_set,
    List.getElem?_set_ne apart]
  exact there

/-- Nothing is done. -/
theorem keeps_refl (logs : LogService) : Keeps logs logs 0 := fun _ _ there _ _ => there

/-- What is kept twice is kept. -/
theorem keeps_trans {first second third : LogService} {one two : Nat} (here : Keeps first second one)
    (later : Keeps second third two) : Keeps first third (one + two) := by
  intro back entry there bad recent
  rw [← Nat.add_assoc] at recent ⊢
  exact later _ entry (here back entry there bad (by omega)) bad recent

/-- A line that is not that of an error is not counted up in the place of one. -/
theorem keeps_changeLast (logs : LogService) (first second : Time) {visible : Text}
    (plain : isErrorLine visible = false) :
    Keeps logs (logs.apply (logs.changeLast first second visible))
      (logs.changeLast first second visible).appends := by
  unfold LogService.changeLast
  dsimp only
  split_ifs with same
  · refine keeps_replaced logs (fun entry there => ?_) _
    have last : logs.lines.getLast? = Option.some entry := by
      rw [List.getLast?_eq_getElem?]
      exact there
    rw [last, Option.getD_some] at same
    rw [← isErrorLine_extractBody, same]
    exact plain
  · exact keeps_appended logs _

/-- What is visible of a line replaces no entry of an error if it is safe. -/
theorem keeps_changeVisible (logs : LogService) (first second : Time) (visible : Text)
    (safe : ∀ key index entry, logs.developerMode = false → isErrorLine visible = false →
      resolveKey visible = some key → logs.findLineByKey key = some index →
      logs.lines[index]? = some entry → isErrorLine entry = false) :
    Keeps logs (logs.apply (logs.changeVisible first second visible))
      (logs.changeVisible first second visible).appends := by
  unfold LogService.changeVisible
  split_ifs with alone mode
  · exact keeps_appended logs _
  · have plain := (not_or.mp alone).1
    exact keeps_changeLast logs first second (Bool.not_eq_true _ ▸ plain)
  · have quiet : isErrorLine visible = false := Bool.not_eq_true _ ▸ (not_or.mp alone).1
    cases named : resolveKey visible with
    | none => exact keeps_changeLast logs first second quiet
    | some key =>
      dsimp only
      cases found : logs.findLineByKey key with
      | none => exact keeps_changeLast logs first second quiet
      | some index =>
        have kept := keeps_replaced logs (safe key index · (Bool.not_eq_true _ ▸ mode) quiet named
          found)
        dsimp only
        split_ifs
        · exact kept _
        · exact kept _

/-- A safe call keeps the entries of errors unless it clears the log. -/
theorem keeps_step {logs : LogService} {timed : Timed} (safe : Safe doubles megabytes logs timed)
    (left : (logs.step doubles megabytes timed).2 ≠ .cleared) :
    Keeps logs (logs.step doubles megabytes timed).1
      (logs.step doubles megabytes timed).2.appends := by
  obtain ⟨call, first, second⟩ := timed
  cases call with
  | clear => exact absurd rfl left
  | setDeveloperMode value =>
    simp only [LogService.step, LogService.setDeveloperMode] at left ⊢
    split_ifs at left ⊢ with same empty
    · exact keeps_refl logs
    · exact keeps_refl logs
    · exact absurd rfl left
  | add line =>
    simp only [LogService.step, LogService.add, LogService.change] at left ⊢
    cases shown : logs.visible doubles megabytes line with
    | none => exact keeps_refl logs
    | some visible =>
      exact keeps_changeVisible logs first second visible fun key index entry mode plain =>
        safe line visible key index entry rfl mode shown plain

/-- The entry that was found for a key is one of those of the log. -/
theorem findLineByKey_lt {logs : LogService} {key : Text} {index : Nat}
    (found : logs.findLineByKey key = some index) : index < logs.lines.length := by
  unfold LogService.findLineByKey at found
  dsimp only at found
  obtain ⟨back, place, rfl⟩ := Option.map_eq_some_iff.mp found
  have bound := (List.findIdx?_eq_some_iff_getElem.mp place).1
  rw [List.length_reverse, List.length_drop] at bound
  omega

/-- A call that is not safe loses the entry of an error. -/
theorem not_keeps_step {logs : LogService} (short : logs.lines.length ≤ maxLines) {timed : Timed}
    (risky : ¬ Safe doubles megabytes logs timed) :
    (logs.step doubles megabytes timed).2 ≠ .cleared ∧
      ¬ Keeps logs (logs.step doubles megabytes timed).1
        (logs.step doubles megabytes timed).2.appends := by
  obtain ⟨call, first, second⟩ := timed
  simp only [Safe, not_forall, Bool.not_eq_false] at risky
  obtain ⟨line, visible, key, index, entry, rfl, mode, shown, plain, named, found, there, bad⟩ :=
    risky
  have inside := findLineByKey_lt found
  have nonempty : logs.lines ≠ [] := List.ne_nil_of_length_pos (Nat.zero_lt_of_lt inside)
  have changed : ∃ other, isErrorLine other = false ∧
      logs.change doubles megabytes first second line = .replaced index other := by
    have alone : ¬ (isErrorLine visible = true ∨ logs.lines = []) := by
      rintro (error | empty)
      · rw [plain] at error
        cases error
      · exact nonempty empty
    simp only [LogService.change, shown, LogService.changeVisible, if_neg alone, mode, named, found,
      Bool.false_eq_true, if_false]
    split_ifs
    · exact ⟨_, (isErrorLine_counted _ _ _).trans plain, rfl⟩
    · exact ⟨_, (isErrorLine_stamped _ _).trans plain, rfl⟩
  obtain ⟨other, good, changed⟩ := changed
  simp only [LogService.step, LogService.add, changed]
  refine ⟨Change.noConfusion, fun keeps => ?_⟩
  have back : logs.lines.length - 1 - (logs.lines.length - 1 - index) = index := by omega
  have before : logs.lines.reverse[logs.lines.length - 1 - index]? = some entry := by
    rw [List.getElem?_reverse (by omega), back]
    exact there
  have recent : logs.lines.length - 1 - index < maxLines := by omega
  have after := keeps _ entry before bad recent
  rw [Change.appends, Nat.add_zero, LogService.apply, reverse_trimAndNotify _ _ recent] at after
  dsimp only at after
  rw [List.getElem?_reverse (by rw [List.length_set]; omega), List.length_set, back,
    List.getElem?_set_self inside] at after
  rw [Option.some.inj after, bad] at good
  cases good

end Step

section Run

/-- Safe calls keep the entries of errors unless they clear the log. -/
theorem keeps_run {logs : LogService} (calls : List Timed)
    (safe : Mealy.Along (LogService.step doubles megabytes) (Safe doubles megabytes) logs calls)
    (left : .cleared ∉ logs.changes doubles megabytes calls) :
    Keeps logs (logs.run doubles megabytes calls)
      ((logs.changes doubles megabytes calls).map Change.appends).sum := by
  induction calls generalizing logs with
  | nil => exact keeps_refl logs
  | cons timed rest ih =>
    obtain ⟨here, later⟩ := List.ne_and_not_mem_of_not_mem_cons left
    have first := keeps_step doubles megabytes safe.1 fun same => here same.symm
    exact keeps_trans first (ih safe.2 later)

/-- Errors stay in the log in exactly the runs in which every call is safe. -/
theorem errorsStay_iff_safe (calls : List Timed) :
    ErrorsStay doubles megabytes calls ↔
      Mealy.Along (LogService.step doubles megabytes) (Safe doubles megabytes) .new calls := by
  rw [Mealy.along_iff_forall]
  constructor
  · intro stay before timed begins
    by_contra risky
    have short := (stay before [timed] begins).1
    obtain ⟨left, lost⟩ := not_keeps_step doubles megabytes short risky
    have kept := (stay before [timed] begins).2.2 (by
      simpa [LogService.changes, Mealy.outputs] using Ne.symm left)
    simp only [LogService.changes, Mealy.outputs, List.map_cons, List.map_nil, List.sum_cons,
      List.sum_nil, Nat.add_zero] at kept
    exact lost kept
  · rintro safe before after ⟨rest, rfl⟩
    refine ⟨length_run doubles megabytes (Nat.zero_le _) before, ?_, fun left => ?_⟩
    · intro line first second visible shown bad
      simp only [LogService.change, shown, LogService.changeVisible]
      rw [if_pos (.inl bad)]
    · refine keeps_run doubles megabytes after ?_ left
      have along := (Mealy.along_iff_forall _ _).mpr safe
      rw [List.append_assoc, Mealy.along_append, Mealy.along_append] at along
      exact along.2.1

/-- Midnight. -/
def midnight : Time := ⟨0, 0, 0⟩

/-- A line is added at midnight. -/
def addition (line : Text) : Timed := ⟨.add line, midnight, midnight⟩

/-- A captcha could not be solved, and the next one is to be. -/
def captchaRun : List Timed :=
  [addition "[КАПЧА] Решение не удалась".toList, addition "[КАПЧА] Решаю капчу".toList]

/-- The entry of the error is replaced. -/
theorem captchaRun_loses :
    isErrorLine "[КАПЧА] Решение не удалась".toList = true ∧
      (LogService.new.run Json.Doubles.literals (fun _ => []) (captchaRun.take 1)).lines =
        ["[00:00:00] [КАПЧА] Решение не удалась".toList] ∧
      (LogService.new.run Json.Doubles.literals (fun _ => []) captchaRun).lines =
        ["[00:00:00] [КАПЧА] Решение капчи...".toList] := by
  decide +kernel

end Run

end Focsq.Logs
