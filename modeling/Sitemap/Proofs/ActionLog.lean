import Sitemap.ActionLog.Owned

/-!
# What an action log records

The events that were accepted are the recorded ones, the one that the worker holds and the queued
ones, in this order. Every step of owner and worker keeps that, so what is recorded is always the
beginning of what was accepted. Once the log is dropped nothing is left between the two, unless
the recorder broke down.

## Main definitions

- `ActionLog.held` — the event that the worker holds, if any
- `ActionLog.IsAccounted` — no accepted event got lost as long as the worker is alive

## Main results

- `ActionLog.IsAccounted.step` — the steps of a log keep account of the accepted events
- `ActionLog.hasEnded_drain` — the worker comes to an end by itself
- `OwnedLog.log_records_accepted` — what is recorded of the events that are submitted to a log,
  whatever the order of the steps
-/

namespace Sitemap

namespace ActionLog

variable {log : ActionLog} {event : Event} {limit : Option Nat}

/-- The event that the worker holds, if any. -/
def held (log : ActionLog) : List Event :=
  match log.worker with
  | .recording event => [event]
  | .idle | .stopped => []

/-- The queue is no longer than it can be. While the worker is alive, every accepted event was
    recorded, is held or is queued, in this order; after that only the recorded ones are known. -/
structure IsAccounted (log : ActionLog) : Prop where
  /-- The queued events have room. -/
  room : log.queue.length ≤ log.slots
  /-- No accepted event got lost. -/
  alive : log.worker ≠ .stopped → log.accepted = log.recorded ++ (log.held ++ log.queue)
  /-- Nothing else was recorded. -/
  isPrefix : log.recorded <+: log.accepted

-- ════════════════════════════════════════════════════════════════════════
-- Steps
-- ════════════════════════════════════════════════════════════════════════

theorem submit_of_accepts (h : log.accepts = true) :
    log.submit event =
      { log with queue := log.queue ++ [event], accepted := log.accepted ++ [event] } :=
  if_pos h

theorem submit_of_not_accepts (h : log.accepts = false) : log.submit event = log :=
  if_neg (by rw [h]; simp)

theorem accepts_eq_true_iff :
    log.accepts = true ↔ log.worker ≠ .stopped ∧ log.queue.length < log.slots := by
  simp [accepts]

theorem IsAccounted.accepts_eq_false_iff (h : log.IsAccounted) :
    log.accepts = false ↔ log.queue.length = log.slots ∨ log.worker = .stopped := by
  have hroom := h.room
  rw [← Bool.not_eq_true, accepts_eq_true_iff]
  constructor
  · intro hrefused
    by_cases hstopped : log.worker = .stopped
    · exact .inr hstopped
    · have hfull : ¬ log.queue.length < log.slots := fun hlt => hrefused ⟨hstopped, hlt⟩
      exact .inl (by omega)
  · rintro (hfull | hstopped) ⟨halive, hlt⟩
    · omega
    · exact halive hstopped

theorem IsAccounted.submit (h : log.IsAccounted) (event : Event) :
    (log.submit event).IsAccounted := by
  cases haccepts : log.accepts with
  | false => rwa [submit_of_not_accepts haccepts]
  | true =>
    obtain ⟨halive, hlt⟩ := accepts_eq_true_iff.1 haccepts
    have haccepted := h.alive halive
    rw [submit_of_accepts haccepts]
    refine ⟨?_, fun _ => ?_, h.isPrefix.trans (List.prefix_append _ _)⟩
    · simp only [List.length_append, List.length_singleton]
      omega
    · show log.accepted ++ [event] = log.recorded ++ (log.held ++ (log.queue ++ [event]))
      rw [haccepted, List.append_assoc, List.append_assoc]

theorem IsAccounted.take (h : log.IsAccounted) : log.take.IsAccounted := by
  unfold ActionLog.take
  split
  · next event queue hidle hqueue =>
    have hroom := h.room
    have haccepted := h.alive (by rw [hidle]; simp)
    rw [hqueue] at hroom haccepted
    refine ⟨?_, fun _ => ?_, h.isPrefix⟩
    · rw [List.length_cons] at hroom
      exact Nat.le_of_succ_le hroom
    · rw [haccepted, held, hidle]
      rfl
  · exact h
  · exact h
  · exact h

theorem IsAccounted.record (h : log.IsAccounted) : log.record.IsAccounted := by
  unfold ActionLog.record
  split
  · next event hholds =>
    have haccepted := h.alive (by rw [hholds]; simp)
    have hnext : log.accepted = (log.recorded ++ [event]) ++ log.queue := by
      rw [haccepted, held, hholds, List.append_assoc]
    refine ⟨h.room, fun _ => ?_, ?_⟩
    · rw [hnext]
      rfl
    · rw [hnext]
      exact List.prefix_append _ _
  · exact h
  · exact h

theorem IsAccounted.breakDown (h : log.IsAccounted) : log.breakDown.IsAccounted := by
  unfold ActionLog.breakDown
  split
  · exact ⟨Nat.zero_le _, fun halive => absurd rfl halive, h.isPrefix⟩
  · exact h
  · exact h

theorem IsAccounted.step (h : log.IsAccounted) (step : Step) : (log.step step).IsAccounted := by
  cases step with
  | submit event => exact h.submit event
  | take => exact h.take
  | record => exact h.record
  | breakDown => exact h.breakDown

@[simp]
theorem slots_step (log : ActionLog) (step : Step) : (log.step step).slots = log.slots := by
  cases step with
  | submit event => simp only [ActionLog.step, submit]; split <;> rfl
  | take => simp only [ActionLog.step, take]; split <;> rfl
  | record => simp only [ActionLog.step, record]; split <;> rfl
  | breakDown => simp only [ActionLog.step, breakDown]; split <;> rfl

/-- After the worker has stopped nothing happens any more. -/
theorem step_of_stopped (h : log.worker = .stopped) (step : Step) : log.step step = log := by
  cases step with
  | submit event =>
    refine submit_of_not_accepts ?_
    simp [accepts, h]
  | take => simp only [ActionLog.step, take, h]
  | record => simp only [ActionLog.step, record, h]
  | breakDown => simp only [ActionLog.step, breakDown, h]

/-- The worker stops because the recorder breaks down over the event that it holds. -/
theorem recording_of_stopped {step : Step} (halive : log.worker ≠ .stopped)
    (hstopped : (log.step step).worker = .stopped) :
    step = .breakDown ∧ ∃ event, log.worker = .recording event := by
  cases step with
  | submit event =>
    simp only [ActionLog.step, submit] at hstopped
    split at hstopped
    · exact absurd hstopped halive
    · exact absurd hstopped halive
  | take =>
    simp only [ActionLog.step, take] at hstopped
    split at hstopped
    · cases hstopped
    · exact absurd hstopped halive
    · exact absurd hstopped halive
    · exact absurd hstopped halive
  | record =>
    simp only [ActionLog.step, record] at hstopped
    split at hstopped
    · cases hstopped
    · exact absurd hstopped halive
    · exact absurd hstopped halive
  | breakDown =>
    simp only [ActionLog.step, breakDown] at hstopped
    split at hstopped
    · next event hholds => exact ⟨rfl, event, hholds⟩
    · exact absurd hstopped halive
    · exact absurd hstopped halive

/-- A worker that has ended goes on doing nothing while no event is submitted. -/
theorem HasEnded.step {step : Step} (h : log.HasEnded) (hstep : ∀ event, step ≠ .submit event) :
    log.step step = log := by
  rcases h with hstopped | ⟨hidle, hempty⟩
  · exact step_of_stopped hstopped step
  · cases step with
    | submit event => exact absurd rfl (hstep event)
    | take => simp only [ActionLog.step, take, hidle, hempty]
    | record => simp only [ActionLog.step, record, hidle]
    | breakDown => simp only [ActionLog.step, breakDown, hidle]

-- ════════════════════════════════════════════════════════════════════════
-- The end of the worker
-- ════════════════════════════════════════════════════════════════════════

/-- The number of events that the worker still has before it. -/
def pending (log : ActionLog) : Nat :=
  match log.worker with
  | .idle => log.queue.length
  | .recording _ => log.queue.length + 1
  | .stopped => 0

theorem hasEnded_of_pending (h : log.pending = 0) : log.HasEnded := by
  unfold pending at h
  split at h
  · next hidle => exact .inr ⟨hidle, List.length_eq_zero_iff.1 h⟩
  · omega
  · next hstopped => exact .inl hstopped

theorem pending_le (log : ActionLog) : log.pending ≤ log.queue.length + 1 := by
  unfold pending
  split <;> omega

/-- Either the event that the worker holds is recorded, or it is the last one. -/
theorem pending_workOff (limit : Option Nat) (log : ActionLog) :
    (log.workOff limit).pending ≤ log.pending - 1 := by
  -- after taking an event the worker holds one, unless it has ended
  have hheld : ∀ (log : ActionLog) event, log.worker = .recording event →
      log.record.pending ≤ log.pending - 1 ∧ log.breakDown.pending ≤ log.pending - 1 := by
    intro log event hholds
    simp [record, breakDown, pending, hholds]
  cases hworker : log.worker with
  | idle =>
    cases hqueue : log.queue with
    | nil =>
      have htake : log.take = log := by simp only [take, hworker, hqueue]
      simp [workOff, htake, record, breakDown, pending, hworker, hqueue]
    | cons event queue =>
      have htake : log.take = { log with queue, worker := .recording event } := by
        simp only [take, hworker, hqueue]
      have hpending : log.take.pending = log.pending := by
        simp [htake, pending, hworker, hqueue]
      obtain ⟨hrecord, hbreak⟩ := hheld log.take event (by rw [htake])
      rw [hpending] at hrecord hbreak
      unfold workOff
      dsimp only
      split
      · exact hbreak
      · exact hrecord
  | recording event =>
    have htake : log.take = log := by simp only [take, hworker]
    obtain ⟨hrecord, hbreak⟩ := hheld log event hworker
    unfold workOff
    rw [htake]
    dsimp only
    split
    · exact hbreak
    · exact hrecord
  | stopped =>
    have htake : log.take = log := by simp only [take, hworker]
    simp [workOff, htake, record, breakDown, pending, hworker]

/-- The worker comes to an end when it goes on by itself. -/
theorem hasEnded_drain (limit : Option Nat) (log : ActionLog) : (log.drain limit).HasEnded := by
  have hrounds : ∀ (rounds : List Nat) (log : ActionLog), log.pending ≤ rounds.length →
      (rounds.foldl (fun log _ => log.workOff limit) log).pending = 0 := by
    intro rounds
    induction rounds with
    | nil => exact fun log h => Nat.le_zero.1 h
    | cons round rounds ih =>
      intro log h
      have hround := pending_workOff limit log
      rw [List.length_cons] at h
      exact ih (log.workOff limit) (by omega)
  refine hasEnded_of_pending (hrounds _ _ ?_)
  rw [List.length_range]
  exact log.pending_le

end ActionLog

-- ════════════════════════════════════════════════════════════════════════
-- Owned logs
-- ════════════════════════════════════════════════════════════════════════

namespace OwnedLog

variable {o : OwnedLog} {capacity : Nat} {manned : Bool} {steps before after : List Step}
  {event : Event}

theorem run_append (o : OwnedLog) (before after : List Step) :
    o.run (before ++ after) = (o.run before).run after :=
  List.foldl_append

theorem isAccounted_start (capacity : Nat) (manned : Bool) :
    (start capacity manned).log.IsAccounted := by
  refine ⟨Nat.zero_le _, fun _ => ?_, List.prefix_refl _⟩
  cases manned <;> rfl

/-- Seen from the log, a step of its life is a step of its own, or it does not concern the log. -/
theorem log_step (o : OwnedLog) (step : Step) :
    (o.step step).log = o.log ∨ ∃ s : ActionLog.Step, step = .log s ∧
      (o.step step).log = o.log.step s ∧ ∀ event, s = .submit event → o.phase = .inUse := by
  cases step with
  | log s =>
    cases s with
    | submit event =>
      by_cases huse : o.phase = .inUse
      · exact .inr ⟨_, rfl, by rw [OwnedLog.step, if_pos huse]; rfl, fun _ _ => huse⟩
      · exact .inl (by rw [OwnedLog.step, if_neg huse])
    | take | record | breakDown => exact .inr ⟨_, rfl, rfl, fun _ h => nomatch h⟩
  | close =>
    left
    simp only [OwnedLog.step]
    split <;> rfl
  | join =>
    left
    simp only [OwnedLog.step]
    split <;> rfl

theorem isAccounted_run (h : o.log.IsAccounted) (steps : List Step) :
    (o.run steps).log.IsAccounted := by
  induction steps generalizing o with
  | nil => exact h
  | cons step steps ih =>
    refine ih ?_
    rcases o.log_step step with hsame | ⟨s, -, hs, -⟩
    · rwa [hsame]
    · rw [hs]
      exact h.step s

theorem slots_run (o : OwnedLog) (steps : List Step) : (o.run steps).log.slots = o.log.slots := by
  induction steps generalizing o with
  | nil => rfl
  | cons step steps ih =>
    refine (ih (o.step step)).trans ?_
    rcases o.log_step step with hsame | ⟨s, -, hs, -⟩
    · rw [hsame]
    · rw [hs, ActionLog.slots_step]

theorem log_run_of_stopped (h : o.log.worker = .stopped) (steps : List Step) :
    (o.run steps).log = o.log := by
  induction steps generalizing o with
  | nil => rfl
  | cons step steps ih =>
    have hstep : (o.step step).log = o.log := by
      rcases o.log_step step with hsame | ⟨s, -, hs, -⟩
      · exact hsame
      · exact hs.trans (ActionLog.step_of_stopped h s)
    exact (ih (by rw [hstep]; exact h)).trans hstep

/-- A worker that has stopped was made to by the recorder. -/
theorem exists_breaksDown (halive : o.log.worker ≠ .stopped)
    (hstopped : (o.run steps).log.worker = .stopped) : ∃ event, o.BreaksDown steps event := by
  induction steps generalizing o with
  | nil => exact absurd hstopped halive
  | cons step steps ih =>
    by_cases hnext : (o.step step).log.worker = .stopped
    · rcases o.log_step step with hsame | ⟨s, rfl, hs, -⟩
      · rw [hsame] at hnext
        exact absurd hnext halive
      · rw [hs] at hnext
        obtain ⟨rfl, event, hholds⟩ := ActionLog.recording_of_stopped halive hnext
        exact ⟨event, [], steps, rfl, hholds⟩
    · obtain ⟨event, before, after, rfl, hholds⟩ := ih hnext hstopped
      exact ⟨event, step :: before, after, rfl, hholds⟩

/-- When the recorder breaks down over an event, what was recorded before is all that ever will
    be, and the event is the next one that was accepted. -/
theorem recorded_of_breakDown (h : o.log.IsAccounted)
    (hholds : (o.run before).log.worker = .recording event) (after : List Step) :
    (o.run (before ++ .log .breakDown :: after)).log.recorded = (o.run before).log.recorded ∧
      ∃ lost, (o.run (before ++ .log .breakDown :: after)).log.accepted =
        (o.run before).log.recorded ++ event :: lost := by
  have haccounted := isAccounted_run h before
  have haccepted := haccounted.alive (by rw [hholds]; simp)
  have hbroken : ((o.run before).step (.log .breakDown)).log =
      { (o.run before).log with worker := .stopped, queue := [] } := by
    show (o.run before).log.breakDown = _
    simp only [ActionLog.breakDown, hholds]
  have hlog : (o.run (before ++ .log .breakDown :: after)).log =
      { (o.run before).log with worker := .stopped, queue := [] } := by
    rw [run_append]
    refine (log_run_of_stopped (o := (o.run before).step (.log .breakDown)) ?_ after).trans hbroken
    rw [hbroken]
  rw [hlog]
  refine ⟨rfl, (o.run before).log.queue, ?_⟩
  rw [haccepted, ActionLog.held, hholds]
  rfl

/-- The accepted events are those whose submission was answered so. -/
theorem accepted_run (o : OwnedLog) (steps : List Step) : (o.run steps).log.accepted =
    o.log.accepted ++ ((o.submissions steps).filter Prod.snd).map Prod.fst := by
  induction steps generalizing o with
  | nil => rw [submissions]; simp; rfl
  | cons step steps ih =>
    have hstep : (o.step step).log.accepted =
        o.log.accepted ++ ((o.submission? step).toList.filter Prod.snd).map Prod.fst := by
      cases step with
      | log s =>
        cases s with
        | submit event =>
          by_cases huse : o.phase = .inUse
          · cases haccepts : o.log.accepts with
            | true => simp [OwnedLog.step, submission?, huse, haccepts,
                ActionLog.submit_of_accepts haccepts]
            | false => simp [OwnedLog.step, submission?, huse, haccepts,
                ActionLog.submit_of_not_accepts haccepts]
          · simp [OwnedLog.step, submission?, huse]
        | take =>
          simp only [OwnedLog.step, submission?, ActionLog.take]
          split <;> simp
        | record =>
          simp only [OwnedLog.step, submission?, ActionLog.record]
          split <;> simp
        | breakDown =>
          simp only [OwnedLog.step, submission?, ActionLog.breakDown]
          split <;> simp
      | close =>
        simp only [OwnedLog.step, submission?]
        split <;> simp
      | join =>
        simp only [OwnedLog.step, submission?]
        split <;> simp
    have hrest := ih (o.step step)
    rw [hstep] at hrest
    show ((o.step step).run steps).log.accepted = _
    rw [hrest, submissions, List.filter_append, List.map_append, List.append_assoc]

-- ════════════════════════════════════════════════════════════════════════
-- Dropped logs
-- ════════════════════════════════════════════════════════════════════════

/-- The worker of a dropped log has ended, and stays so. -/
theorem hasEnded_of_dropped (hstart : o.phase = .inUse)
    (hdropped : (o.run steps).phase = .dropped) : (o.run steps).log.HasEnded := by
  have hstep : ∀ (o : OwnedLog) step, (o.phase = .dropped → o.log.HasEnded) →
      (o.step step).phase = .dropped → (o.step step).log.HasEnded := by
    intro o step hended hgone
    cases step with
    | log s =>
      have hphase : (o.step (.log s)).phase = o.phase := by
        cases s with
        | submit event =>
          simp only [OwnedLog.step]
          split <;> rfl
        | take | record | breakDown => rfl
      rw [hphase] at hgone
      rcases o.log_step (.log s) with hsame | ⟨s', heq, hs, hsubmit⟩
      · rw [hsame]
        exact hended hgone
      · rw [hs, (hended hgone).step fun event hevent => ?_]
        · exact hended hgone
        · rw [hsubmit event hevent] at hgone
          cases hgone
    | close =>
      simp only [OwnedLog.step] at hgone ⊢
      split at hgone
      · cases hgone
      · next huse =>
        rw [if_neg huse]
        exact hended hgone
    | join =>
      simp only [OwnedLog.step] at hgone ⊢
      split at hgone
      · next hjoin =>
        rw [if_pos hjoin]
        exact hjoin.2
      · next hjoin =>
        rw [if_neg hjoin]
        exact hended hgone
  have hrun : ∀ (steps : List Step) (o : OwnedLog), (o.phase = .dropped → o.log.HasEnded) →
      (o.run steps).phase = .dropped → (o.run steps).log.HasEnded := by
    intro steps
    induction steps with
    | nil => exact fun o h => h
    | cons step steps ih => exact fun o h => ih (o.step step) (hstep o step h)
  refine hrun steps o (fun hgone => ?_) hdropped
  rw [hstart] at hgone
  cases hgone

/-- Whatever the recorder does, waiting for the worker comes to an end. -/
theorem exists_run_drain (h : o.phase = .closing) (limit : Option Nat) :
    ∃ more, o.run more = ⟨o.log.drain limit, .dropped⟩ := by
  have hround : ∀ log : ActionLog, ∃ more,
      (⟨log, .closing⟩ : OwnedLog).run more = ⟨log.workOff limit, .closing⟩ := by
    intro log
    unfold ActionLog.workOff
    dsimp only
    split
    · exact ⟨[.log .take, .log .breakDown], rfl⟩
    · exact ⟨[.log .take, .log .record], rfl⟩
  have hrounds : ∀ (rounds : List Nat) (log : ActionLog), ∃ more,
      (⟨log, .closing⟩ : OwnedLog).run more =
        ⟨rounds.foldl (fun log _ => log.workOff limit) log, .closing⟩ := by
    intro rounds
    induction rounds with
    | nil => exact fun log => ⟨[], rfl⟩
    | cons round rounds ih =>
      intro log
      obtain ⟨first, hfirst⟩ := hround log
      obtain ⟨rest, hrest⟩ := ih (log.workOff limit)
      exact ⟨first ++ rest, by rw [run_append, hfirst, hrest]; rfl⟩
  obtain ⟨log, phase⟩ := o
  obtain rfl : phase = .closing := h
  obtain ⟨more, hmore⟩ := hrounds (List.range (log.queue.length + 1)) log
  refine ⟨more ++ [.join], ?_⟩
  rw [run_append, hmore]
  exact if_pos ⟨rfl, log.hasEnded_drain limit⟩

/-- What a log makes of the events that are submitted to it, whatever the capacity and the order
    of the steps of owner and worker. An event is refused only when the queue is full or the
    worker has stopped. The accepted events are recorded one after the other and nothing else is,
    so what is recorded is their beginning at any time. When the log has been dropped, that is all
    of them, unless the recorder broke down: then it is what was accepted before the event that it
    broke down over. Dropping the log ends after the worker has gone on by itself. -/
theorem log_records_accepted (capacity : Nat) (manned : Bool) (steps : List Step) :
    let first := start capacity manned
    let last := first.run steps
    (∀ event, last.submission? (.log (.submit event)) = some (event, false) →
        last.log.queue.length = max capacity 1 ∨ last.log.worker = .stopped) ∧
      last.log.accepted = ((first.submissions steps).filter Prod.snd).map Prod.fst ∧
      last.log.recorded <+: last.log.accepted ∧
      (last.phase = .dropped → (∀ event, ¬ first.BreaksDown steps event) →
        last.log.recorded = last.log.accepted) ∧
      (∀ before event after, steps = before ++ .log .breakDown :: after →
        (first.run before).log.worker = .recording event →
          last.log.recorded = (first.run before).log.recorded ∧
            ∃ lost, last.log.accepted = last.log.recorded ++ event :: lost) ∧
      (last.phase = .closing → ∀ limit, ∃ more, last.run more = ⟨last.log.drain limit, .dropped⟩) := by
  intro first last
  have hfirst : first.log.IsAccounted := isAccounted_start capacity manned
  have hlast : last.log.IsAccounted := isAccounted_run hfirst steps
  refine ⟨fun event hrefused => ?_, ?_, hlast.isPrefix, fun hdropped hnever => ?_,
    fun before event after hsteps hholds => ?_, exists_run_drain⟩
  · have hslots : last.log.slots = max capacity 1 := slots_run first steps
    rw [← hslots]
    refine hlast.accepts_eq_false_iff.1 ?_
    simp only [submission?] at hrefused
    split at hrefused
    · simpa using hrefused
    · cases hrefused
  · exact accepted_run first steps
  · by_cases hstarted : first.log.worker = .stopped
    · -- there never was a worker
      rw [show last.log = first.log from log_run_of_stopped hstarted steps]
      rfl
    · have halive : last.log.worker ≠ .stopped := by
        intro hstopped
        obtain ⟨event, hevent⟩ := exists_breaksDown hstarted hstopped
        exact hnever event hevent
      obtain hstopped | ⟨hidle, hempty⟩ := hasEnded_of_dropped rfl hdropped
      · exact absurd hstopped halive
      · rw [hlast.alive halive, ActionLog.held, hidle, hempty, List.append_nil, List.append_nil]
  · obtain ⟨hrecorded, lost, haccepted⟩ := recorded_of_breakDown hfirst hholds after
    rw [← hsteps] at hrecorded haccepted
    exact ⟨hrecorded, lost, haccepted.trans (by rw [← hrecorded])⟩

/-- A log without room for events has room for one. The first event is taken at once, the second
    one waits, the third one is refused. The recorder breaks down over the second one while the
    log is dropped. -/
theorem log_records_accepted_sample :
    let steps : List Step :=
      [.log (.submit (.updated "a")), .log .take, .log (.submit (.updated "b")),
        .log (.submit (.updated "c")), .close, .log .record, .log .take, .log .breakDown, .join]
    let last := (start 0 true).run steps
    last.phase = .dropped ∧ last.log.recorded = [.updated "a"] ∧
      (start 0 true).submissions steps =
        [(.updated "a", true), (.updated "b", true), (.updated "c", false)] ∧
      ∃ lost, last.log.accepted = last.log.recorded ++ .updated "b" :: lost := by
  intro steps last
  have hbroken := (log_records_accepted 0 true steps).2.2.2.2.1 (steps.take 7) (.updated "b")
    [.join] (by decide) (by decide)
  exact ⟨by decide, by decide, by decide, hbroken.2⟩

end OwnedLog

end Sitemap
