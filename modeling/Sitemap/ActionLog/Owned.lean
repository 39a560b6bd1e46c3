import Sitemap.ActionLog

/-!
# Owned action logs

The life of an action log. Its owner submits events while the worker is busy with earlier ones,
and drops the log in the end: no event is submitted from then on, the worker goes on with what
is queued, and the log is gone once the worker has come to an end.

## Main definitions

- `OwnedLog` — an action log and how far its life has come
- `OwnedLog.start` — a log in the hands of its owner
- `OwnedLog.Step`, `OwnedLog.step`, `OwnedLog.run` — what can happen to it, once and over time
- `OwnedLog.submissions` — the events submitted during a run, each with its answer
- `OwnedLog.BreaksDown` — the recorder broke down over an event during a run

## Design notes

The steps of owner and worker come in any order. As for the log alone, a step that is not
possible changes nothing: a log that is being dropped takes no event, and waiting for the worker
does not end before the worker does.
-/

namespace Sitemap

/-- The worker will do nothing more, as long as no event is submitted. -/
def ActionLog.HasEnded (log : ActionLog) : Prop :=
  log.worker = .stopped ∨ log.worker = .idle ∧ log.queue = []

instance (log : ActionLog) : Decidable log.HasEnded :=
  inferInstanceAs (Decidable (_ ∨ _))

/-- How far the life of a log has come. -/
inductive LogPhase where
  /-- Its owner submits events. -/
  | inUse
  /-- Its owner waits for the worker. -/
  | closing
  /-- It is gone. -/
  | dropped
  deriving DecidableEq

/-- An action log and how far its life has come. -/
structure OwnedLog where
  /-- The queue and the worker. -/
  log : ActionLog
  /-- How far its life has come. -/
  phase : LogPhase
  deriving DecidableEq

namespace OwnedLog

/-- A log in the hands of its owner. A worker that could not be started takes no event. -/
def start (capacity : Nat) (manned : Bool) : OwnedLog where
  log := { ActionLog.start capacity with worker := if manned then .idle else .stopped }
  phase := .inUse

/-- What can happen to a log during its life. -/
inductive Step where
  /-- The log makes a step of its own. -/
  | log (step : ActionLog.Step)
  /-- The owner begins to drop the log. -/
  | close
  /-- The owner finds that the worker has ended. -/
  | join
  deriving DecidableEq

/-- The log after a step. -/
def step (o : OwnedLog) : Step → OwnedLog
  | .log (.submit event) => if o.phase = .inUse then { o with log := o.log.submit event } else o
  | .log .take => { o with log := o.log.take }
  | .log .record => { o with log := o.log.record }
  | .log .breakDown => { o with log := o.log.breakDown }
  | .close => if o.phase = .inUse then { o with phase := .closing } else o
  | .join => if o.phase = .closing ∧ o.log.HasEnded then { o with phase := .dropped } else o

/-- The log after some steps. -/
def run (o : OwnedLog) (steps : List Step) : OwnedLog :=
  steps.foldl step o

/-- The event that a step submits, and whether it is accepted. -/
def submission? (o : OwnedLog) : Step → Option (Event × Bool)
  | .log (.submit event) => if o.phase = .inUse then some (event, o.log.accepts) else none
  | .log .take | .log .record | .log .breakDown | .close | .join => none

/-- The events submitted during a run, oldest first, and whether each was accepted. -/
def submissions (o : OwnedLog) : List Step → List (Event × Bool)
  | [] => []
  | step :: steps => (o.submission? step).toList ++ (o.step step).submissions steps

/-- During a run the recorder broke down while the worker had the event recorded. -/
def BreaksDown (o : OwnedLog) (steps : List Step) (event : Event) : Prop :=
  ∃ before after, steps = before ++ .log .breakDown :: after ∧
    (o.run before).log.worker = .recording event

end OwnedLog

end Sitemap
