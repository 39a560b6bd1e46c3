import Sitemap.Event

/-!
# The action log

Events are handed to a worker through a bounded queue, so that whoever reports an event
never waits. An event that finds the queue full, or the worker stopped, is refused. The
worker takes the events one by one, in the order in which they were accepted, and has
each of them recorded.

## Main definitions

- `ActionLog` — the queue, what the worker is at, and what was accepted and recorded
- `ActionLog.Step` — what can happen: an event is submitted, taken, recorded, or the
  recorder breaks down over it
- `ActionLog.step` — what one of these does to the log
- `ActionLog.drain` — the log after the worker has come to an end

## Design notes

Submitting and working go on side by side, so the log is a machine whose steps come in
any order. A step that is not possible changes nothing: there is no event to take from
an empty queue, and none to record while none is held.

A recorder that breaks down takes the event it was given with it, and the worker stops
for good. What is queued then is lost.
-/

namespace Sitemap

/-- What the worker of an action log is at. -/
inductive Worker where
  /-- It waits for an event. -/
  | idle
  /-- It has an event recorded. -/
  | recording (event : Event)
  /-- It has stopped because the recorder broke down. -/
  | stopped
  deriving DecidableEq

/-- A queue of events with a worker behind it. -/
structure ActionLog where
  /-- The number of events that the queue can hold. -/
  slots : Nat
  /-- The events in the queue, oldest first. -/
  queue : List Event
  /-- What the worker is at. -/
  worker : Worker
  /-- The events accepted so far, oldest first. -/
  accepted : List Event
  /-- The events recorded so far, oldest first. -/
  recorded : List Event
  deriving DecidableEq

namespace ActionLog

/-- A log that has seen no event. There is always room for one. -/
def start (capacity : Nat) : ActionLog where
  slots := max capacity 1
  queue := []
  worker := .idle
  accepted := []
  recorded := []

/-- Whether the log would accept an event now. -/
def accepts (log : ActionLog) : Bool :=
  log.worker ≠ .stopped && log.queue.length < log.slots

/-- Queue an event, or refuse it. -/
def submit (log : ActionLog) (event : Event) : ActionLog :=
  if log.accepts then
    { log with queue := log.queue ++ [event], accepted := log.accepted ++ [event] }
  else log

/-- The worker takes the oldest event of the queue. -/
def take (log : ActionLog) : ActionLog :=
  match log.worker, log.queue with
  | .idle, event :: queue => { log with queue, worker := .recording event }
  | .idle, [] | .recording _, _ | .stopped, _ => log

/-- The event that the worker holds is recorded. -/
def record (log : ActionLog) : ActionLog :=
  match log.worker with
  | .recording event => { log with worker := .idle, recorded := log.recorded ++ [event] }
  | .idle | .stopped => log

/-- The recorder breaks down over the event that the worker holds. -/
def breakDown (log : ActionLog) : ActionLog :=
  match log.worker with
  | .recording _ => { log with worker := .stopped, queue := [] }
  | .idle | .stopped => log

/-- What can happen to a log. -/
inductive Step where
  /-- An event is submitted. -/
  | submit (event : Event)
  /-- The worker takes an event from the queue. -/
  | take
  /-- The event that the worker holds is recorded. -/
  | record
  /-- The recorder breaks down over the event that the worker holds. -/
  | breakDown
  deriving DecidableEq

/-- The log after a step. -/
def step (log : ActionLog) : Step → ActionLog
  | .submit event => log.submit event
  | .take => log.take
  | .record => log.record
  | .breakDown => log.breakDown

/-- The log after some steps. -/
def run (log : ActionLog) (steps : List Step) : ActionLog :=
  steps.foldl step log

/-- The worker takes the next event and has it recorded. The recorder breaks down over
    the event that comes after `limit` recorded ones. -/
def workOff (limit : Option Nat) (log : ActionLog) : ActionLog :=
  let log := log.take
  if limit = some log.recorded.length then log.breakDown else log.record

/-- The worker goes on until it holds no event and finds none in the queue. Each round
    takes one event from the queue, and the first may still find one that is held. -/
def drain (limit : Option Nat) (log : ActionLog) : ActionLog :=
  (List.range (log.queue.length + 1)).foldl (fun log _ => log.workOff limit) log

end ActionLog

end Sitemap
