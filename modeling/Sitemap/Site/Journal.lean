import Sitemap.Site.Run

/-!
# Journals

A run leaves a journal behind: the requests that came in, each with its answer. Statements
about what was last asked of a page, and about what a run never does, are statements about the
journal.

## Main definitions

- `Entry` — a request with its answer
- `Hosted.journal` — the requests of a run, oldest first
- `Entry.Completes` — a request that was answered without error
-/

namespace Sitemap

/-- A request with its answer. -/
structure Entry where
  /-- The request. -/
  command : Command
  /-- The answer. -/
  outcome : Except Error Answer

/-- The request was this one, and it was not refused. -/
def Entry.Completes (e : Entry) (command : Command) : Prop :=
  e.command = command ∧ ∃ a, e.outcome = .ok a

namespace Hosted

/-- What a step adds to the journal: a request with its answer, and nothing for the order that
    a commit fails. -/
def record (h : Hosted) : Step → List Entry
  | .request time command => [⟨command, (command.run time h).1⟩]
  | .failNextCommit => []

/-- The requests of a run with their answers, oldest first. -/
def journal (h : Hosted) : List Step → List Entry
  | [] => []
  | step :: steps => h.record step ++ (h.step step).journal steps

end Hosted

end Sitemap
