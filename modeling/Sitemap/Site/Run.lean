import Sitemap.Site.Command

/-!
# Runs

What happens to a hosted site over time: requests come in, and commits are made to fail.
Nobody else writes to its environment meanwhile.

## Main definitions

- `Hosted.Step` — a request, or the order that the next commit fails
- `Hosted.step` — the site after one of these
- `Hosted.run` — the site after some of them
-/

namespace Sitemap

namespace Hosted

/-- What can happen to a hosted site. -/
inductive Step where
  /-- A request comes in at a time. -/
  | request (time : Timestamp) (command : Command)
  /-- The next commit is made to fail. -/
  | failNextCommit

/-- The site after a step. -/
def step (h : Hosted) : Step → Hosted
  | .request time command => (command.run time h).2
  | .failNextCommit => h.failNextCommit

/-- The site after some steps. -/
def run (h : Hosted) (steps : List Step) : Hosted :=
  steps.foldl step h

end Hosted

end Sitemap
