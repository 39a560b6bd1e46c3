import Sitemap.Site.Command

/-!
# Shared environments

Several sites on one environment, next to writers that edit the rows directly. Each step
is completed before the next one begins, and the steps come in any order. A site learns
nothing of what the others write until it is refreshed.

## Main definitions

- `Shared` — an environment and the sites on it
- `Shared.Step` — a request to one of the sites, a direct edit, or another site that opens
- `Shared.step`, `Shared.run` — the environment and the sites after one step, after some
-/

namespace Sitemap

/-- Sites that share an environment. -/
structure Shared where
  /-- The environment. -/
  env : Environment
  /-- The sites in the order in which they were opened. -/
  sites : List Site

namespace Shared

/-- What can happen to sites that share an environment. -/
inductive Step where
  /-- A request comes in to the site of a number. -/
  | request (number : Nat) (time : Timestamp) (command : Command)
  /-- The rows are edited directly. -/
  | edit (registry : Registry) (time : Timestamp) (edit : Edit)
  /-- Another site opens on the environment. -/
  | join (config : SiteConfig) (registry : Registry) (time : Timestamp)
  /-- The next commit is made to fail. -/
  | failNextCommit

/-- The environment and the sites after a step. -/
def step (s : Shared) : Step → Shared
  | .request number time command =>
    match s.sites[number]? with
    | none => s
    | some site =>
      let h := (command.run time ⟨s.env, site⟩).2
      ⟨h.env, s.sites.set number h.site⟩
  | .edit registry time edit => { s with env := (s.env.edit registry time edit).2 }
  | .join config registry time =>
    match Site.openOn config registry time s.env with
    | (.ok site, env) => ⟨env, s.sites ++ [site]⟩
    | (.error _, env) => { s with env }
  | .failNextCommit => { s with env := s.env.failNextCommit }

/-- The environment and the sites after some steps. -/
def run (s : Shared) (steps : List Step) : Shared :=
  steps.foldl step s

end Shared

end Sitemap
