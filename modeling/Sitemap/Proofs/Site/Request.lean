import Sitemap.Proofs.Environment.Outcome
import Sitemap.Proofs.Site.Acceptance
import Sitemap.Site.Run
import Mathlib.Data.List.Nodup

/-!
# Requests

What can come of a request: the site refuses it, the store refuses it, or a transaction is
committed and made visible.

## Main results

- `Hosted.judge_cases`, `Hosted.transact_cases` — all outcomes of the two stages
- `Hosted.judge_eq_ok`, `Hosted.transact_eq_ok` — the outcomes of a request that succeeds
- `Site.showSlots_eq` — a change of frames that is shown

The module ends with a small site that later statements are tried on.
-/

namespace Sitemap

namespace Hosted

variable {α β : Type} {h h' : Hosted}

/-- A request is refused and changes nothing, or it goes on with what was accepted. -/
theorem judge_cases {judged : Except Error α} {act : α → Except Error β × Hosted}
    {outcome : Except Error β} (hrun : h.judge judged act = (outcome, h')) :
    (∃ e, judged = .error e ∧ outcome = .error e ∧ h' = h) ∨
      ∃ a, judged = .ok a ∧ act a = (outcome, h') := by
  cases judged with
  | error e =>
    cases hrun
    exact .inl ⟨e, rfl, rfl, rfl⟩
  | ok a => exact .inr ⟨a, rfl, hrun⟩

/-- A transaction is refused and publishes nothing, or it is committed and then made
    visible on the site. -/
theorem transact_cases {statements : Tables → Except Error (α × Tables)}
    {publish : α → Site → Except Error β × Site} {outcome : Except Error β}
    (hrun : h.transact statements publish = (outcome, h')) :
    (∃ e, outcome = .error e ∧ h'.site = h.site ∧ h.env.Refuses e h'.env) ∨
      ∃ a t, statements h.env.committed = .ok (a, t) ∧ h.env.Commits t h'.env ∧
        publish a h.site = (outcome, h'.site) := by
  unfold transact at hrun
  split at hrun
  · next hwrite =>
    cases hrun
    exact .inl ⟨_, rfl, rfl, Environment.refuses_of_write hwrite⟩
  · next hwrite =>
    cases hrun
    obtain ⟨t, hstatements, hcommits⟩ := Environment.commits_of_write hwrite
    exact .inr ⟨_, t, hstatements, hcommits, rfl⟩

/-- A request that succeeds was accepted. -/
theorem judge_eq_ok {judged : Except Error α} {act : α → Except Error β × Hosted} {b : β}
    (hrun : h.judge judged act = (.ok b, h')) :
    ∃ a, judged = .ok a ∧ act a = (.ok b, h') := by
  rcases judge_cases hrun with ⟨e, -, herror, -⟩ | haccepted
  · cases herror
  · exact haccepted

/-- A transaction that succeeds was committed. -/
theorem transact_eq_ok {statements : Tables → Except Error (α × Tables)}
    {publish : α → Site → Except Error β × Site} {b : β}
    (hrun : h.transact statements publish = (.ok b, h')) :
    ∃ a t, statements h.env.committed = .ok (a, t) ∧ h.env.Commits t h'.env ∧
      publish a h.site = (.ok b, h'.site) := by
  rcases transact_cases hrun with ⟨e, herror, -, -⟩ | hcommitted
  · cases herror
  · exact hcommitted

end Hosted

/-- A change of frames that exist is shown, and told of. -/
theorem Site.showSlots_eq {site : Site} {code : String} {page : Page} {time : Timestamp}
    {frames : List Int} {slots : Slots} {change : Slots → Except Error Slots}
    (hpage : site.tree.get? code = some page)
    (hchange : change page.draft.slots = .ok slots) :
    site.showSlots code time frames change =
      (.ok (), (site.withTree (site.tree.edit code fun p => p.withSlots time slots)).report
        (.widgetsChanged code frames)) := by
  simp only [showSlots, editSlots, hpage, hchange]
  rfl

-- ════════════════════════════════════════════════════════════════════════
-- A small site
-- ════════════════════════════════════════════════════════════════════════

/-- A page model with two frames, a widget type, and one that is locked. -/
def Registry.sample : Registry :=
  ((Registry.empty.withModel "home" 2).withType "menu" ⟨false, none, false⟩).withType
    "logo" ⟨false, none, true⟩

/-- An environment in memory without pages. -/
def Environment.sample : Environment :=
  ⟨.empty, 0, Environment.defaultParkingFrame, false, .memory⟩

/-- A site without pages, on an environment without pages. -/
def Hosted.vacant : Hosted := ⟨.sample, ⟨.standard, .sample, .empty, []⟩⟩

/-- A site that has been given its root page. -/
def Hosted.planted : Hosted :=
  match Site.openOn .standard .sample .epoch .sample with
  | (.error _, _) => .vacant
  | (.ok site, env) => ⟨env, site⟩

/-- The small site opens. -/
theorem Site.openOn_sample : Site.openOn .standard .sample .epoch .sample =
    (.ok Hosted.planted.site, Hosted.planted.env) := by
  have hopens : (Site.openOn .standard .sample .epoch .sample).1.isOk = true := by
    decide +kernel
  unfold Hosted.planted
  generalize Site.openOn .standard .sample .epoch .sample = opened at hopens ⊢
  obtain ⟨_ | site, env⟩ := opened
  · cases hopens
  · rfl

/-- A site that has been given its root page, and the pages `a` and `b` below it. -/
def Hosted.sample : Hosted :=
  Hosted.planted.run
    [.request .epoch (.addPage "homepage" "a" "free" (.empty "home" 2)),
      .request .epoch (.addPage "homepage" "b" "free" (.empty "home" 2))]

end Sitemap
