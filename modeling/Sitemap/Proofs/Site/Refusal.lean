import Sitemap.Proofs.Site.Request
import Sitemap.Proofs.Tree.Following

/-!
# Refused requests

A request that fails changes nothing that anyone can read: not the committed tables, not
the snapshot file, not the site map in memory and not the events reported. It holds at any
state of the rows and for any site map in memory, however far behind the rows it is.

## Main definitions

- `Hosted.Refuses` — a hosted site is another one after a refused request

## Main results

- `Hosted.refuses_of_transact` — nothing fails after the commit, so nothing was committed
- `error_changes_nothing` — requests and direct edits that fail leave all as it was

## Design notes

Making a commit visible can fail by itself. Each request is accepted on the site map that
is changed after the commit, and what was checked on it is what the change needs.
-/

namespace Sitemap

/-- `after` is `before` once a request was refused for the reason `e`: the site is the same,
    and the environment that of a refused write. -/
structure Hosted.Refuses (before : Hosted) (e : Error) (after : Hosted) : Prop where
  /-- The site map in memory and the events reported stay. -/
  site : after.site = before.site
  /-- The store stays. -/
  env : before.env.Refuses e after.env

/-- A page that is there is found for editors. -/
theorem Site.exists_draftPage {site : Site} {code : String}
    (h : (site.tree.get? code).isSome) : ∃ page, site.draftPage code = .ok page := by
  obtain ⟨page, hpage⟩ := Option.isSome_iff_exists.1 h
  exact ⟨page, Site.draftPage_eq_ok.2 hpage⟩

-- ════════════════════════════════════════════════════════════════════════
-- Stages of a request
-- ════════════════════════════════════════════════════════════════════════

namespace Hosted

variable {α β : Type} {h h' : Hosted} {e : Error}

/-- A refused request is refused when it is judged, or by what follows. -/
theorem refuses_of_judge {judged : Except Error α} {act : α → Except Error β × Hosted}
    (hact : ∀ a, judged = .ok a → ∀ h', act a = (.error e, h') → h.Refuses e h')
    (hrun : h.judge judged act = (.error e, h')) : h.Refuses e h' := by
  rcases judge_cases hrun with ⟨cause, -, heq, rfl⟩ | ⟨a, hjudged, hrun⟩
  · exact ⟨rfl, Environment.refuses_self _ _⟩
  · exact hact a hjudged h' hrun

/-- When nothing fails after the commit, a transaction that fails was not committed. -/
theorem refuses_of_transact {statements : Tables → Except Error (α × Tables)}
    {publish : α → Site → Except Error β × Site}
    (hpublish : ∀ a, ∃ b, (publish a h.site).1 = .ok b)
    (hrun : h.transact statements publish = (.error e, h')) : h.Refuses e h' := by
  rcases transact_cases hrun with ⟨cause, heq, hsite, henv⟩ | ⟨a, t, -, -, hpublished⟩
  · cases heq
    exact ⟨hsite, henv⟩
  · obtain ⟨b, hb⟩ := hpublish a
    rw [hpublished] at hb
    cases hb

/-- Changing the draft frames of a page after the commit does not fail, when the change
    does not fail on the slots that the page has. -/
theorem refuses_of_showSlots {statements : Tables → Except Error (Timestamp × Tables)}
    {code : String} {frames : List Int} {change : Slots → Except Error Slots} {page : Page}
    {slots : Slots} (hpage : h.site.tree.get? code = some page)
    (hchange : change page.draft.slots = .ok slots)
    (hrun : h.transact statements (fun time site => site.showSlots code time frames change) =
      (.error e, h')) : h.Refuses e h' := by
  refine refuses_of_transact (fun time => ?_) hrun
  rw [Site.showSlots_eq hpage hchange]
  exact ⟨(), rfl⟩

end Hosted

theorem Command.error_of_answer {α : Type} {f : α → Answer} {h' : Hosted} {e : Error}
    {outcome : Except Error α × Hosted} (h : answer f outcome = (.error e, h')) :
    outcome = (.error e, h') := by
  obtain ⟨result, h''⟩ := outcome
  cases result with
  | error cause =>
    cases h
    rfl
  | ok a => cases h

/-- A request that fails was not committed, whatever it asks for. -/
theorem Command.refuses_of_run {time : Timestamp} {command : Command} {h h' : Hosted}
    {e : Error} (hrun : command.run time h = (.error e, h')) : h.Refuses e h' := by
  cases command with
  | addPage parent code group draft =>
    refine Hosted.refuses_of_judge (fun page _ h' hrun => ?_) (error_of_answer hrun)
    exact Hosted.refuses_of_transact (fun stored => ⟨stored, rfl⟩) hrun
  | updatePage code draft =>
    refine Hosted.refuses_of_judge (fun page _ h' hrun => ?_) (error_of_answer hrun)
    exact Hosted.refuses_of_transact (fun draft => ⟨{ page with draft }, rfl⟩) hrun
  | updatePageGroup code group =>
    refine Hosted.refuses_of_judge (fun page _ h' hrun => ?_) (error_of_answer hrun)
    exact Hosted.refuses_of_transact (fun _ => ⟨{ page with group }, rfl⟩) hrun
  | deletePage code =>
    refine Hosted.refuses_of_judge (fun page _ h' hrun => ?_) (error_of_answer hrun)
    exact Hosted.refuses_of_transact (fun _ => ⟨(), rfl⟩) hrun
  | movePage code newParent =>
    refine Hosted.refuses_of_judge (fun ⟨page, planned⟩ haccepted h' hrun => ?_)
      (error_of_answer hrun)
    cases planned with
    | none => cases hrun
    | some _ =>
      refine Hosted.refuses_of_transact (fun moved => ?_) hrun
      cases moved with
      | none => exact ⟨page, rfl⟩
      | some plan =>
        simp only [Site.acceptMove, bind_eq_ok, Site.draftPage_eq_ok] at haccepted
        obtain ⟨current, hcurrent, -⟩ := haccepted
        -- the moved page was there before the move, and no move loses a page
        refine Site.exists_draftPage ?_
        show ((h.site.tree.applyReparent plan).get? code).isSome
        rw [Tree.isSome_get?_applyReparent, hcurrent]
        rfl
  | movePageStep code up =>
    refine Hosted.refuses_of_judge (fun page _ h' hrun => ?_) (error_of_answer hrun)
    refine Hosted.refuses_of_transact (fun swapped => ?_) hrun
    cases swapped with
    | none => exact ⟨false, rfl⟩
    | some plan =>
      dsimp only
      split
      · exact ⟨true, rfl⟩
      · exact ⟨true, rfl⟩
  | setPageOnline code =>
    refine Hosted.refuses_of_judge (fun page hpage h' hrun => ?_) (error_of_answer hrun)
    refine Hosted.refuses_of_transact (fun at_ => Site.exists_draftPage ?_) hrun
    show ((h.site.tree.edit code _).get? code).isSome
    rw [Tree.isSome_get?_edit, Site.draftPage_eq_ok.1 hpage]
    rfl
  | setPageOffline code =>
    refine Hosted.refuses_of_judge (fun page _ h' hrun => ?_) (error_of_answer hrun)
    split at hrun
    · exact Hosted.refuses_of_transact (fun _ => ⟨page.unpublished, rfl⟩) hrun
    · cases hrun
  | joinWidget code frame w =>
    refine Hosted.refuses_of_judge (fun w haccepted h' hrun => ?_) (error_of_answer hrun)
    obtain ⟨page, hpage, hframe, -⟩ := Site.exists_page_of_acceptJoin haccepted
    exact Hosted.refuses_of_showSlots hpage (Slots.set_eq_ok hframe w) hrun
  | moveWidget code source target =>
    refine Hosted.refuses_of_judge (fun _ haccepted h' hrun => ?_) (error_of_answer hrun)
    split at hrun
    · cases hrun
    · obtain ⟨page, hpage, hsource, htarget⟩ := Site.exists_page_of_acceptExchange haccepted
      exact Hosted.refuses_of_showSlots hpage (Slots.move_eq_ok hsource htarget) hrun
  | removeWidget code frame =>
    refine Hosted.refuses_of_judge (fun occupant haccepted h' hrun => ?_) (error_of_answer hrun)
    obtain ⟨page, hpage, hframe, -⟩ := Site.exists_page_of_acceptRemoval haccepted
    cases occupant with
    | none => cases hrun
    | some _ => exact Hosted.refuses_of_showSlots hpage (Slots.clear_eq_ok hframe) hrun
  | refresh =>
    have hrun := error_of_answer hrun
    unfold Hosted.refresh at hrun
    split at hrun
    · cases hrun
      exact ⟨rfl, Environment.refuses_self _ _⟩
    · cases hrun

/-- A direct edit that fails was not committed. -/
theorem Environment.refuses_of_edit {env env' : Environment} {r : Registry} {time : Timestamp}
    {edit : Edit} {e : Error} (hrun : env.edit r time edit = (.error e, env')) :
    env.Refuses e env' :=
  refuses_of_write hrun

/-- A request that fails and a direct edit that fails leave the committed tables, the number
    of the last commit, the snapshot file, the site map in memory and the events reported as
    they were. Only an order that the next commit fails may be spent. -/
theorem error_changes_nothing :
    (∀ (h h' : Hosted) (time : Timestamp) (command : Command) (e : Error),
      command.run time h = (.error e, h') → h.Refuses e h') ∧
    ∀ (env env' : Environment) (r : Registry) (time : Timestamp) (edit : Edit) (e : Error),
      env.edit r time edit = (.error e, env') → env.Refuses e env' :=
  ⟨fun _ _ _ _ _ hrun => Command.refuses_of_run hrun,
    fun _ _ _ _ _ _ hrun => Environment.refuses_of_edit hrun⟩

/-- A publication fails because the commit was ordered to fail, and a page is not swapped
    because it is not there. -/
theorem error_changes_nothing_sample :
    ((Command.setPageOnline "a").run .epoch Hosted.sample.failNextCommit).1 =
        .error (.store .requestedFailure) ∧
      Hosted.sample.failNextCommit.Refuses (.store .requestedFailure)
        ((Command.setPageOnline "a").run .epoch Hosted.sample.failNextCommit).2 ∧
      (Hosted.sample.env.edit .sample .epoch (.swapPositions "c" true)).1 =
        .error (.notFound "c" .draft) ∧
      Hosted.sample.env.Refuses (.notFound "c" .draft)
        (Hosted.sample.env.edit .sample .epoch (.swapPositions "c" true)).2 := by
  have hrequest : ((Command.setPageOnline "a").run .epoch Hosted.sample.failNextCommit).1 =
      .error (.store .requestedFailure) := by decide +kernel
  have hedit : (Hosted.sample.env.edit .sample .epoch (.swapPositions "c" true)).1 =
      .error (.notFound "c" .draft) := by decide +kernel
  exact ⟨hrequest, error_changes_nothing.1 _ _ _ _ _ (Prod.ext hrequest rfl), hedit,
    error_changes_nothing.2 _ _ _ _ _ _ (Prod.ext hedit rfl)⟩

end Sitemap
