import Sitemap.Proofs.Rows.Success
import Sitemap.Proofs.Site.Pages

/-!
# Judgements that are complete

Every request is judged on the site map before a transaction is opened. The judgement leaves
nothing for the rows to object to: no statement is refused, and the reference check at the commit
passes. So a request is refused by its judgement, or because the tables could not be stored.

## Main definitions

- `Error.IsStructural` — a refusal that is about the site map, not about the store
- `Command.verdict` — the judgement of a request

## Main results

- `Command.isJudgement_verdict` — judgements refuse for structural reasons
- `Hosted.IsMirrored.hasChildren_eq_false_iff`, `Hosted.IsMirrored.exists_planReparent` — what was
  judged on a mirror holds of the rows
- `Command.failsWith_of_run`, `Command.exists_run_of_verdict` — a request that is judged well fails
  for want of storage only
- `verdict_is_complete` — the same along the runs of a site

## Design notes

The judgement of a site map is worth as much as one of the rows because the site map mirrors
them. One that is behind the rows may let requests pass that the rows refuse.
-/

namespace Sitemap

/-- A refusal that is about the site map, not about the store. -/
def Error.IsStructural : Error → Prop
  | .store _ => False
  | _ => True

/-- A check that refuses for structural reasons only. -/
def IsJudgement {α : Type} (x : Except Error α) : Prop :=
  ∀ e, x = .error e → e.IsStructural

/-- The judgement of a request on a site map: what is checked before a transaction is opened. -/
def Command.verdict (site : Site) : Command → Except Error Unit
  | .addPage parent code group draft =>
    (site.acceptNewPage parent code group draft).map fun _ => ()
  | .updatePage code draft => (site.acceptDraft code draft).map fun _ => ()
  | .updatePageGroup code _ | .movePageStep code _ | .setPageOnline code | .setPageOffline code =>
    (site.draftPage code).map fun _ => ()
  | .deletePage code => (site.acceptDeletion code).map fun _ => ()
  | .movePage code newParent => (site.acceptMove code newParent).map fun _ => ()
  | .joinWidget code frame w => (site.acceptJoin code frame w).map fun _ => ()
  | .moveWidget code source target => (site.acceptExchange code source target).map fun _ => ()
  | .removeWidget code frame => (site.acceptRemoval code frame).map fun _ => ()
  | .refresh => .ok ()

-- ════════════════════════════════════════════════════════════════════════
-- Structural refusals
-- ════════════════════════════════════════════════════════════════════════

namespace IsJudgement

variable {α β : Type} {x : Except Error α}

theorem ok (a : α) : IsJudgement (.ok a) :=
  fun _ heq => nomatch heq

theorem error {e : Error} (h : e.IsStructural) : IsJudgement (.error e : Except Error α) := by
  intro e' heq
  cases heq
  exact h

theorem bind {f : α → Except Error β} (hx : IsJudgement x) (hf : ∀ a, IsJudgement (f a)) :
    IsJudgement (x >>= f) := by
  cases x with
  | error e => exact error (hx e rfl)
  | ok a => exact hf a

theorem map {f : α → β} (hx : IsJudgement x) : IsJudgement (x.map f) := by
  cases x with
  | error e => exact error (hx e rfl)
  | ok a => exact ok (f a)

/-- A refusal before a check. -/
theorem guard {γ : Type} {p : Prop} [Decidable p] {e : Error} {f : γ → Except Error α}
    (he : e.IsStructural) (hx : IsJudgement x) :
    IsJudgement (if p then throw e >>= f else x) := by
  split
  · exact error he
  · exact hx

end IsJudgement

theorem Siblings.isJudgement_planReparent (s : Siblings) (code newParent : String) :
    IsJudgement (s.planReparent code newParent) := by
  unfold planReparent
  split
  · exact .error trivial
  · split
    · exact .error trivial
    · split
      · exact .error trivial
      · split
        · exact .error trivial
        · split
          · exact .ok _
          · exact .ok _

theorem Slots.isJudgement_checkFrame (s : Slots) (frame : Int) :
    IsJudgement (s.checkFrame frame) := by
  unfold checkFrame
  split
  · exact .ok _
  · exact .error trivial

namespace Site

variable (site : Site)

theorem isJudgement_draftPage (code : String) : IsJudgement (site.draftPage code) := by
  unfold draftPage
  split
  · exact .ok _
  · exact .error trivial

theorem isJudgement_acceptWidget (frame : Int) (w : Widget) :
    IsJudgement (site.acceptWidget frame w) := by
  refine .bind ?_ fun info => .guard trivial (.ok _)
  unfold widgetType
  split
  · exact .ok _
  · exact .error trivial

theorem isJudgement_acceptSlots (frame : Nat) (slots : List (Option Widget)) :
    IsJudgement (site.acceptSlots frame slots) := by
  induction slots generalizing frame with
  | nil => exact .ok _
  | cons slot slots ih =>
    cases slot with
    | none => exact .bind (ih _) fun _ => .ok _
    | some w =>
      exact .bind (site.isJudgement_acceptWidget _ w) fun _ => .bind (ih _) fun _ => .ok _

theorem isJudgement_acceptVersion (v : PageVersion) : IsJudgement (site.acceptVersion v) := by
  unfold acceptVersion
  split
  · exact .error trivial
  · split
    · exact .error trivial
    · exact .bind (site.isJudgement_acceptSlots _ _) fun _ => .ok _

theorem isJudgement_checkLockedKept (current next : PageVersion) :
    IsJudgement (site.checkLockedKept current next) := by
  unfold checkLockedKept
  dsimp only
  split
  · exact .error trivial
  · exact .ok _

theorem isJudgement_checkFrameFree (v : PageVersion) (frame : Int) :
    IsJudgement (site.checkFrameFree v frame) := by
  refine .bind (.bind (v.slots.isJudgement_checkFrame frame) fun _ => .ok _) fun occupant => ?_
  split
  · split
    · exact .error trivial
    · exact .ok _
  · exact .ok _

end Site

/-- Judgements refuse for structural reasons. -/
theorem Command.isJudgement_verdict (site : Site) (command : Command) :
    IsJudgement (command.verdict site) := by
  cases command with
  | addPage parent code group draft =>
    exact .map (.guard trivial (.guard trivial
      (.bind (site.isJudgement_acceptVersion draft) fun _ => .ok _)))
  | updatePage code draft =>
    exact .map (.bind (site.isJudgement_draftPage code) fun _ =>
      .bind (site.isJudgement_acceptVersion draft) fun _ =>
        .bind (site.isJudgement_checkLockedKept _ _) fun _ => .ok _)
  | updatePageGroup code | movePageStep code | setPageOnline code | setPageOffline code =>
    exact .map (site.isJudgement_draftPage code)
  | deletePage code =>
    exact .map (.bind (site.isJudgement_draftPage code) fun _ =>
      .guard trivial (.guard trivial (.guard trivial (.ok _))))
  | movePage code newParent =>
    exact .map (.bind (site.isJudgement_draftPage code) fun _ =>
      .bind (site.tree.siblings.isJudgement_planReparent code newParent) fun _ => .ok _)
  | joinWidget code frame w =>
    exact .map (.bind (site.isJudgement_draftPage code) fun _ =>
      .bind (site.isJudgement_checkFrameFree _ frame) fun _ =>
        site.isJudgement_acceptWidget frame w)
  | moveWidget code source target =>
    exact .map (.bind (site.isJudgement_draftPage code) fun _ =>
      .bind (site.isJudgement_checkFrameFree _ source) fun _ =>
        .bind (site.isJudgement_checkFrameFree _ target) fun _ => .ok _)
  | removeWidget code frame =>
    exact .map (.bind (site.isJudgement_draftPage code) fun _ =>
      site.isJudgement_checkFrameFree _ frame)
  | refresh => exact .ok _

-- ════════════════════════════════════════════════════════════════════════
-- Requests that are judged ill
-- ════════════════════════════════════════════════════════════════════════

/-- A request that goes on with what was judged answers with the refusal, and does nothing. -/
theorem Command.answer_judge_of_error {α β γ : Type} {f : β → Answer} {g : α → γ} {h : Hosted}
    {judged : Except Error α} {act : α → Except Error β × Hosted} {e : Error}
    (hjudged : judged.map g = .error e) : answer f (h.judge judged act) = (.error e, h) := by
  cases judged with
  | error cause =>
    cases hjudged
    rfl
  | ok a => cases hjudged

/-- A request that is judged ill is refused as it was judged, and changes nothing. -/
theorem Command.run_of_verdict {h : Hosted} {command : Command} {e : Error}
    (hverdict : command.verdict h.site = .error e) (time : Timestamp) :
    command.run time h = (.error e, h) := by
  cases command with
  | refresh => cases hverdict
  | _ => exact answer_judge_of_error hverdict

-- ════════════════════════════════════════════════════════════════════════
-- Judgements of a mirror
-- ════════════════════════════════════════════════════════════════════════

/-- A page that may be deleted has no listed children. -/
theorem Site.children_eq_nil_of_acceptDeletion {site : Site} {code : String} {page : Page}
    (h : site.acceptDeletion code = .ok page) : site.tree.children code = [] := by
  simp only [acceptDeletion, guard_eq_ok, bind_eq_ok] at h
  obtain ⟨-, -, -, hleaf, -⟩ := h
  simpa using hleaf

namespace Hosted

variable {h h' : Hosted} {code : String} {page : Page} {e : Error}

/-- A page of a mirror is stored where it is shown. -/
theorem IsMirrored.places_of_get? (hmirrored : h.IsMirrored)
    (hpage : h.site.tree.get? code = some page) :
    h.env.committed.places code = some page.toPlacement := by
  rw [← hmirrored.mirrors.follows.places]
  exact Tree.places_of_get? hpage

/-- A code that is free in a mirror is free in the rows. -/
theorem IsMirrored.places_eq_none (hmirrored : h.IsMirrored)
    (hfree : h.site.tree.get? code = none) : h.env.committed.places code = none := by
  rw [← hmirrored.mirrors.follows.places, Tree.places, hfree]
  rfl

/-- A page has no stored children when none are listed, and the other way round. -/
theorem IsMirrored.hasChildren_eq_false_iff (hmirrored : h.IsMirrored) :
    h.env.committed.hasChildren code = false ↔ h.site.tree.children code = [] := by
  have hlists := hmirrored.mirrors.follows.children code
  rw [Tables.hasChildren_eq_false_iff, List.eq_nil_iff_forall_not_mem]
  -- a child has a seat, and a list of children holds whoever has one
  refine forall_congr' fun c => not_congr ?_
  rw [hlists.mem_iff, Places.exists_seat_iff]

/-- A move that is planned on a mirror is planned on the rows, too. -/
theorem IsMirrored.exists_planReparent (hmirrored : h.IsMirrored) {newParent : String}
    {planned : Option ReparentPlan}
    (hplan : h.site.tree.siblings.planReparent code newParent = .ok planned) :
    ∃ planned', h.env.committed.siblings.planReparent code newParent = .ok planned' := by
  have hlookup : h.env.committed.siblings.lookup = h.site.tree.siblings.lookup :=
    hmirrored.mirrors.follows.places.symm
  exact Siblings.exists_planReparent_congr hlookup (Tree.isCounted_siblings _)
    (Tables.isCounted_siblings _) hplan

/-- Statements that succeed are refused for want of storage only. -/
theorem failsWith_of_transact {α β : Type} {statements : Tables → Except Error (α × Tables)}
    {publish : α → Site → Except Error β × Site}
    (hsucceeds : RowEdit.Succeeds statements h.env.committed) (hrefuses : h.Refuses e h')
    (hrun : h.transact statements publish = (.error e, h')) :
    ∃ cause, e = .store cause ∧ h.env.FailsWith cause := by
  obtain ⟨a, t, hedit, hlinked⟩ := hsucceeds
  unfold transact at hrun
  split at hrun
  · next hwrite =>
    cases hrun
    exact Environment.failsWith_of_write hedit (Tables.checkReferences_eq_ok.2 hlinked) hwrite
  · next hwrite =>
    -- a commit has the next number, and a refused request commits nothing
    obtain ⟨_, -, hcommits⟩ := Environment.commits_of_write hwrite
    obtain ⟨-, rfl⟩ := Prod.mk.inj hrun
    have hnext := hcommits.lastTransaction
    have hsame := hrefuses.env.lastTransaction
    dsimp only at hsame
    omega

/-- A request that was accepted fails in what follows. -/
theorem error_of_judge {α β : Type} {f : β → Answer} {judged : Except Error α}
    {act : α → Except Error β × Hosted} {a : α} (hjudged : judged = .ok a)
    (hrun : Command.answer f (h.judge judged act) = (.error e, h')) : act a = (.error e, h') := by
  rw [hjudged] at hrun
  exact Command.error_of_answer hrun

end Hosted

/-- A request that is judged well on a mirror fails for want of storage only: no statement of it
    is refused, and the reference check at the commit passes. -/
theorem Command.failsWith_of_run {h h' : Hosted} {time : Timestamp} {command : Command} {e : Error}
    (hmirrored : h.IsMirrored) (hverdict : command.verdict h.site = .ok ())
    (hrun : command.run time h = (.error e, h')) :
    ∃ cause, e = .store cause ∧ h.env.FailsWith cause := by
  have hrefuses := refuses_of_run hrun
  have hstored : ∀ {code page}, h.site.draftPage code = .ok page →
      (h.env.committed.places code).isSome := fun hpage =>
    Option.isSome_of_eq_some (hmirrored.places_of_get? (Site.draftPage_eq_ok.1 hpage))
  have hlinked := hmirrored.linked
  have hordered := hmirrored.ordered
  cases command with
  | addPage parent code group draft =>
    obtain ⟨page, hjudged, -⟩ := map_eq_ok.1 hverdict
    obtain ⟨hparent, hfree, hcode, hbelow, honline, -⟩ := Site.acceptNewPage_spec hjudged
    obtain ⟨above, habove⟩ := Option.isSome_iff_exists.1 hparent
    have hact := Hosted.error_of_judge hjudged hrun
    refine Hosted.failsWith_of_transact
      (RowEdit.succeeds_addPage hlinked hordered ?_ hbelow ?_ honline) hrefuses hact
    · rw [hcode]
      exact hmirrored.places_eq_none hfree
    · exact Option.isSome_of_eq_some (hmirrored.places_of_get? habove)
  | updatePage code draft =>
    obtain ⟨page, hjudged, -⟩ := map_eq_ok.1 hverdict
    obtain ⟨current, hcurrent, hpage, -⟩ := Site.acceptDraft_spec hjudged
    have hact := Hosted.error_of_judge hjudged hrun
    refine Hosted.failsWith_of_transact (RowEdit.succeeds_updatePage hlinked hordered ?_)
      hrefuses hact
    have hcode := hmirrored.mirrors.follows.code_eq hordered hcurrent
    have hplace : page.toPlacement = current.toPlacement := by rw [hpage]
    rw [hplace, hcode]
    exact hmirrored.places_of_get? hcurrent
  | updatePageGroup code group =>
    obtain ⟨page, hjudged, -⟩ := map_eq_ok.1 hverdict
    have hact := Hosted.error_of_judge hjudged hrun
    exact Hosted.failsWith_of_transact
      (RowEdit.succeeds_updatePageGroup hlinked hordered (hstored hjudged) group) hrefuses hact
  | deletePage code =>
    obtain ⟨page, hjudged, -⟩ := map_eq_ok.1 hverdict
    obtain ⟨hpage, parent, hparent⟩ := Site.acceptDeletion_spec hjudged
    have hleaf := hmirrored.hasChildren_eq_false_iff.2
      (Site.children_eq_nil_of_acceptDeletion hjudged)
    have hact := Hosted.error_of_judge hjudged hrun
    exact Hosted.failsWith_of_transact (RowEdit.succeeds_deletePage hlinked hordered
      (hmirrored.places_of_get? hpage) hparent hleaf) hrefuses hact
  | movePage code newParent =>
    obtain ⟨⟨page, planned⟩, hjudged, -⟩ := map_eq_ok.1 hverdict
    have hact := Hosted.error_of_judge hjudged hrun
    cases planned with
    | none => cases hact
    | some plan =>
      simp only [Site.acceptMove, bind_eq_ok, pure_eq_ok] at hjudged
      obtain ⟨_, -, _, hplan, -⟩ := hjudged
      obtain ⟨planned, hplanned⟩ := hmirrored.exists_planReparent hplan
      exact Hosted.failsWith_of_transact (RowEdit.succeeds_movePage hlinked hordered hplanned)
        hrefuses hact
  | movePageStep code up =>
    obtain ⟨page, hjudged, -⟩ := map_eq_ok.1 hverdict
    have hact := Hosted.error_of_judge hjudged hrun
    exact Hosted.failsWith_of_transact
      (RowEdit.succeeds_swapPositions hlinked hordered (hstored hjudged) up) hrefuses hact
  | setPageOnline code =>
    obtain ⟨page, hjudged, -⟩ := map_eq_ok.1 hverdict
    have hact := Hosted.error_of_judge hjudged hrun
    exact Hosted.failsWith_of_transact
      (RowEdit.succeeds_setPageOnline hlinked hordered (hstored hjudged)) hrefuses hact
  | setPageOffline code =>
    obtain ⟨page, hjudged, -⟩ := map_eq_ok.1 hverdict
    have hact := Hosted.error_of_judge hjudged hrun
    split at hact
    · exact Hosted.failsWith_of_transact
        (RowEdit.succeeds_setPageOffline hlinked hordered (hstored hjudged)) hrefuses hact
    · cases hact
  | joinWidget code frame w =>
    obtain ⟨accepted, hjudged, -⟩ := map_eq_ok.1 hverdict
    obtain ⟨page, hpage, -⟩ := Site.exists_page_of_acceptJoin hjudged
    have hact := Hosted.error_of_judge hjudged hrun
    exact Hosted.failsWith_of_transact (RowEdit.succeeds_joinWidget hlinked hordered
      (hstored (Site.draftPage_eq_ok.2 hpage)) frame accepted) hrefuses hact
  | moveWidget code source target =>
    obtain ⟨_, hjudged, -⟩ := map_eq_ok.1 hverdict
    obtain ⟨page, hpage, hsource, htarget⟩ := Site.exists_page_of_acceptExchange hjudged
    have hact := Hosted.error_of_judge hjudged hrun
    -- the parking frame is no frame of a page, so it is neither of the two
    have hhidden := hmirrored.hidden
    have hfirst := (Slots.containsFrame_iff.1 hsource).1
    have hsecond := (Slots.containsFrame_iff.1 htarget).1
    split at hact
    · cases hact
    · exact Hosted.failsWith_of_transact (RowEdit.succeeds_moveWidget hlinked hordered
        (hstored (Site.draftPage_eq_ok.2 hpage)) (by omega) (by omega) hmirrored.unparked)
        hrefuses hact
  | removeWidget code frame =>
    obtain ⟨occupant, hjudged, -⟩ := map_eq_ok.1 hverdict
    obtain ⟨page, hpage, -⟩ := Site.exists_page_of_acceptRemoval hjudged
    have hact := Hosted.error_of_judge hjudged hrun
    cases occupant with
    | none => cases hact
    | some w =>
      exact Hosted.failsWith_of_transact (RowEdit.succeeds_removeWidget hlinked hordered
        (hstored (Site.draftPage_eq_ok.2 hpage)) frame) hrefuses hact
  | refresh =>
    obtain ⟨after, hanew, -⟩ := hmirrored.refresh time
    rw [hanew] at hrun
    cases hrun

/-- A request that is judged well on a mirror is answered where tables can be stored. -/
theorem Command.exists_run_of_verdict {h : Hosted} {command : Command} (hmirrored : h.IsMirrored)
    (hstore : h.env.CanStore) (hverdict : command.verdict h.site = .ok ()) (time : Timestamp) :
    ∃ a after, command.run time h = (.ok a, after) := by
  generalize hrun : command.run time h = result
  obtain ⟨outcome, after⟩ := result
  cases outcome with
  | ok a => exact ⟨a, after, rfl⟩
  | error e =>
    obtain ⟨cause, -, hcause⟩ := failsWith_of_run hmirrored hverdict hrun
    exact absurd hcause hstore.not_failsWith

-- ════════════════════════════════════════════════════════════════════════
-- Runs
-- ════════════════════════════════════════════════════════════════════════

/-- Where a site opened on an empty store and is its only writer, every request that fails although
    tables can be stored was refused for a structural reason, by its judgement and without any
    effect. When tables cannot be stored, the store fails for that and for nothing else: neither
    does a statement break a rule or miss a row, nor does a reference lead nowhere. -/
theorem verdict_is_complete {config : SiteConfig} {r : Registry} {time : Timestamp}
    {env env' : Environment} {site : Site} {steps : List Hosted.Step} {h : Hosted}
    (hvacant : env.IsVacant) (hopen : Site.openOn config r time env = (.ok site, env'))
    (hrun : Hosted.run ⟨env', site⟩ steps = h) (now : Timestamp) (command : Command) :
    (h.env.CanStore → ∀ e after, command.run now h = (.error e, after) →
        e.IsStructural ∧ command.verdict h.site = .error e ∧ after = h) ∧
      ∀ cause after, command.run now h = (.error (.store cause), after) →
        h.env.FailsWith cause := by
  subst hrun
  obtain ⟨hmirrored, -⟩ := Site.isMirrored_run_of_openOn hvacant hopen steps
  generalize Hosted.run ⟨env', site⟩ steps = h at hmirrored
  cases hverdict : command.verdict h.site with
  | error cause =>
    have hstructural := Command.isJudgement_verdict h.site command cause hverdict
    have hrefused := Command.run_of_verdict hverdict now
    constructor
    · intro _ e after hfails
      obtain ⟨heq, rfl⟩ := Prod.mk.inj (hrefused.symm.trans hfails)
      cases heq
      exact ⟨hstructural, rfl, rfl⟩
    · intro cause' after hfails
      obtain ⟨heq, -⟩ := Prod.mk.inj (hrefused.symm.trans hfails)
      cases heq
      exact hstructural.elim
  | ok =>
    constructor
    · intro hstore e after hfails
      obtain ⟨cause, -, hcause⟩ := Command.failsWith_of_run hmirrored hverdict hfails
      exact absurd hcause hstore.not_failsWith
    · intro cause after hfails
      obtain ⟨cause', heq, hcause⟩ := Command.failsWith_of_run hmirrored hverdict hfails
      cases heq
      exact hcause

/-- A publication is refused by the store, as it was ordered to. After that a page with a child is
    not deleted, and it is the judgement that says so. -/
theorem verdict_is_complete_sample :
    let steps : List Hosted.Step :=
      [.request .epoch (.addPage "homepage" "a" "free" (.empty "home" 2)),
        .request .epoch (.addPage "a" "b" "free" (.empty "home" 2)), .failNextCommit]
    let armed := Hosted.planted.run steps
    let h := Hosted.planted.run (steps ++ [.request .epoch (.setPageOnline "a")])
    armed.env.FailsWith .requestedFailure ∧ h.env.CanStore ∧
      (Command.deletePage "a").run .epoch h = (.error (.hasChildren "a"), h) ∧
      (Command.deletePage "a").verdict h.site = .error (.hasChildren "a") := by
  intro steps armed h
  have hfails : ((Command.setPageOnline "a").run .epoch armed).1 =
      .error (.store .requestedFailure) := by decide +kernel
  have hrefused : ((Command.deletePage "a").run .epoch h).1 = .error (.hasChildren "a") := by
    decide +kernel
  have hstore : h.env.CanStore := .of_memory (by decide +kernel) (by decide +kernel)
  obtain ⟨-, hpublish⟩ := verdict_is_complete Environment.isVacant_sample Site.openOn_sample
    (rfl : Hosted.planted.run steps = armed) .epoch (.setPageOnline "a")
  obtain ⟨hdelete, -⟩ := verdict_is_complete Environment.isVacant_sample Site.openOn_sample
    (rfl : Hosted.planted.run (steps ++ [.request .epoch (.setPageOnline "a")]) = h) .epoch
    (.deletePage "a")
  obtain ⟨-, hjudged, hsame⟩ := hdelete hstore _ _ (Prod.ext hrefused rfl)
  exact ⟨hpublish _ _ (Prod.ext hfails rfl), hstore, Prod.ext hrefused hsame, hjudged⟩

end Sitemap
