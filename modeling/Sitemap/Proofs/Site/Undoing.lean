import Sitemap.Proofs.Rows.Undoing
import Sitemap.Proofs.Site.Rearranging

/-!
# Requests taken back

A step to a neighbour is taken back by the step to the other side, and a new page by its deletion.
The second request succeeds whenever the first one did, at any later time, and all rows are those
from before. The site map is exactly that from before in the one case; in the other it may keep an
empty list for a page that had no children, which no reader can tell.

## Main results

- `Tree.Follows.applySwap_reversed` — neighbours that were exchanged twice leave the site map as it
  was
- `Hosted.IsMirrored.exists_reversed_step`, `Hosted.IsMirrored.exists_deletion` — one request at a
  site that mirrors the rows
- `structural_requests_undo` — the same at every state that a site comes to
-/

namespace Sitemap

-- ════════════════════════════════════════════════════════════════════════
-- Site maps
-- ════════════════════════════════════════════════════════════════════════

namespace Tree

variable {t t' : Tree} {s : Places} {plan : SwapPlan}

/-- Two site maps that show the same are equal when they keep lists for the same pages. -/
theorem ShowsSame.eq (h : t.ShowsSame t')
    (hlisted : ∀ code, (t.childLists.get? code).isSome = (t'.childLists.get? code).isSome) :
    t = t' := by
  have hlists : t.childLists = t'.childLists := by
    apply Keyed.ext_get?
    intro code
    have hsome := hlisted code
    have hchildren := h.children code
    unfold Tree.children at hchildren
    cases hlist : t.childLists.get? code with
    | none =>
      rw [hlist] at hsome
      exact (Option.not_isSome_iff_eq_none.1 (by rw [← hsome]; exact Bool.false_ne_true)).symm
    | some codes =>
      rw [hlist] at hsome hchildren
      obtain ⟨codes', hlist'⟩ := Option.isSome_iff_exists.1 hsome.symm
      rw [hlist'] at hchildren ⊢
      exact congrArg some hchildren
  obtain ⟨pages, childLists, rootCode⟩ := t
  obtain ⟨pages', childLists', rootCode'⟩ := t'
  obtain rfl : pages = pages' := h.pages
  obtain rfl : rootCode = rootCode' := h.rootCode
  obtain rfl : childLists = childLists' := hlists
  rfl

/-- An exchange of neighbours starts no list, and drops none. -/
theorem isSome_childLists_applySwap (t : Tree) (plan : SwapPlan) (code : String) :
    ((t.applySwap plan).childLists.get? code).isSome = (t.childLists.get? code).isSome := by
  unfold applySwap
  dsimp only
  split
  · unfold sortChildren
    dsimp only
    rw [Keyed.get?_modify]
    split
    · rw [Option.isSome_map]
      rfl
    · rfl
  · rfl

/-- Neighbours that were exchanged twice leave the site map as it was. -/
theorem Follows.applySwap_reversed (h : t.Follows s) (hordered : s.IsOrdered)
    (hfits : s.Fits (.swap plan)) : (t.applySwap plan).applySwap plan.reversed = t := by
  have hfollows := (h.applySwap hordered hfits).applySwap (hordered.apply hfits) hfits.reversed
  rw [hfits.swap_swap] at hfollows
  have hcontents : ((t.applySwap plan).applySwap plan.reversed).contents = t.contents := by
    rw [contents_applySwap _ _ hfits.reversed.ne_of_swap, contents_applySwap _ _ hfits.ne_of_swap]
  have hpages := pages_eq (hfollows.places.trans h.places.symm) hcontents
  obtain ⟨hroot, hchildren⟩ := h.unique hfollows
  refine ShowsSame.eq ⟨hpages, hroot, hchildren⟩ fun code => ?_
  rw [isSome_childLists_applySwap, isSome_childLists_applySwap]

end Tree

-- ════════════════════════════════════════════════════════════════════════
-- One request
-- ════════════════════════════════════════════════════════════════════════

namespace Hosted

variable {h h' : Hosted} {now : Timestamp}

/-- After a transaction that succeeded, tables can be stored. -/
theorem canStore_of_transact {α β : Type} {statements : Tables → Except Error (α × Tables)}
    {publish : α → Site → Except Error β × Site} {b : β}
    (hrun : h.transact statements publish = (.ok b, h')) : h'.env.CanStore := by
  unfold transact at hrun
  split at hrun
  · cases hrun
  · next hwrite =>
    obtain ⟨-, rfl⟩ := Prod.mk.inj hrun
    exact Environment.canStore_of_write hwrite

/-- A step does to the site map what it does to the rows, and answers with whether it did. -/
theorem swapped_of_step {code : String} {up moved : Bool}
    (hrun : h.movePageStep code up = (.ok moved, h')) : ∃ swapped,
      RowEdit.swapPositions code up h.env.committed = .ok (swapped, h'.env.committed) ∧
        moved = swapped.isSome ∧
        h'.site.tree = swapped.elim h.site.tree h.site.tree.applySwap ∧ h'.env.CanStore := by
  obtain ⟨swapped, t, hedit, hcommits, hshown⟩ := movePageStep_eq_ok hrun
  obtain ⟨_, -, hact⟩ := judge_eq_ok hrun
  rw [hcommits.committed]
  refine ⟨swapped, hedit, ?_, ?_, canStore_of_transact hact⟩
  · cases swapped <;> exact hshown.1
  · cases swapped with
    | none => rw [hshown.2, Option.elim]
    | some plan =>
      rw [hshown.2]
      split
      · rfl
      · exact Command.tree_report _ _

namespace IsMirrored

/-- A request leaves a mirror a mirror. -/
theorem of_run (hmirrored : h.IsMirrored) {command : Command} {outcome : Except Error Answer}
    (hrun : command.run now h = (outcome, h')) :
    h'.IsMirrored ∧ h'.site.registry = h.site.registry := by
  obtain rfl : (command.run now h).2 = h' := congrArg Prod.snd hrun
  exact hmirrored.step (.request now command)

/-- A step to a neighbour is taken back by the step to the other side. -/
theorem exists_reversed_step (hmirrored : h.IsMirrored) {code : String} {up : Bool}
    (hrun : (Command.movePageStep code up).run now h = (.ok (.moved true), h'))
    (later : Timestamp) : ∃ after,
      (Command.movePageStep code (!up)).run later h' = (.ok (.moved true), after) ∧
        after.env.committed = h.env.committed ∧ after.site.tree = h.site.tree := by
  have hordered := hmirrored.ordered
  obtain ⟨hmirrored', -⟩ := hmirrored.of_run hrun
  obtain ⟨_, hstep, heq⟩ := Command.ok_of_answer hrun
  cases heq
  obtain ⟨swapped, hedit, hmoved, htree, hstore⟩ := swapped_of_step hstep
  obtain ⟨plan, rfl⟩ := Option.isSome_iff_exists.1 hmoved.symm
  obtain ⟨hcode, hfits, hplaces⟩ := RowEdit.places_of_swapPositions hordered hedit
  have hshown : (h'.site.tree.get? code).isSome := by
    rw [← hmirrored'.mirrors.follows.isSome_places, hplaces, Places.isSome_apply_swap]
    obtain ⟨parent, position, hup, hdown, -⟩ := hfits.places_swap
    rcases hcode with rfl | rfl
    · exact Option.isSome_of_eq_some hup
    · exact Option.isSome_of_eq_some hdown
  obtain ⟨moved, after, hagain⟩ :=
    Command.exists_run_movePageStep hmirrored' hstore hshown (!up) later
  obtain ⟨_, hstep', heq⟩ := Command.ok_of_answer hagain
  cases heq
  obtain ⟨swapped', hedit', rfl, htree', -⟩ := swapped_of_step hstep'
  obtain ⟨rfl, hrows⟩ : some plan.reversed = swapped' ∧ h.env.committed = after.env.committed := by
    rw [RowEdit.swapPositions_reversed hordered hedit, Except.ok.injEq] at hedit'
    exact Prod.mk.inj hedit'
  refine ⟨after, hagain, hrows.symm, ?_⟩
  rw [htree', htree]
  exact hmirrored.mirrors.follows.applySwap_reversed hordered hfits

/-- A new page is taken back by its deletion, under either policy. -/
theorem exists_deletion (hmirrored : h.IsMirrored) {parent code group : String}
    {draft : PageVersion} {a : Answer}
    (hrun : (Command.addPage parent code group draft).run now h = (.ok a, h'))
    (later : Timestamp) : ∃ after,
      (Command.deletePage code).run later h' = (.ok .done, after) ∧
        after.env.committed = h.env.committed ∧ after.site.tree.ShowsSame h.site.tree := by
  obtain ⟨hmirrored', hregistry⟩ := hmirrored.of_run hrun
  obtain ⟨page, hadd, rfl⟩ := Command.ok_of_answer hrun
  obtain ⟨accepted, t, haccepted, hedit, hcommits, -⟩ := addPage_eq_ok hadd
  obtain ⟨_, -, hact⟩ := judge_eq_ok hadd
  have hstore := canStore_of_transact hact
  obtain ⟨hparent, -, rfl, hbelow, honline, -⟩ := Site.acceptNewPage_spec haccepted
  have hback : RowEdit.deletePage accepted.code h'.env.committed = .ok ((), h.env.committed) := by
    rw [hcommits.committed]
    refine RowEdit.deletePage_of_addPage hmirrored.linked hmirrored.ordered hbelow ?_ hedit
    obtain ⟨above, habove⟩ := Option.isSome_iff_exists.1 hparent
    exact Option.isSome_of_eq_some (hmirrored.places_of_get? habove)
  have hjudged : h'.site.acceptDeletion accepted.code = .ok page := by
    obtain ⟨code, heq, hpage⟩ :=
      (Command.effect_of_run hrun).answers hmirrored.isFollowed page rfl
    cases heq
    obtain ⟨-, -, hstored⟩ := RowEdit.pages_of_addPage hedit
    obtain ⟨-, -, hleaf, -⟩ := RowEdit.pages_of_deletePage hback
    exact Site.acceptDeletion_eq_ok hpage (by rw [hstored]; exact hbelow)
      (hmirrored'.hasChildren_eq_false_iff.1 hleaf) (by rw [hstored, honline]; rfl)
  have hverdict : (Command.deletePage accepted.code).verdict h'.site = .ok () :=
    map_eq_ok.2 ⟨page, hjudged, rfl⟩
  obtain ⟨_, after, hdelete⟩ :=
    Command.exists_run_of_verdict hmirrored' hstore hverdict later
  obtain ⟨hmirrored'', hregistry'⟩ := hmirrored'.of_run hdelete
  obtain ⟨_, hdeleted, rfl⟩ := Command.ok_of_answer hdelete
  obtain ⟨_, u, -, hedit', hcommits', -⟩ := deletePage_eq_ok hdeleted
  have hrows : after.env.committed = h.env.committed := by
    rw [hback, Except.ok.injEq] at hedit'
    rw [hcommits'.committed]
    exact (Prod.mk.inj hedit').2.symm
  have hmirrors := hmirrored''.mirrors
  rw [hrows, hregistry', hregistry] at hmirrors
  exact ⟨after, hdelete, hrows, hmirrors.showsSame hmirrored.mirrors⟩

end IsMirrored

end Hosted

-- ════════════════════════════════════════════════════════════════════════
-- Runs
-- ════════════════════════════════════════════════════════════════════════

/-- Where a site opened on well-formed rows, such as none, and is their only writer, a request about
    the hierarchy that succeeds can be taken back, whatever the site was asked for before. A page
    that made a step makes the step to the other side, and all rows and the site map are those from
    before. A page that was added is deleted, under either policy, and all rows are those from
    before; so is the site map, as far as readers can tell. -/
theorem structural_requests_undo {config : SiteConfig} {r : Registry} {time : Timestamp}
    {env env' : Environment} {site : Site} {steps : List Hosted.Step} {h : Hosted}
    (hwell : env.IsWellFormed) (hopen : Site.openOn config r time env = (.ok site, env'))
    (hrun : Hosted.run ⟨env', site⟩ steps = h) (now later : Timestamp) :
    (∀ code up h', (Command.movePageStep code up).run now h = (.ok (.moved true), h') →
      ∃ after, (Command.movePageStep code (!up)).run later h' = (.ok (.moved true), after) ∧
        after.env.committed = h.env.committed ∧ after.site.tree = h.site.tree) ∧
      ∀ parent code group draft a h',
        (Command.addPage parent code group draft).run now h = (.ok a, h') →
          ∃ after, (Command.deletePage code).run later h' = (.ok .done, after) ∧
            after.env.committed = h.env.committed ∧
            after.site.tree.ShowsSame h.site.tree := by
  subst hrun
  obtain ⟨hopened, -⟩ := Site.isMirrored_of_openOn hwell hopen
  obtain ⟨hmirrored, -⟩ := Hosted.isMirrored_run hopened steps
  exact ⟨fun code up h' hstep => hmirrored.exists_reversed_step hstep later,
    fun parent code group draft a h' hadd => hmirrored.exists_deletion hadd later⟩

/-- The last of three pages, which is online, makes a step up and is moved back. A page below it is
    added and deleted. -/
theorem structural_requests_undo_sample :
    let steps : List Hosted.Step :=
      [.request .epoch (.addPage "homepage" "a" "free" (.empty "home" 2)),
        .request .epoch (.addPage "homepage" "b" "free" (.empty "home" 2)),
        .request .epoch (.addPage "homepage" "c" "free" (.empty "home" 2)),
        .request .epoch (.setPageOnline "c")]
    let h := Hosted.planted.run steps
    let moved := (Command.movePageStep "c" true).run .epoch h
    let added := (Command.addPage "c" "d" "free" (.empty "home" 2)).run .epoch h
    moved.1 = .ok (.moved true) ∧
      (moved.2.site.tree.get? "c").map (·.position) = some 2 ∧
      (∃ after, (Command.movePageStep "c" false).run .epoch moved.2 = (.ok (.moved true), after) ∧
        after.env.committed = h.env.committed ∧ after.site.tree = h.site.tree) ∧
      added.1.isOk = true ∧
      ∃ after, (Command.deletePage "d").run .epoch added.2 = (.ok .done, after) ∧
        after.env.committed = h.env.committed ∧ after.site.tree.ShowsSame h.site.tree := by
  intro steps h moved added
  have hmoved : moved.1 = .ok (.moved true) := by decide +kernel
  have hadded : added.1.isOk = true := by decide +kernel
  obtain ⟨a, ha⟩ := isOk_iff.1 hadded
  obtain ⟨hsteps, hadds⟩ := structural_requests_undo Environment.isWellFormed_sample
    Site.openOn_sample (rfl : Hosted.planted.run steps = h) .epoch .epoch
  have hplaced : (moved.2.site.tree.get? "c").map (·.position) = some 2 := by decide +kernel
  exact ⟨hmoved, hplaced, hsteps "c" true moved.2 (Prod.ext hmoved rfl), hadded,
    hadds "c" "d" "free" _ a added.2 (Prod.ext ha rfl)⟩

end Sitemap
