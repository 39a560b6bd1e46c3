import Sitemap.Proofs.Site.Refusal

/-!
# Granted requests

What a request that succeeds has done: which check let it through, which statements were
committed, and what the site shows and tells since. Later proofs take a request apart by these
lemmas only.

## Main definitions

- `Hosted.ShowsSlots` — the draft frames of a page were changed, committed and shown

## Main results

- `Hosted.addPage_eq_ok`, `Hosted.deletePage_eq_ok`, and so on — one lemma for each request

## Design notes

The lemmas say what happened to the site as an equation, so that the site map, the registry and
the events can be read off it.
-/

namespace Sitemap

namespace Hosted

variable {h h' : Hosted} {time : Timestamp} {code : String} {page : Page} {u : Unit}

theorem addPage_eq_ok {parent group : String} {draft : PageVersion}
    (hrun : h.addPage time parent code group draft = (.ok page, h')) :
    ∃ accepted t, h.site.acceptNewPage parent code group draft = .ok accepted ∧
      RowEdit.addPage h.site.registry time accepted h.env.committed = .ok (page, t) ∧
      h.env.Commits t h'.env ∧
      h'.site = (h.site.withTree (h.site.tree.insert page)).report (.added code parent) := by
  unfold addPage at hrun
  obtain ⟨accepted, haccepted, hact⟩ := judge_eq_ok hrun
  obtain ⟨stored, t, hedit, henv, hshown⟩ := transact_eq_ok hact
  obtain ⟨hanswer, hsite⟩ := Prod.mk.inj hshown
  cases hanswer
  exact ⟨accepted, t, haccepted, hedit, henv, hsite.symm⟩

/-- A draft that was replaced was stored with the place that the site map shows. -/
theorem updatePage_eq_ok {draft : PageVersion}
    (hrun : h.updatePage time code draft = (.ok page, h')) :
    ∃ accepted stored t, h.site.acceptDraft code draft = .ok accepted ∧
      RowEdit.updatePage h.site.registry time accepted h.env.committed = .ok (stored, t) ∧
      page = { accepted with draft := stored } ∧ h.env.Commits t h'.env ∧
      h'.site = (h.site.withTree (h.site.tree.replace page)).report (.updated code) := by
  unfold updatePage at hrun
  obtain ⟨accepted, haccepted, hact⟩ := judge_eq_ok hrun
  obtain ⟨stored, t, hedit, henv, hshown⟩ := transact_eq_ok hact
  obtain ⟨hanswer, hsite⟩ := Prod.mk.inj hshown
  cases hanswer
  exact ⟨accepted, stored, t, haccepted, hedit, rfl, henv, hsite.symm⟩

theorem updatePageGroup_eq_ok {group : String}
    (hrun : h.updatePageGroup code group = (.ok page, h')) :
    ∃ current t, h.site.tree.get? code = some current ∧
      RowEdit.updatePageGroup code group h.env.committed = .ok ((), t) ∧
      page = { current with group } ∧ h.env.Commits t h'.env ∧
      h'.site = (h.site.withTree (h.site.tree.replace page)).report (.updated code) := by
  unfold updatePageGroup at hrun
  obtain ⟨current, hcurrent, hact⟩ := judge_eq_ok hrun
  obtain ⟨_, t, hedit, henv, hshown⟩ := transact_eq_ok hact
  obtain ⟨hanswer, hsite⟩ := Prod.mk.inj hshown
  cases hanswer
  exact ⟨current, t, Site.draftPage_eq_ok.1 hcurrent, hedit, rfl, henv, hsite.symm⟩

/-- A page that was online is told to have gone offline before it is told to be gone. -/
theorem deletePage_eq_ok (hrun : h.deletePage code = (.ok u, h')) :
    ∃ page t, h.site.acceptDeletion code = .ok page ∧
      RowEdit.deletePage code h.env.committed = .ok ((), t) ∧ h.env.Commits t h'.env ∧
      h'.site = ((if page.isOnline then [Event.unpublished code] else []) ++ [Event.deleted code]).foldl
        Site.report (h.site.withTree (h.site.tree.remove code)) := by
  unfold deletePage at hrun
  obtain ⟨page, haccepted, hact⟩ := judge_eq_ok hrun
  obtain ⟨_, t, hedit, henv, hshown⟩ := transact_eq_ok hact
  obtain ⟨-, hsite⟩ := Prod.mk.inj hshown
  refine ⟨page, t, haccepted, hedit, henv, hsite.symm.trans ?_⟩
  split
  · rfl
  · rfl

/-- A page that moves is below its parent already, which the site map or the rows may say, or it
    comes last there. -/
theorem movePage_eq_ok {newParent : String}
    (hrun : h.movePage code newParent = (.ok page, h')) :
    ∃ current planned, h.site.acceptMove code newParent = .ok (current, planned) ∧
      (planned = none ∧ page = current ∧ h' = h ∨
        ∃ moved t, RowEdit.movePage code newParent h.env.committed = .ok (moved, t) ∧
          h.env.Commits t h'.env ∧
          match moved with
          | none => page = current ∧ h'.site = h.site
          | some plan => (h.site.tree.applyReparent plan).get? code = some page ∧
              h'.site = (h.site.withTree (h.site.tree.applyReparent plan)).report
                (.moved code plan.newParent plan.newPosition)) := by
  unfold movePage at hrun
  obtain ⟨⟨current, planned⟩, haccepted, hact⟩ := judge_eq_ok hrun
  refine ⟨current, planned, haccepted, ?_⟩
  cases planned with
  | none =>
    cases hact
    exact .inl ⟨rfl, rfl, rfl⟩
  | some _ =>
    obtain ⟨moved, t, hedit, henv, hshown⟩ := transact_eq_ok hact
    refine .inr ⟨moved, t, hedit, henv, ?_⟩
    cases moved with
    | none =>
      obtain ⟨hanswer, hsite⟩ := Prod.mk.inj hshown
      cases hanswer
      exact ⟨rfl, hsite.symm⟩
    | some plan =>
      obtain ⟨hpage, hsite⟩ := Prod.mk.inj hshown
      exact ⟨Site.draftPage_eq_ok.1 hpage, hsite.symm⟩

/-- A page that makes a step is exchanged with a neighbour, or it has none. -/
theorem movePageStep_eq_ok {up moved : Bool} (hrun : h.movePageStep code up = (.ok moved, h')) :
    ∃ swapped t, RowEdit.swapPositions code up h.env.committed = .ok (swapped, t) ∧
      h.env.Commits t h'.env ∧
      match swapped with
      | none => moved = false ∧ h'.site = h.site
      | some plan => moved = true ∧
          h'.site = match (h.site.tree.applySwap plan).get? code with
            | none => h.site.withTree (h.site.tree.applySwap plan)
            | some page => (h.site.withTree (h.site.tree.applySwap plan)).report
                (.moved code (page.parent.getD "") page.position) := by
  unfold movePageStep at hrun
  obtain ⟨_, -, hact⟩ := judge_eq_ok hrun
  obtain ⟨swapped, t, hedit, henv, hshown⟩ := transact_eq_ok hact
  refine ⟨swapped, t, hedit, henv, ?_⟩
  cases swapped with
  | none =>
    obtain ⟨hanswer, hsite⟩ := Prod.mk.inj hshown
    cases hanswer
    exact ⟨rfl, hsite.symm⟩
  | some plan =>
    dsimp only at hshown ⊢
    rw [show (h.site.withTree (h.site.tree.applySwap plan)).tree.get? code =
      (h.site.tree.applySwap plan).get? code from rfl] at hshown
    -- the event is made up from the page as it is shown after the exchange
    cases hget : (h.site.tree.applySwap plan).get? code with
    | none =>
      rw [hget] at hshown
      obtain ⟨hanswer, hsite⟩ := Prod.mk.inj hshown
      cases hanswer
      exact ⟨rfl, hsite.symm⟩
    | some page =>
      rw [hget] at hshown
      obtain ⟨hanswer, hsite⟩ := Prod.mk.inj hshown
      cases hanswer
      exact ⟨rfl, hsite.symm⟩

theorem setPageOnline_eq_ok (hrun : h.setPageOnline time code = (.ok page, h')) :
    ∃ current stamp t, h.site.tree.get? code = some current ∧
      RowEdit.setPageOnline time code h.env.committed = .ok (stamp, t) ∧
      h.env.Commits t h'.env ∧
      (h.site.tree.edit code fun page => page.published stamp).get? code = some page ∧
      h'.site = (h.site.withTree (h.site.tree.edit code fun page => page.published stamp)).report
        (.published code) := by
  unfold setPageOnline at hrun
  obtain ⟨current, hcurrent, hact⟩ := judge_eq_ok hrun
  obtain ⟨stamp, t, hedit, henv, hshown⟩ := transact_eq_ok hact
  obtain ⟨hpage, hsite⟩ := Prod.mk.inj hshown
  exact ⟨current, stamp, t, Site.draftPage_eq_ok.1 hcurrent, hedit, henv,
    Site.draftPage_eq_ok.1 hpage, hsite.symm⟩

/-- A page that goes offline is offline already, or it is hidden. -/
theorem setPageOffline_eq_ok (hrun : h.setPageOffline code = (.ok page, h')) :
    ∃ current, h.site.tree.get? code = some current ∧
      (current.online = none ∧ page = current ∧ h' = h ∨
        ∃ t, RowEdit.setPageOffline code h.env.committed = .ok ((), t) ∧
          page = current.unpublished ∧ h.env.Commits t h'.env ∧
          h'.site = (h.site.withTree (h.site.tree.edit code Page.unpublished)).report
            (.unpublished code)) := by
  unfold setPageOffline at hrun
  obtain ⟨current, hcurrent, hact⟩ := judge_eq_ok hrun
  refine ⟨current, Site.draftPage_eq_ok.1 hcurrent, ?_⟩
  split at hact
  · obtain ⟨_, t, hedit, henv, hshown⟩ := transact_eq_ok hact
    obtain ⟨hanswer, hsite⟩ := Prod.mk.inj hshown
    cases hanswer
    exact .inr ⟨t, hedit, rfl, henv, hsite.symm⟩
  · next hoffline =>
    cases hact
    exact .inl ⟨by simpa [Page.isOnline] using hoffline, rfl, rfl⟩

-- ════════════════════════════════════════════════════════════════════════
-- Frames
-- ════════════════════════════════════════════════════════════════════════

/-- Slots were written and are shown in the draft of a page, and the frames are told. -/
structure ShowsSlots (before : Hosted) (code : String) (stamp : Timestamp) (frames : List Int)
    (slots : Slots) (t : Tables) (after : Hosted) : Prop where
  /-- The tables are committed. -/
  env : before.env.Commits t after.env
  /-- The slots are shown, and the frames are told. -/
  site : after.site = (before.site.withTree (before.site.tree.edit code fun p =>
    p.withSlots stamp slots)).report (.widgetsChanged code frames)

/-- A change of frames that does not fail is committed and shown. -/
theorem showsSlots_of_transact {statements : Tables → Except Error (Timestamp × Tables)}
    {frames : List Int} {change : Slots → Except Error Slots} {slots : Slots}
    (hpage : h.site.tree.get? code = some page) (hchange : change page.draft.slots = .ok slots)
    (hrun : h.transact statements (fun time site => site.showSlots code time frames change) =
      (.ok u, h')) :
    ∃ stamp t, statements h.env.committed = .ok (stamp, t) ∧
      h.ShowsSlots code stamp frames slots t h' := by
  obtain ⟨stamp, t, hedit, henv, hshown⟩ := transact_eq_ok hrun
  rw [Site.showSlots_eq hpage hchange] at hshown
  exact ⟨stamp, t, hedit, henv, (Prod.mk.inj hshown).2.symm⟩

theorem joinWidget_eq_ok {frame : Int} {w : Widget}
    (hrun : h.joinWidget time code frame w = (.ok u, h')) :
    ∃ accepted page stamp t, h.site.acceptJoin code frame w = .ok accepted ∧
      h.site.acceptWidget frame w = .ok accepted ∧ h.site.tree.get? code = some page ∧
      page.draft.slots.containsFrame frame = true ∧
      RowEdit.joinWidget h.site.registry time code frame accepted h.env.committed =
        .ok (stamp, t) ∧
      h.ShowsSlots code stamp [frame] (page.draft.slots.put frame (some accepted)) t h' := by
  unfold joinWidget at hrun
  obtain ⟨accepted, haccepted, hact⟩ := judge_eq_ok hrun
  obtain ⟨page, hpage, hframe, hwidget⟩ := Site.exists_page_of_acceptJoin haccepted
  obtain ⟨stamp, t, hedit, hshows⟩ :=
    showsSlots_of_transact hpage (Slots.set_eq_ok hframe accepted) hact
  exact ⟨accepted, page, stamp, t, haccepted, hwidget, hpage, hframe, hedit, hshows⟩

/-- Frames that are exchanged are one, or both are changed. -/
theorem moveWidget_eq_ok {source target : Int}
    (hrun : h.moveWidget time code source target = (.ok u, h')) :
    h.site.acceptExchange code source target = .ok () ∧
      (source = target ∧ h' = h ∨ source ≠ target ∧
        ∃ page stamp t, h.site.tree.get? code = some page ∧
          page.draft.slots.containsFrame source = true ∧
          page.draft.slots.containsFrame target = true ∧
          RowEdit.moveWidget h.env.parkingFrame time code source target h.env.committed =
            .ok (stamp, t) ∧
          h.ShowsSlots code stamp [source, target] (page.draft.slots.exchange source target) t
            h') := by
  unfold moveWidget at hrun
  obtain ⟨_, haccepted, hact⟩ := judge_eq_ok hrun
  refine ⟨haccepted, ?_⟩
  split at hact
  · next hsame =>
    cases hact
    exact .inl ⟨hsame, rfl⟩
  · next hne =>
    obtain ⟨page, hpage, hsource, htarget⟩ := Site.exists_page_of_acceptExchange haccepted
    obtain ⟨stamp, t, hedit, hshows⟩ :=
      showsSlots_of_transact hpage (Slots.move_eq_ok hsource htarget) hact
    exact .inr ⟨hne, page, stamp, t, hpage, hsource, htarget, hedit, hshows⟩

/-- A frame that is emptied is empty already, or it is changed. -/
theorem removeWidget_eq_ok {frame : Int}
    (hrun : h.removeWidget time code frame = (.ok u, h')) :
    ∃ occupant, h.site.acceptRemoval code frame = .ok occupant ∧
      (occupant = none ∧ h' = h ∨ ∃ w page stamp t, occupant = some w ∧
        h.site.tree.get? code = some page ∧ page.draft.slots.containsFrame frame = true ∧
        RowEdit.removeWidget time code frame h.env.committed = .ok (stamp, t) ∧
        h.ShowsSlots code stamp [frame] (page.draft.slots.put frame none) t h') := by
  unfold removeWidget at hrun
  obtain ⟨occupant, haccepted, hact⟩ := judge_eq_ok hrun
  refine ⟨occupant, haccepted, ?_⟩
  cases occupant with
  | none =>
    cases hact
    exact .inl ⟨rfl, rfl⟩
  | some w =>
    obtain ⟨page, hpage, hframe, -⟩ := Site.exists_page_of_acceptRemoval haccepted
    obtain ⟨stamp, t, hedit, hshows⟩ :=
      showsSlots_of_transact hpage (Slots.clear_eq_ok hframe) hact
    exact .inr ⟨w, page, stamp, t, rfl, hpage, hframe, hedit, hshows⟩

-- ════════════════════════════════════════════════════════════════════════
-- Refreshing
-- ════════════════════════════════════════════════════════════════════════

theorem refresh_eq_ok (hrun : h.refresh = (.ok u, h')) :
    ∃ pages, h.env.committed.loadPages h.site.registry = .ok pages ∧
      h' = { h with site := h.site.withTree (.ofPages pages) } := by
  unfold refresh at hrun
  split at hrun
  · cases hrun
  · next pages hload =>
    cases hrun
    exact ⟨pages, hload, rfl⟩

end Hosted

end Sitemap
