import Sitemap.Proofs.Site.Revision

/-!
# Locked widgets

A widget of a locked type that is in the draft of a page stays there, in its frame and as it is,
for as long as the page exists. The lock is enforced by separate checks, of a frame that is
filled or emptied, of both frames of an exchange, and of a draft that is replaced as a whole;
together they leave no way around it.

## Main definitions

- `Site.IsFree` — a frame holds no locked widget
- `Retains` — a frame still holds a widget after some requests

## Main results

- `Site.exists_widgetAt_of_checkLockedKept`, `Site.isFree_of_acceptJoin` and their like — what the
  checks make sure of
- `Command.Revises.retains` — the step: a revision keeps a locked widget, or the page is deleted
- `locked_widget_stays` — the run

## Design notes

A draft that replaces another one is compared with it as JSON data. It may carry an equal
configuration that is written differently, with a negative zero in place of a zero; no other
request can do even that.
-/

namespace Sitemap

/-- Widgets of the same type are locked together. -/
theorem Registry.isLocked_of_agrees {r : Registry} {u w : Widget} (h : u.Agrees w) :
    r.isLocked u = r.isLocked w := by
  unfold isLocked
  rw [h.1]

namespace Site

variable {site : Site} {code : String} {frame : Int} {w : Widget}

/-- A frame of a version holds no locked widget. -/
def IsFree (site : Site) (v : PageVersion) (frame : Int) : Prop :=
  ∀ w, v.slots.widgetAt frame = some w → site.registry.isLocked w = false

-- ════════════════════════════════════════════════════════════════════════
-- What the checks make sure of
-- ════════════════════════════════════════════════════════════════════════

/-- A draft that has passed the check has the locked widgets of the one that it replaces. -/
theorem exists_widgetAt_of_checkLockedKept {current next : PageVersion}
    (h : site.checkLockedKept current next = .ok ())
    (hw : current.slots.widgetAt frame = some w) (hlocked : site.registry.isLocked w = true) :
    ∃ u, next.slots.widgetAt frame = some u ∧ u.Agrees w := by
  unfold checkLockedKept at h
  dsimp only at h
  split at h
  · cases h
  · next hnone =>
    have hkept := List.find?_eq_none.1 hnone (frame, w) (Slots.mem_occupied_iff.2 hw)
    have hkeeps : Keeps next.slots frame w := by simpa [hlocked] using hkept
    unfold Keeps at hkeeps
    cases hu : next.slots.widgetAt frame with
    | none =>
      rw [hu] at hkeeps
      cases hkeeps
    | some u =>
      rw [hu] at hkeeps
      exact ⟨u, rfl, hkeeps⟩

/-- A frame that may be changed holds no locked widget. -/
theorem isFree_of_checkFrameFree {v : PageVersion} {occupant : Option Widget}
    (h : site.checkFrameFree v frame = .ok occupant) : site.IsFree v frame := by
  intro w hw
  simp only [checkFrameFree, Slots.get, bind_eq_ok, Slots.checkFrame_eq_ok, pure_eq_ok] at h
  obtain ⟨found, ⟨-, -, rfl⟩, hfree⟩ := h
  rw [hw] at hfree
  dsimp only at hfree
  split at hfree
  · cases hfree
  · next hnot => simpa using hnot

theorem checkLockedKept_of_acceptDraft {draft : PageVersion} {page current : Page}
    (hcurrent : site.tree.get? code = some current)
    (h : site.acceptDraft code draft = .ok page) :
    site.checkLockedKept current.draft page.draft = .ok () := by
  simp only [acceptDraft, bind_eq_ok, pure_eq_ok, draftPage_eq_ok] at h
  obtain ⟨found, hfound, accepted, -, ⟨⟩, hkept, rfl⟩ := h
  obtain rfl := Option.some.inj (hcurrent.symm.trans hfound)
  exact hkept

theorem isFree_of_acceptJoin {accepted : Widget} {current : Page}
    (hcurrent : site.tree.get? code = some current)
    (h : site.acceptJoin code frame w = .ok accepted) : site.IsFree current.draft frame := by
  simp only [acceptJoin, bind_eq_ok, draftPage_eq_ok] at h
  obtain ⟨found, hfound, occupant, hfree, -⟩ := h
  obtain rfl := Option.some.inj (hcurrent.symm.trans hfound)
  exact isFree_of_checkFrameFree hfree

theorem isFree_of_acceptExchange {source target : Int} {current : Page}
    (hcurrent : site.tree.get? code = some current)
    (h : site.acceptExchange code source target = .ok ()) :
    site.IsFree current.draft source ∧ site.IsFree current.draft target := by
  simp only [acceptExchange, bind_eq_ok, draftPage_eq_ok] at h
  obtain ⟨found, hfound, first, hsource, second, htarget, -⟩ := h
  obtain rfl := Option.some.inj (hcurrent.symm.trans hfound)
  exact ⟨isFree_of_checkFrameFree hsource, isFree_of_checkFrameFree htarget⟩

theorem isFree_of_acceptRemoval {occupant : Option Widget} {current : Page}
    (hcurrent : site.tree.get? code = some current)
    (h : site.acceptRemoval code frame = .ok occupant) : site.IsFree current.draft frame := by
  simp only [acceptRemoval, bind_eq_ok, draftPage_eq_ok] at h
  obtain ⟨found, hfound, hfree⟩ := h
  obtain rfl := Option.some.inj (hcurrent.symm.trans hfound)
  exact isFree_of_checkFrameFree hfree

-- ════════════════════════════════════════════════════════════════════════
-- What passes the checks
-- ════════════════════════════════════════════════════════════════════════

theorem checkFrameFree_of_isFree {v : PageVersion} (hframe : v.slots.containsFrame frame = true)
    (hfree : site.IsFree v frame) :
    site.checkFrameFree v frame = .ok (v.slots.widgetAt frame) :=
  checkFrameFree_eq_ok_iff.2 ⟨hframe, rfl, hfree⟩

theorem acceptJoin_of_isFree {accepted : Widget} {current : Page}
    (hcurrent : site.tree.get? code = some current)
    (hframe : current.draft.slots.containsFrame frame = true)
    (hfree : site.IsFree current.draft frame) (hwidget : site.acceptWidget frame w = .ok accepted) :
    site.acceptJoin code frame w = .ok accepted := by
  simp only [acceptJoin, bind_eq_ok, draftPage_eq_ok]
  exact ⟨current, hcurrent, _, checkFrameFree_of_isFree hframe hfree, hwidget⟩

theorem acceptExchange_of_isFree {source target : Int} {current : Page}
    (hcurrent : site.tree.get? code = some current)
    (hsource : current.draft.slots.containsFrame source = true)
    (htarget : current.draft.slots.containsFrame target = true)
    (hfree : site.IsFree current.draft source) (hfree' : site.IsFree current.draft target) :
    site.acceptExchange code source target = .ok () := by
  simp only [acceptExchange, bind_eq_ok, draftPage_eq_ok]
  exact ⟨current, hcurrent, _, checkFrameFree_of_isFree hsource hfree, _,
    checkFrameFree_of_isFree htarget hfree', rfl⟩

theorem acceptRemoval_of_isFree {current : Page} (hcurrent : site.tree.get? code = some current)
    (hframe : current.draft.slots.containsFrame frame = true)
    (hfree : site.IsFree current.draft frame) :
    site.acceptRemoval code frame = .ok (current.draft.slots.widgetAt frame) := by
  simp only [acceptRemoval, bind_eq_ok, draftPage_eq_ok]
  exact ⟨current, hcurrent, checkFrameFree_of_isFree hframe hfree⟩

/-- A free frame is not the one with a locked widget. -/
theorem IsFree.ne_of_locked {v : PageVersion} {other : Int} (h : site.IsFree v other)
    (hw : v.slots.widgetAt frame = some w) (hlocked : site.registry.isLocked w = true) :
    frame ≠ other := by
  rintro rfl
  rw [h w hw] at hlocked
  cases hlocked

end Site

-- ════════════════════════════════════════════════════════════════════════
-- Revisions
-- ════════════════════════════════════════════════════════════════════════

theorem Entry.Completes.of_ok {command : Command} {a : Answer} :
    Entry.Completes ⟨command, .ok a⟩ command :=
  ⟨rfl, a, rfl⟩

/-- After some requests the frame of a draft still holds a widget of the same type and with the
    same configuration. It is literally the same, unless a request replaced the draft. -/
def Retains (past : List Entry) (code : String) (frame : Int) (w : Widget) (slots : Slots) : Prop :=
  ∃ u, slots.widgetAt frame = some u ∧ u.Agrees w ∧
    (u = w ∨ ∃ e ∈ past, ∃ draft, e.Completes (.updatePage code draft))

section Retains

variable {past : List Entry} {e : Entry} {code : String} {frame : Int} {w u : Widget}
  {slots : Slots}

/-- A widget that is found is retained. -/
theorem Retains.of_widgetAt (h : slots.widgetAt frame = some w) :
    Retains past code frame w slots :=
  ⟨w, h, .refl w, .inl rfl⟩

/-- What one more request retains of what some requests have retained is retained. -/
theorem Retains.concat (hstep : Retains [e] code frame u slots) (hagrees : u.Agrees w)
    (hpast : u = w ∨ ∃ e ∈ past, ∃ draft, e.Completes (.updatePage code draft)) :
    Retains (past ++ [e]) code frame w slots := by
  obtain ⟨v, hv, hagrees', hlast⟩ := hstep
  refine ⟨v, hv, hagrees'.trans hagrees, ?_⟩
  rcases hlast with rfl | ⟨e', he', hreplaced⟩
  · exact hpast.imp id fun ⟨e', he', hreplaced⟩ =>
      ⟨e', List.mem_append_left _ he', hreplaced⟩
  · exact .inr ⟨e', List.mem_append_right _ he', hreplaced⟩

end Retains

/-- A revision leaves a locked widget of the draft in its frame, or the page is deleted. -/
theorem Command.Revises.retains {site : Site} {time : Timestamp} {code : String}
    {command : Command} {outcome : Except Error Answer} {k : PageContent}
    {k' : Option PageContent} {frame : Int} {w : Widget}
    (hrevises : Revises site time code command outcome k')
    (hk : site.tree.contents code = some k) (hw : k.draft.slots.widgetAt frame = some w)
    (hlocked : site.registry.isLocked w = true) :
    Entry.Completes ⟨command, outcome⟩ (.deletePage code) ∨
      ∃ k, k' = some k ∧ Retains [⟨command, outcome⟩] code frame w k.draft.slots := by
  obtain ⟨shown, hshown, rfl⟩ := Option.map_eq_some_iff.1 hk
  have hsame : ∀ {current}, site.tree.get? code = some current → current = shown :=
    fun hcurrent => Option.some.inj (hcurrent.symm.trans hshown)
  cases hrevises with
  | refused | other | idle | moved | stepped => exact .inr ⟨_, hk, .of_widgetAt hw⟩
  | added haccepted =>
    obtain ⟨-, hnew, -⟩ := Site.acceptNewPage_spec haccepted
    rw [hnew] at hshown
    cases hshown
  | @updated draft _ _ hcurrent haccepted =>
    obtain rfl := hsame hcurrent
    obtain ⟨u, hu, hagrees⟩ := Site.exists_widgetAt_of_checkLockedKept
      (Site.checkLockedKept_of_acceptDraft hcurrent haccepted) hw hlocked
    exact .inr ⟨_, rfl, u, hu, hagrees, .inr ⟨_, List.mem_cons_self, draft, .of_ok⟩⟩
  | regrouped hcurrent | unpublished hcurrent =>
    obtain rfl := hsame hcurrent
    exact .inr ⟨_, rfl, .of_widgetAt hw⟩
  | published hcurrent hpage =>
    obtain rfl := hsame hcurrent
    refine .inr ⟨_, rfl, .of_widgetAt ?_⟩
    rw [hpage]
    exact hw
  | deleted => exact .inl .of_ok
  | joined hcurrent haccepted =>
    obtain rfl := hsame hcurrent
    have hne := (Site.isFree_of_acceptJoin hcurrent haccepted).ne_of_locked hw hlocked
    exact .inr ⟨_, rfl, .of_widgetAt ((Slots.widgetAt_put_of_ne hne).trans hw)⟩
  | exchanged hcurrent haccepted =>
    obtain rfl := hsame hcurrent
    obtain ⟨hsource, htarget⟩ := Site.isFree_of_acceptExchange hcurrent haccepted
    have hne := hsource.ne_of_locked hw hlocked
    have hne' := htarget.ne_of_locked hw hlocked
    exact .inr ⟨_, rfl, .of_widgetAt ((Slots.widgetAt_exchange_of_ne hne hne').trans hw)⟩
  | removed hcurrent haccepted =>
    obtain rfl := hsame hcurrent
    have hne := (Site.isFree_of_acceptRemoval hcurrent haccepted).ne_of_locked hw hlocked
    exact .inr ⟨_, rfl, .of_widgetAt ((Slots.widgetAt_put_of_ne hne).trans hw)⟩

/-- A widget of a locked type that the draft of a page holds stays in its frame, as it is,
    whatever is asked of the site from then on, unless the page is deleted. The site opened on an
    empty store and is its only writer. -/
theorem locked_widget_stays {config : SiteConfig} {r : Registry} {time : Timestamp}
    {env env' : Environment} {site : Site} {steps : List Hosted.Step} {h : Hosted} {page : Page}
    {frame : Int} {w : Widget} (hvacant : env.IsVacant)
    (hopen : Site.openOn config r time env = (.ok site, env'))
    (hrun : Hosted.run ⟨env', site⟩ steps = h) (hpage : h.HasPage page)
    (hw : page.draft.slots.widgetAt frame = some w) (hlocked : r.isLocked w = true)
    (more : List Hosted.Step) :
    (∃ e ∈ h.journal more, e.Completes (.deletePage page.code)) ∨
      ∃ later, (h.run more).Shows later ∧ later.code = page.code ∧
        Retains (h.journal more) page.code frame w later.draft.slots := by
  subst hrun
  obtain ⟨hmirrored, hregistry⟩ := Site.isMirrored_run_of_openOn hvacant hopen steps
  have hstays := Hosted.revision_induction hmirrored page.code
    (P := fun past k => (∃ e ∈ past, e.Completes (.deletePage page.code)) ∨
      ∃ k', k = some k' ∧ Retains past page.code frame w k'.draft.slots) ?_ ?_ more
  · refine hstays.imp id ?_
    rintro ⟨k, hk, hretains⟩
    obtain ⟨hlater, -⟩ := Hosted.isMirrored_run hmirrored more
    obtain ⟨later, hshows, hcode, rfl⟩ := hlater.shows_of_contents hk
    exact ⟨later, hshows, hcode, hretains⟩
  · exact .inr ⟨_, hmirrored.contents_of_hasPage hpage, .of_widgetAt hw⟩
  · intro site' past time' command outcome k hsite hbefore hrevises
    rcases hbefore with ⟨e, he, hdeleted⟩ | ⟨k', hk', u, hu, hagrees, hreplaced⟩
    · exact .inl ⟨e, List.mem_append_left _ he, hdeleted⟩
    · -- what is compared with the next draft is what is there now, not the widget from before
      have hlocked' : site'.registry.isLocked u = true := by
        rw [hsite, hregistry, Registry.isLocked_of_agrees hagrees]
        exact hlocked
      rcases hrevises.retains hk' hu hlocked' with hdeleted | ⟨k₁, hk₁, hretains⟩
      · exact .inl ⟨_, List.mem_append_right _ List.mem_cons_self, hdeleted⟩
      · exact .inr ⟨k₁, hk₁, hretains.concat hagrees hreplaced⟩

/-- A logo stays in its frame while it is asked to be moved, to be replaced and to be removed, and
    after a draft without it was offered. -/
theorem locked_widget_stays_sample :
    let h := Hosted.planted.run
      [.request .epoch (.addPage "homepage" "a" "free" (.empty "home" 2)),
        .request .epoch (.joinWidget "a" 0 ⟨"logo", none⟩)]
    let more : List Hosted.Step :=
      [.request .epoch (.moveWidget "a" 0 1), .request .epoch (.joinWidget "a" 0 ⟨"menu", none⟩),
        .request .epoch (.removeWidget "a" 0), .request .epoch (.setPageOnline "a"),
        .request .epoch (.updatePage "a" (.empty "home" 2)), .request .epoch .refresh]
    ∃ later, (h.run more).Shows later ∧ later.code = "a" ∧
      Retains (h.journal more) "a" 0 ⟨"logo", none⟩ later.draft.slots := by
  intro h more
  have hshown : (h.site.tree.get? "a").any (fun page =>
      page.draft.slots.widgetAt 0 = some ⟨"logo", none⟩) = true := by decide +kernel
  simp only [Option.any_eq_true, decide_eq_true_eq] at hshown
  obtain ⟨page, hget, hw⟩ := hshown
  have hmirrored : h.IsMirrored := (Hosted.isMirrored_run Hosted.isMirrored_planted _).1
  obtain ⟨hcode, hshows⟩ := hmirrored.shows hget
  have hstays := locked_widget_stays Environment.isVacant_sample Site.openOn_sample rfl
    (.inl hshows.get? : h.HasPage page) hw (by decide) more
  rw [hcode] at hstays
  refine hstays.resolve_left ?_
  rintro ⟨e, he, hdeleted, -⟩
  simp only [more, Hosted.journal, Hosted.record, List.cons_append, List.nil_append,
    List.mem_cons, List.not_mem_nil, or_false] at he
  rcases he with rfl | rfl | rfl | rfl | rfl | rfl <;> cases hdeleted

end Sitemap
