import Sitemap.Proofs.Checks
import Sitemap.Proofs.Page.Content
import Sitemap.Proofs.Page.Slots
import Sitemap.Site.Validation

/-!
# What a site has accepted

A request that a site accepts has passed the checks on the site map in memory. Here is what can
be relied on afterwards, request by request.

## Main results

- `Site.acceptNewPage_spec`, `Site.acceptDraft_spec`, `Site.acceptDeletion_spec` — pages
- `Site.exists_page_of_acceptJoin` and its like — frames
- `Site.isStorable_of_acceptVersion` — accepted versions are stored without loss
-/

namespace Sitemap

/-- A widget that was put in its stored form is in its stored form. -/
theorem Widget.normalize_normalize (isLogic : Bool) (w : Widget) :
    (w.normalize isLogic).normalize isLogic = w.normalize isLogic := by
  obtain ⟨typeCode, config⟩ := w
  cases isLogic with
  | true => rfl
  | false =>
    unfold normalize
    simp [Option.filter_filter]

namespace Site

variable {site : Site} {code : String} {frame : Int}

@[simp]
theorem draftPage_eq_ok {page : Page} :
    site.draftPage code = .ok page ↔ site.tree.get? code = some page := by
  unfold draftPage
  split
  · next hpage => simp [hpage]
  · next hpage => simp [hpage]

/-- A new page goes below a page of the site map, and has never been online. -/
theorem acceptNewPage_spec {parent group : String} {draft : PageVersion} {page : Page}
    (h : site.acceptNewPage parent code group draft = .ok page) :
    (site.tree.get? parent).isSome ∧ site.tree.get? code = none ∧ page.code = code ∧
      page.parent = some parent ∧ page.online = none ∧
      site.acceptVersion draft = .ok page.draft := by
  simp only [acceptNewPage, guard_eq_ok, bind_eq_ok, pure_eq_ok] at h
  obtain ⟨hparent, hnew, accepted, haccepted, rfl⟩ := h
  refine ⟨?_, ?_, rfl, rfl, rfl, haccepted⟩
  · simpa [Tree.contains, Tree.get?, Keyed.contains, Option.isSome_iff_ne_none] using hparent
  · simpa [Tree.contains, Tree.get?, Keyed.contains] using hnew

/-- A rewritten page is that of the site map, with another draft. -/
theorem acceptDraft_spec {draft : PageVersion} {page : Page}
    (h : site.acceptDraft code draft = .ok page) :
    ∃ current, site.tree.get? code = some current ∧ page = { current with draft := page.draft } ∧
      site.acceptVersion draft = .ok page.draft := by
  simp only [acceptDraft, bind_eq_ok, pure_eq_ok, draftPage_eq_ok] at h
  obtain ⟨current, hcurrent, accepted, haccepted, -, -, rfl⟩ := h
  exact ⟨current, hcurrent, rfl, haccepted⟩

/-- A deleted page is one of the site map that has a parent. -/
theorem acceptDeletion_spec {page : Page} (h : site.acceptDeletion code = .ok page) :
    site.tree.get? code = some page ∧ ∃ parent, page.parent = some parent := by
  simp only [acceptDeletion, guard_eq_ok, bind_eq_ok, pure_eq_ok, draftPage_eq_ok] at h
  obtain ⟨found, hfound, hroot, -, -, rfl⟩ := h
  refine ⟨hfound, Option.isSome_iff_exists.1 ?_⟩
  simpa [Page.isRoot, Option.isSome_iff_ne_none] using hroot

/-- A page below another one that has no children and is offline may be deleted, under either
    policy. -/
theorem acceptDeletion_eq_ok {page : Page} {parent : String}
    (hpage : site.tree.get? code = some page) (hparent : page.parent = some parent)
    (hleaf : site.tree.children code = []) (hoffline : page.online = none) :
    site.acceptDeletion code = .ok page := by
  simp only [acceptDeletion, draftPage_eq_ok.2 hpage, bind_eq_ok, guard_eq_ok, pure_eq_ok]
  exact ⟨page, rfl, by simp [Page.isRoot, hparent], by simp [hleaf],
    by simp [Page.isOnline, hoffline], rfl⟩

/-- A frame may be changed when it exists and holds no locked widget. -/
theorem checkFrameFree_eq_ok_iff {v : PageVersion} {occupant : Option Widget} :
    site.checkFrameFree v frame = .ok occupant ↔ v.slots.containsFrame frame = true ∧
      occupant = v.slots.widgetAt frame ∧
      ∀ w, v.slots.widgetAt frame = some w → site.registry.isLocked w = false := by
  simp only [checkFrameFree, Slots.get, bind_eq_ok, Slots.checkFrame_eq_ok, pure_eq_ok]
  constructor
  · rintro ⟨_, ⟨-, hframe, rfl⟩, hfree⟩
    refine ⟨hframe, ?_⟩
    cases hheld : v.slots.widgetAt frame with
    | none =>
      rw [hheld] at hfree
      refine ⟨(pure_eq_ok.1 hfree).symm, fun w heq => ?_⟩
      cases heq
    | some w =>
      rw [hheld] at hfree
      dsimp only at hfree
      split at hfree
      · cases hfree
      · next hunlocked =>
        refine ⟨(pure_eq_ok.1 hfree).symm, fun w' heq => ?_⟩
        cases heq
        exact Bool.eq_false_iff.2 hunlocked
  · rintro ⟨hframe, rfl, hfree⟩
    refine ⟨_, ⟨(), hframe, rfl⟩, ?_⟩
    cases hheld : v.slots.widgetAt frame with
    | none => rfl
    | some w =>
      dsimp only
      rw [if_neg (by rw [hfree w hheld]; exact Bool.false_ne_true)]
      rfl

/-- A frame that is free to be changed exists. Its widget is the one that is reported. -/
theorem checkFrameFree_eq_ok {v : PageVersion} {occupant : Option Widget}
    (h : site.checkFrameFree v frame = .ok occupant) :
    v.slots.containsFrame frame = true ∧ occupant = v.slots.widgetAt frame := by
  obtain ⟨hframe, hoccupant, -⟩ := checkFrameFree_eq_ok_iff.1 h
  exact ⟨hframe, hoccupant⟩

/-- A widget is accepted for a frame that exists on a page that exists. -/
theorem exists_page_of_acceptJoin {w accepted : Widget}
    (h : site.acceptJoin code frame w = .ok accepted) :
    ∃ page, site.tree.get? code = some page ∧ page.draft.slots.containsFrame frame = true ∧
      site.acceptWidget frame w = .ok accepted := by
  simp only [acceptJoin, bind_eq_ok, draftPage_eq_ok] at h
  obtain ⟨page, hpage, occupant, hfree, hwidget⟩ := h
  exact ⟨page, hpage, (checkFrameFree_eq_ok hfree).1, hwidget⟩

/-- An exchange is accepted for two frames that exist on a page that exists. -/
theorem exists_page_of_acceptExchange {source target : Int}
    (h : site.acceptExchange code source target = .ok ()) :
    ∃ page, site.tree.get? code = some page ∧ page.draft.slots.containsFrame source = true ∧
      page.draft.slots.containsFrame target = true := by
  simp only [acceptExchange, bind_eq_ok, draftPage_eq_ok] at h
  obtain ⟨page, hpage, first, hsource, second, htarget, -⟩ := h
  exact ⟨page, hpage, (checkFrameFree_eq_ok hsource).1, (checkFrameFree_eq_ok htarget).1⟩

/-- A removal is accepted for a frame that exists on a page that exists. -/
theorem exists_page_of_acceptRemoval {occupant : Option Widget}
    (h : site.acceptRemoval code frame = .ok occupant) :
    ∃ page, site.tree.get? code = some page ∧ page.draft.slots.containsFrame frame = true ∧
      occupant = page.draft.slots.widgetAt frame := by
  simp only [acceptRemoval, bind_eq_ok, draftPage_eq_ok] at h
  obtain ⟨page, hpage, hfree⟩ := h
  exact ⟨page, hpage, checkFrameFree_eq_ok hfree⟩

/-- An accepted widget is of a registered type, not reconfigured if that is locked, and in its
    stored form. -/
theorem acceptWidget_spec {w w' : Widget} (h : site.acceptWidget frame w = .ok w') :
    ∃ info, site.registry.widgetType w.typeCode = some info ∧ ¬ IsReconfigured info w ∧
      w' = w.normalize info.isLogic := by
  simp only [acceptWidget, bind_eq_ok, guard_eq_ok, pure_eq_ok] at h
  obtain ⟨info, hinfo, hkept, rfl⟩ := h
  refine ⟨info, ?_, hkept, rfl⟩
  unfold widgetType at hinfo
  split at hinfo
  · next found hfound =>
    cases hinfo
    exact hfound
  · cases hinfo

/-- A widget of a registered type is accepted, unless that is locked and the widget is
    reconfigured. -/
theorem acceptWidget_eq_ok {w : Widget} {info : WidgetType}
    (hinfo : site.registry.widgetType w.typeCode = some info) (hkept : ¬ IsReconfigured info w) :
    site.acceptWidget frame w = .ok (w.normalize info.isLogic) := by
  simp only [acceptWidget, widgetType, hinfo, bind_eq_ok, guard_eq_ok, pure_eq_ok]
  exact ⟨info, rfl, hkept, rfl⟩

/-- The accepted form of a widget is the one in which it is stored. -/
theorem eq_storedWidget_of_acceptWidget {w w' : Widget}
    (h : site.acceptWidget frame w = .ok w') : w' = Tables.storedWidget site.registry w := by
  obtain ⟨info, hinfo, -, rfl⟩ := acceptWidget_spec h
  have hlogic : site.registry.isLogic w = info.isLogic := by
    show (site.registry.widgetType w.typeCode).any _ = _
    rw [hinfo]
    rfl
  rw [Tables.storedWidget, hlogic]

theorem storedWidget_of_acceptWidget {w w' : Widget}
    (h : site.acceptWidget frame w = .ok w') :
    Tables.storedWidget site.registry w' = w' := by
  rw [eq_storedWidget_of_acceptWidget h]
  exact Widget.normalize_normalize (site.registry.isLogic w) w

/-- Accepted slots are as many as before, and each of their widgets was accepted in its
    place. -/
theorem acceptSlots_spec {slots accepted : List (Option Widget)} {first : Nat}
    (h : site.acceptSlots first slots = .ok accepted) :
    accepted.length = slots.length ∧
      ∀ (i : Nat) (w : Widget), accepted[i]? = some (some w) →
        ∃ v, slots[i]? = some (some v) ∧ ∃ frame, site.acceptWidget frame v = .ok w := by
  induction slots generalizing first accepted with
  | nil =>
    cases h
    exact ⟨rfl, fun i w hw => nomatch hw⟩
  | cons slot slots ih =>
    cases slot with
    | none =>
      simp only [acceptSlots, bind_eq_ok, pure_eq_ok] at h
      obtain ⟨rest, hrest, rfl⟩ := h
      obtain ⟨hlength, hwidgets⟩ := ih hrest
      refine ⟨congrArg (· + 1) hlength, fun i w hw => ?_⟩
      cases i with
      | zero => cases hw
      | succ i => exact hwidgets i w hw
    | some v =>
      simp only [acceptSlots, bind_eq_ok, pure_eq_ok] at h
      obtain ⟨v', hv, rest, hrest, rfl⟩ := h
      obtain ⟨hlength, hwidgets⟩ := ih hrest
      refine ⟨congrArg (· + 1) hlength, fun i w hw => ?_⟩
      cases i with
      | zero =>
        cases hw
        exact ⟨v, rfl, _, hv⟩
      | succ i => exact hwidgets i w hw

/-- An accepted version has the frames of its model, and each of its widgets was accepted in its
    frame. Apart from the widgets it is as it was. -/
theorem acceptVersion_spec {v v' : PageVersion} (h : site.acceptVersion v = .ok v') :
    site.registry.frameCount v'.model = some v'.slots.frameCount ∧
      (∀ frame w, v'.slots.widgetAt frame = some w →
        ∃ u, v.slots.widgetAt frame = some u ∧ ∃ frame, site.acceptWidget frame u = .ok w) ∧
      v'.toMetadata = v.toMetadata := by
  unfold acceptVersion at h
  split at h
  · cases h
  · next expected hmodel =>
    split at h
    · cases h
    · next hcount =>
      simp only [bind_eq_ok, pure_eq_ok] at h
      obtain ⟨accepted, haccepted, rfl⟩ := h
      obtain ⟨hlength, hwidgets⟩ := acceptSlots_spec haccepted
      refine ⟨?_, fun frame w hw => ?_, rfl⟩
      · rw [hmodel, ← not_not.1 hcount]
        exact congrArg some hlength.symm
      · obtain ⟨hnonneg, -⟩ :=
          Slots.containsFrame_iff.1 (Slots.containsFrame_of_widgetAt hw)
        lift frame to Nat using hnonneg
        rw [Slots.widgetAt_natCast] at hw
        obtain ⟨u, hu, haccept⟩ := hwidgets frame w (Option.join_eq_some_iff.1 hw)
        refine ⟨u, ?_, haccept⟩
        rw [Slots.widgetAt_natCast]
        exact Option.join_eq_some_iff.2 hu

/-- Accepted versions are stored without loss. -/
theorem isStorable_of_acceptVersion {v v' : PageVersion} (h : site.acceptVersion v = .ok v') :
    v'.IsStorable site.registry := by
  obtain ⟨hframes, hwidgets, -⟩ := acceptVersion_spec h
  refine ⟨hframes, fun frame w hw => ?_⟩
  obtain ⟨_, -, _, haccepted⟩ := hwidgets frame w hw
  exact storedWidget_of_acceptWidget haccepted

end Site

end Sitemap
