import Sitemap.Proofs.Rows.Contents

/-!
# Edits that succeed

Every statement of an edit has a check of its own, and the references between the tables are
checked once more at the end. On linked tables none of these checks refuses an edit that makes
sense for the stored pages: nothing is filed under a code that is free, and what an edit drops
makes room for what it stores.

## Main definitions

- `Tables.IsFiled` — what is filed under a code is in order
- `RowEdit.Succeeds` — an edit has a result, and the references in it lead somewhere

## Main results

- `Tables.exists_insertVersion`, `Tables.exists_copyDraftToOnline` and their like — statements
  that are not refused
- `Tables.IsLinked.of_spares` — what an edit has to do about one page to keep tables linked
- `RowEdit.succeeds_addPage` and its like — edits that succeed
-/

namespace Sitemap

/-- A chain has a result when its first link and the rest have one. -/
theorem exists_bind_ok {ε α β : Type} {x : Except ε α} {f : α → Except ε β} {a : α}
    (hx : x = .ok a) (hf : ∃ b, f a = .ok b) : ∃ b, (x >>= f) = .ok b := by
  rw [hx]
  exact hf

namespace Tables

variable {t t' t'' : Tables} {r : Registry} {edition : Edition} {code : String}

-- ════════════════════════════════════════════════════════════════════════
-- Statements
-- ════════════════════════════════════════════════════════════════════════

/-- Metadata is stored where there is none. -/
theorem exists_insertMetadata (h : t.metadataOf edition code = none) (row : Metadata) :
    ∃ t', t.insertMetadata edition code row = .ok t' := by
  have hfree : ¬ (t.metadata.get edition).contains code = true :=
    Option.not_isSome_iff_eq_none.2 h
  unfold insertMetadata
  rw [if_neg hfree]
  exact ⟨_, rfl⟩

/-- Stored metadata is stamped. -/
theorem exists_stampMetadata (h : (t.metadataOf edition code).isSome) (time : Timestamp) :
    ∃ t', t.stampMetadata edition code time = .ok t' := by
  have hstored : (t.metadata.get edition).contains code = true := h
  unfold stampMetadata
  rw [if_pos hstored]
  exact ⟨_, rfl⟩

/-- A widget is stored in a frame that is free. -/
theorem exists_insertWidget {frame : Int} (h : (t.widgetsOf edition code).get? frame = none)
    (w : Widget) : ∃ t', t.insertWidget edition code frame w = .ok t' := by
  have hfree : ¬ (t.widgetsOf edition code).contains frame = true :=
    Option.not_isSome_iff_eq_none.2 h
  unfold insertWidget
  dsimp only
  rw [if_neg hfree]
  exact ⟨_, rfl⟩

/-- Widgets with ascending frames are stored where all of these are free. -/
theorem exists_insertWidgets {rows : List (Int × Widget)} (hascend : KeysAscend rows)
    (hfree : ∀ e ∈ rows, (t.widgetsOf edition code).get? e.1 = none) :
    ∃ t', insertWidgets edition code rows t = (.ok (), t') := by
  induction rows generalizing t with
  | nil => exact ⟨t, rfl⟩
  | cons e rest ih =>
    obtain ⟨frame, w⟩ := e
    obtain ⟨hhead, htail⟩ := List.pairwise_cons.1 hascend
    obtain ⟨u, hinsert⟩ := exists_insertWidget (hfree _ List.mem_cons_self) w
    unfold insertWidgets
    rw [hinsert]
    refine ih htail fun e he => ?_
    -- the frame that was filled comes before the frames that are left
    have hne : e.1 ≠ frame := by
      intro heq
      have hlt := hhead e he
      rw [heq, Int.compare_eq_lt] at hlt
      omega
    rw [(touches_of_insertWidget hinsert).2.2, Keyed.get?_insert, if_neg hne]
    exact hfree e (List.mem_cons_of_mem _ he)

/-- An edition is stored where nothing is filed of it. -/
theorem exists_insertVersion (hmetadata : t.metadataOf edition code = none)
    (hwidgets : t.widgetsOf edition code = ∅) (v : PageVersion) :
    ∃ t', t.insertVersion r edition code v = .ok t' := by
  obtain ⟨u, hinsert⟩ := exists_insertMetadata hmetadata v.toMetadata
  have hascend := Keyed.keysAscend_map (fun _ w => storedWidget r w) v.slots.keysAscend_occupied
  have hfree : ∀ e ∈ v.slots.occupied.map fun e => (e.1, storedWidget r e.2),
      (u.widgetsOf edition code).get? e.1 = none := by
    intro e _
    rw [(touches_of_insertMetadata hinsert).2.2.2, hwidgets, Keyed.get?_empty]
  obtain ⟨t', hrows⟩ := exists_insertWidgets hascend hfree
  unfold insertVersion
  refine exists_bind_ok hinsert ⟨t', ?_⟩
  dsimp only
  rw [hrows]
  rfl

/-- A draft is copied where nothing is filed of the online edition. -/
theorem exists_copyDraftToOnline (hdraft : (t.metadataOf .draft code).isSome)
    (hmetadata : t.metadataOf .online code = none) (hwidgets : t.widgetsOf .online code = ∅) :
    ∃ t', t.copyDraftToOnline code = (.ok (), t') := by
  obtain ⟨row, hrow⟩ := Option.isSome_iff_exists.1 hdraft
  obtain ⟨u, hinsert⟩ := exists_insertMetadata hmetadata row
  have hfree : ∀ e ∈ (u.widgetsOf .draft code).entries,
      (u.widgetsOf .online code).get? e.1 = none := by
    intro e _
    rw [(touches_of_insertMetadata hinsert).2.2.2, hwidgets, Keyed.get?_empty]
  obtain ⟨t', hrows⟩ := exists_insertWidgets (Keyed.ascending _) hfree
  unfold copyDraftToOnline
  rw [hrow]
  dsimp only
  rw [hinsert]
  exact ⟨t', hrows⟩

-- ════════════════════════════════════════════════════════════════════════
-- References
-- ════════════════════════════════════════════════════════════════════════

theorem IsLinked.isClosed (h : t.IsLinked) : t.places.IsClosed :=
  fun _ _ hparent => h.isSome_places hparent

/-- A stored page has a draft, filed under its code. -/
theorem IsLinked.isSome_draft (h : t.IsLinked) (hordered : t.places.IsOrdered)
    (hstored : (t.places code).isSome) : (t.metadataOf .draft code).isSome := by
  rw [isSome_places_eq] at hstored
  obtain ⟨row, hrow⟩ := Option.isSome_iff_exists.1 hstored
  have hcode : row.code = code := hordered.filed _ _ (places_of_row hrow)
  rw [← hcode]
  exact h.draft code row hrow

/-- What is filed under a code is in order: a stored page has a draft, and nothing is filed of
    anything else. -/
structure IsFiled (t : Tables) (c : String) : Prop where
  /-- A stored page has a draft. -/
  draft : (t.places c).isSome → (t.metadataOf .draft c).isSome
  /-- Metadata is that of a stored page. -/
  metadata : ∀ e, (t.metadataOf e c).isSome → (t.places c).isSome
  /-- Widgets are those of a stored page. -/
  widgets : ∀ e, ((t.widgets.get e).get? c).isSome → (t.places c).isSome

theorem IsLinked.isFiled (h : t.IsLinked) (hordered : t.places.IsOrdered) (c : String) :
    t.IsFiled c where
  draft := h.isSome_draft hordered
  metadata e hrow := by
    rw [isSome_places_eq]
    exact h.metadata e c hrow
  widgets e hrows := by
    rw [isSome_places_eq]
    exact h.widgets e c hrows

/-- Tables are linked when parents are pages and what is filed under every code is in order. -/
theorem isLinked_of_isFiled (hordered : t.places.IsOrdered) (hclosed : t.places.IsClosed)
    (h : ∀ c, t.IsFiled c) : t.IsLinked := by
  refine ⟨fun c row hrow q hq => ?_, fun c row hrow => ?_, fun e c hc => ?_, fun e c hc => ?_⟩
  · rw [← isSome_places_eq]
    exact hclosed c q (Places.parentOf_eq_some_iff.2 ⟨_, places_of_row hrow, hq⟩)
  · have hplace := places_of_row hrow
    obtain rfl : row.code = c := hordered.filed _ _ hplace
    exact (h row.code).draft (Option.isSome_of_eq_some hplace)
  · rw [← isSome_places_eq]
    exact (h c).metadata e hc
  · rw [← isSome_places_eq]
    exact (h c).widgets e hc

theorem IsFiled.congr (h : t.IsFiled code) (hsame : t.FilesSame t' code) : t'.IsFiled code where
  draft hstored := by
    rw [hsame.stored] at hstored
    rw [hsame.metadata]
    exact h.draft hstored
  metadata e hrow := by
    rw [hsame.metadata] at hrow
    rw [hsame.stored]
    exact h.metadata e hrow
  widgets e hrows := by
    rw [hsame.widgets] at hrows
    rw [hsame.stored]
    exact h.widgets e hrows

/-- All is in order about a stored page with a draft. -/
theorem IsFiled.of_draft (hstored : (t.places code).isSome)
    (hdraft : (t.metadataOf .draft code).isSome) : t.IsFiled code where
  draft _ := hdraft
  metadata _ _ := hstored
  widgets _ _ := hstored

/-- All is in order about a page that is gone with all that was filed of it. -/
theorem IsFiled.of_gone (hgone : t.places code = none)
    (hempty : ∀ e, t.metadataOf e code = none ∧ (t.widgets.get e).get? code = none) :
    t.IsFiled code where
  draft hstored := by
    rw [hgone] at hstored
    cases hstored
  metadata e hrow := by
    rw [(hempty e).1] at hrow
    cases hrow
  widgets e hrows := by
    rw [(hempty e).2] at hrows
    cases hrows

/-- Tables stay linked when pages change their places only. -/
theorem IsLinked.of_pages (hlinked : t.IsLinked) (hordered : t.places.IsOrdered)
    (hfollow : t.places.Follow t'.places) (hmetadata : t'.metadata = t.metadata)
    (hwidgets : t'.widgets = t.widgets)
    (hstored : ∀ c, (t'.places c).isSome = (t.places c).isSome) : t'.IsLinked := by
  refine isLinked_of_isFiled (hfollow.isOrdered hordered) (hfollow.isClosed hlinked.isClosed)
    fun c => (hlinked.isFiled hordered c).congr ⟨hstored c, fun e => ?_, fun e => ?_⟩
  · unfold metadataOf
    rw [hmetadata]
  · rw [hwidgets]

/-- Tables stay linked when one page is touched at most and is in order after that. -/
theorem IsLinked.of_spares (hlinked : t.IsLinked) (hordered : t.places.IsOrdered)
    (hfollow : t.places.Follow t'.places) (hspares : t.Spares t' code)
    (hcode : t'.IsFiled code) : t'.IsLinked := by
  refine isLinked_of_isFiled (hfollow.isOrdered hordered) (hfollow.isClosed hlinked.isClosed)
    fun c => ?_
  by_cases hc : c = code
  · rw [hc]
    exact hcode
  · exact (hlinked.isFiled hordered c).congr (hspares c hc)

/-- Tables stay linked when the editions of one page are touched and it has a draft after
    that. -/
theorem IsLinked.of_draft (hlinked : t.IsLinked) (hordered : t.places.IsOrdered)
    (hpages : t'.pages = t.pages) (hspares : t.Spares t' code) (hstored : (t.places code).isSome)
    (hdraft : (t'.metadataOf .draft code).isSome) : t'.IsLinked := by
  refine hlinked.of_spares hordered (.of_eq (places_congr hpages)) hspares (.of_draft ?_ hdraft)
  rw [places_congr hpages]
  exact hstored

end Tables

-- ════════════════════════════════════════════════════════════════════════
-- Edits
-- ════════════════════════════════════════════════════════════════════════

namespace RowEdit

open Tables

variable {t t' : Tables} {r : Registry} {time : Timestamp} {page : Page} {code : String}

/-- An edit has a result, and the references in it lead somewhere. -/
def Succeeds {α : Type} (edit : Tables → Except Error (α × Tables)) (t : Tables) : Prop :=
  ∃ a t', edit t = .ok (a, t') ∧ t'.IsLinked

/-- An edit succeeds when it has a result, and linked tables come of it whenever it has one. -/
theorem succeeds_of_linked {α : Type} {edit : Tables → Except Error (α × Tables)}
    (hedit : ∃ result, edit t = .ok result)
    (hlinked : ∀ a t', edit t = .ok (a, t') → t'.IsLinked) : Succeeds edit t := by
  obtain ⟨⟨a, t'⟩, hresult⟩ := hedit
  exact ⟨a, t', hresult, hlinked a t' hresult⟩

/-- A new page is stored below a page that is stored. -/
theorem succeeds_addPage (hlinked : t.IsLinked) (hordered : t.places.IsOrdered) {parent : String}
    (hfree : t.places page.code = none) (hparent : page.parent = some parent)
    (hstored : (t.places parent).isSome) (honline : page.online = none) :
    Succeeds (addPage r time page) t := by
  have hnone := places_eq_none_iff.1 hfree
  refine succeeds_of_linked ?_ fun stored t' hedit => ?_
  · unfold addPage
    rw [honline]
    refine exists_bind_ok (require_eq_ok.2 (insertPage_eq_ok.2 ⟨hnone, rfl⟩)) ?_
    obtain ⟨u, hversion⟩ := exists_insertVersion
      (t := { t with pages := t.pages.insert page.code _ })
      (hlinked.metadataOf_eq_none hnone .draft) (hlinked.widgetsOf_eq_empty hnone .draft)
      (page.draft.stamped time)
    exact exists_bind_ok (require_eq_ok.2 hversion) ⟨_, rfl⟩
  · obtain ⟨-, hpages, hanswer⟩ := pages_of_addPage hedit
    obtain ⟨-, hversion⟩ := insertVersion_of_addPage honline hedit
    obtain ⟨htouches, hmetadata, -⟩ := touches_of_insertVersion hversion
    obtain ⟨hfits, hplaces⟩ := fits_of_addPage hordered hparent hstored hedit
    refine hlinked.of_spares hordered (.of_fits hfits hplaces)
      ((spares_pages fun c hc => ?_).trans htouches.spares) (.of_draft ?_ ?_)
    · rw [Keyed.get?_insert, if_neg hc]
    · rw [isSome_places_eq, hpages, Keyed.get?_insert_self]
      rfl
    · rw [hmetadata]
      rfl

/-- The draft of a page is replaced, when the page is handed over with the place that it has. -/
theorem succeeds_updatePage (hlinked : t.IsLinked) (hordered : t.places.IsOrdered)
    (hplace : t.places page.code = some page.toPlacement) :
    Succeeds (updatePage r time page) t := by
  have hstored : (t.places page.code).isSome := by
    rw [hplace]
    rfl
  obtain ⟨hdropped, hnone, hempty⟩ := touches_dropEdition t .draft page.code
  refine succeeds_of_linked ?_ fun draft t' hedit => ?_
  · obtain ⟨u, hversion⟩ := exists_insertVersion hnone hempty (page.draft.stamped time)
    have hpages := (hdropped.trans (touches_of_insertVersion hversion).1).pages
    have hrow : (u.pages.get? page.code).isSome := by
      rwa [hpages, ← isSome_places_eq]
    exact exists_bind_ok (require_eq_ok.2 hversion)
      (exists_bind_ok (require_eq_ok.2 (modifyPage_eq_ok.2 ⟨hrow, rfl⟩)) ⟨_, rfl⟩)
  · have hplaces := places_of_updatePage_self hplace hedit
    obtain ⟨-, -, u, htouches, hmetadata, -, rfl⟩ := touches_of_updatePage hedit
    refine hlinked.of_spares hordered (.of_eq hplaces)
      (htouches.spares.trans (spares_pages fun c hc => ?_)) (.of_draft ?_ ?_)
    · rw [Keyed.get?_modify, if_neg hc, htouches.pages]
    · rw [hplaces]
      exact hstored
    · show (u.metadataOf .draft page.code).isSome
      rw [hmetadata]
      rfl

theorem succeeds_updatePageGroup (hlinked : t.IsLinked) (hordered : t.places.IsOrdered)
    (hstored : (t.places code).isSome) (group : String) :
    Succeeds (updatePageGroup code group) t := by
  refine succeeds_of_linked ?_ fun u t' hedit => ?_
  · rw [isSome_places_eq] at hstored
    exact exists_bind_ok (require_eq_ok.2 (modifyPage_eq_ok.2 ⟨hstored, rfl⟩)) ⟨_, rfl⟩
  · have hplaces := places_of_updatePageGroup hedit
    obtain ⟨-, rfl⟩ := pages_of_updatePageGroup hedit
    exact hlinked.of_pages hordered (.of_eq hplaces) rfl rfl fun c => by rw [hplaces]

/-- A page without children that is stored can be deleted. -/
theorem exists_deletePage (hstored : (t.pages.get? code).isSome)
    (hleaf : t.hasChildren code = false) : ∃ deleted, deletePage code t = .ok deleted := by
  obtain ⟨row, hrow⟩ := Option.isSome_iff_exists.1 hstored
  unfold deletePage
  rw [if_neg (by simp [hleaf])]
  refine exists_bind_ok (require_eq_ok.2 (deletePage_eq_ok.2 ⟨hrow, rfl⟩)) ?_
  dsimp only
  split <;> exact ⟨_, rfl⟩

/-- A page without children is deleted from below its parent. -/
theorem succeeds_deletePage (hlinked : t.IsLinked) (hordered : t.places.IsOrdered)
    {place : Placement} {parent : String} (hplace : t.places code = some place)
    (hparent : place.parent = some parent) (hleaf : t.hasChildren code = false) :
    Succeeds (deletePage code) t := by
  refine succeeds_of_linked ?_ fun u t' hedit => ?_
  · obtain ⟨row, hrow, -⟩ := places_eq_some_iff.1 hplace
    exact exists_deletePage (Option.isSome_of_eq_some hrow) hleaf
  · obtain ⟨hfits, hplaces⟩ := places_of_deletePage hordered hplace hparent hedit
    obtain ⟨hspares, hgone⟩ := spares_of_deletePage hedit
    refine hlinked.of_spares hordered (.of_fits hfits hplaces) hspares (.of_gone ?_ hgone)
    rw [hplaces]
    exact if_pos rfl

/-- A planned move is carried out. -/
theorem succeeds_movePage (hlinked : t.IsLinked) (hordered : t.places.IsOrdered)
    {newParent : String} {planned : Option ReparentPlan}
    (hplan : t.siblings.planReparent code newParent = .ok planned) :
    Succeeds (movePage code newParent) t := by
  obtain ⟨t', hedit⟩ := exists_movePage hplan
  refine ⟨planned, t', hedit, ?_⟩
  have hplaces := places_of_movePage hordered hedit
  obtain ⟨hmetadata, hwidgets⟩ := editions_of_movePage hedit
  cases planned with
  | none =>
    rw [hplaces]
    exact hlinked
  | some plan =>
    obtain ⟨-, -, hfits, hplaces⟩ := hplaces
    refine hlinked.of_pages hordered (.of_fits hfits hplaces) hmetadata hwidgets fun c => ?_
    rw [hplaces, Places.isSome_apply_reparent]

/-- A planned exchange of neighbours is carried out. -/
theorem exists_swapPositions (hordered : t.places.IsOrdered) {up : Bool}
    {planned : Option SwapPlan} (hplan : t.siblings.planSwap code up = .ok planned) :
    ∃ t', swapPositions code up t = .ok (planned, t') := by
  cases planned with
  | none => exact ⟨t, bind_eq_ok.2 ⟨none, hplan, rfl⟩⟩
  | some plan =>
    obtain ⟨hfits, -⟩ :=
      Siblings.fits_of_planSwap (isExact_siblings hordered.filed).isFaithful hordered hplan
    cases hfits with
    | swap hup hdown =>
      have hrow : (t.pages.get? plan.up).isSome := by
        rw [← isSome_places_eq]
        exact Option.isSome_of_eq_some hup
      have hrow' : (t.pages.get? plan.down).isSome := by
        rw [← isSome_places_eq]
        exact Option.isSome_of_eq_some hdown
      obtain ⟨u, hu⟩ : ∃ u, t.offsetPosition plan.up (-1) = .ok u :=
        ⟨_, modifyPage_eq_ok.2 ⟨hrow, rfl⟩⟩
      obtain ⟨v, hv⟩ : ∃ v, u.offsetPosition plan.down 1 = .ok v := by
        obtain ⟨-, rfl⟩ := modifyPage_eq_ok.1 hu
        refine ⟨_, modifyPage_eq_ok.2 ⟨?_, rfl⟩⟩
        rw [Keyed.get?_modify]
        split
        · rwa [Option.isSome_map]
        · exact hrow'
      exact ⟨v, bind_eq_ok.2 ⟨some plan, hplan, bind_eq_ok.2 ⟨u, require_eq_ok.2 hu,
        bind_eq_ok.2 ⟨v, require_eq_ok.2 hv, rfl⟩⟩⟩⟩

/-- A page that is stored is exchanged with a neighbour, if it has one. -/
theorem succeeds_swapPositions (hlinked : t.IsLinked) (hordered : t.places.IsOrdered)
    (hstored : (t.places code).isSome) (up : Bool) : Succeeds (swapPositions code up) t := by
  obtain ⟨planned, hplan⟩ := Siblings.exists_planSwap (s := t.siblings) hstored up
  refine succeeds_of_linked ?_ fun swapped t' hedit => ?_
  · obtain ⟨t', hedit⟩ := exists_swapPositions hordered hplan
    exact ⟨_, hedit⟩
  · have hplaces := places_of_swapPositions hordered hedit
    obtain ⟨hmetadata, hwidgets⟩ := editions_of_swapPositions hedit
    cases swapped with
    | none =>
      rw [hplaces]
      exact hlinked
    | some plan =>
      obtain ⟨-, hfits, hplaces⟩ := hplaces
      refine hlinked.of_pages hordered (.of_fits hfits hplaces) hmetadata hwidgets fun c => ?_
      rw [hplaces, Places.isSome_apply_swap]

/-- A draft that is stored goes online, whatever was online before. -/
theorem exists_setPageOnline (hdraft : (t.metadataOf .draft code).isSome) (time : Timestamp) :
    ∃ t', setPageOnline time code t = .ok (time, t') := by
  have hneq : ¬ (Edition.draft = .online ∧ code = code) := by simp
  have hneq' : ¬ (Edition.online = .draft ∧ code = code) := by simp
  obtain ⟨hdropped, hnone, hempty⟩ := touches_dropEdition t .online code
  obtain ⟨u, hcopy⟩ := exists_copyDraftToOnline
    (by rwa [hdropped.metadata _ _ hneq]) hnone hempty
  obtain ⟨hcopied, ⟨row, -, honline⟩, -⟩ := touches_of_copyDraftToOnline hcopy
  rw [← hdropped.metadata _ _ hneq, ← hcopied.metadata _ _ hneq] at hdraft
  obtain ⟨v, hstampDraft⟩ := exists_stampMetadata hdraft time
  obtain ⟨hstamped, -, -⟩ := touches_of_stampMetadata hstampDraft
  rw [← hstamped.metadata _ _ hneq'] at honline
  obtain ⟨w, hstampOnline⟩ := exists_stampMetadata (Option.isSome_of_eq_some honline) time
  refine ⟨w, ?_⟩
  unfold setPageOnline
  dsimp only
  rw [hcopy]
  simp only [bind_eq_ok, require_eq_ok]
  exact ⟨(), trivial, v, hstampDraft, w, hstampOnline, rfl⟩

/-- The draft of a page that is stored goes online. -/
theorem succeeds_setPageOnline (hlinked : t.IsLinked) (hordered : t.places.IsOrdered)
    (hstored : (t.places code).isSome) : Succeeds (setPageOnline time code) t := by
  obtain ⟨t', hedit⟩ := exists_setPageOnline (hlinked.isSome_draft hordered hstored) time
  obtain ⟨-, hpages, hspares, ⟨row, -, hmetadata⟩, -⟩ := touches_of_setPageOnline hedit
  refine ⟨time, t', hedit, hlinked.of_draft hordered hpages hspares hstored ?_⟩
  rw [hmetadata]
  rfl

theorem succeeds_setPageOffline (hlinked : t.IsLinked) (hordered : t.places.IsOrdered)
    (hstored : (t.places code).isSome) : Succeeds (setPageOffline code) t := by
  obtain ⟨hdropped, -, -⟩ := touches_dropEdition t .online code
  refine ⟨(), _, ?_, hlinked.of_draft hordered hdropped.pages hdropped.spares hstored ?_⟩
  · have hcontains : t.pages.contains code = true := by
      rwa [isSome_places_eq] at hstored
    unfold setPageOffline
    rw [if_pos hcontains]
  · rw [hdropped.metadata _ _ (by simp)]
    exact hlinked.isSome_draft hordered hstored

/-- Tables stay linked when the widgets of a draft are changed and the draft is stamped. -/
theorem exists_stamped (hlinked : t.IsLinked) (hordered : t.places.IsOrdered)
    (hstored : (t.places code).isSome) (htouches : t.Touches t' .draft code)
    (hsame : t'.metadataOf .draft code = t.metadataOf .draft code) (time : Timestamp) :
    ∃ u, t'.stampMetadata .draft code time = .ok u ∧ u.IsLinked := by
  have hdraft := hlinked.isSome_draft hordered hstored
  rw [← hsame] at hdraft
  obtain ⟨u, hstamp⟩ := exists_stampMetadata hdraft time
  obtain ⟨hstamped, ⟨row, -, hrow⟩, -⟩ := touches_of_stampMetadata hstamp
  have hall := htouches.trans hstamped
  refine ⟨u, hstamp, hlinked.of_draft hordered hall.pages hall.spares hstored ?_⟩
  rw [hrow]
  rfl

/-- A draft frame is filled, whatever it held. -/
theorem succeeds_joinWidget (hlinked : t.IsLinked) (hordered : t.places.IsOrdered)
    (hstored : (t.places code).isSome) (frame : Int) (w : Widget) :
    Succeeds (joinWidget r time code frame w) t := by
  obtain ⟨hdelete, hsame, herase⟩ := touches_deleteWidget t .draft code frame
  have hfree : ((t.deleteWidget .draft code frame).widgetsOf .draft code).get? frame = none := by
    rw [herase, Keyed.get?_erase, if_pos rfl]
  obtain ⟨u, hinsert⟩ := exists_insertWidget hfree (storedWidget r w)
  obtain ⟨hfill, hsame', -⟩ := touches_of_insertWidget hinsert
  obtain ⟨v, hstamp, hlinked'⟩ := exists_stamped hlinked hordered hstored (hdelete.trans hfill)
    (hsame'.trans hsame) time
  refine ⟨time, v, ?_, hlinked'⟩
  simp only [joinWidget, bind_eq_ok, require_eq_ok]
  exact ⟨u, hinsert, v, hstamp, rfl⟩

theorem succeeds_removeWidget (hlinked : t.IsLinked) (hordered : t.places.IsOrdered)
    (hstored : (t.places code).isSome) (frame : Int) :
    Succeeds (removeWidget time code frame) t := by
  obtain ⟨hdelete, hsame, -⟩ := touches_deleteWidget t .draft code frame
  obtain ⟨v, hstamp, hlinked'⟩ :=
    exists_stamped hlinked hordered hstored hdelete hsame time
  refine ⟨time, v, ?_, hlinked'⟩
  simp only [removeWidget, bind_eq_ok, require_eq_ok]
  exact ⟨v, hstamp, rfl⟩

/-- Two draft frames are exchanged by way of the parking frame, when that is free. -/
theorem succeeds_moveWidget (hlinked : t.IsLinked) (hordered : t.places.IsOrdered)
    (hstored : (t.places code).isSome) {parkingFrame source target : Int}
    (hsource : source ≠ parkingFrame) (htarget : target ≠ parkingFrame)
    (hfree : t.IsUnparked parkingFrame) :
    Succeeds (moveWidget parkingFrame time code source target) t := by
  obtain ⟨u, hexchange, hspec⟩ := exchangeFrames_spec hsource htarget (hfree code)
  obtain ⟨v, hstamp, hlinked'⟩ :=
    exists_stamped hlinked hordered hstored hspec.touches (hspec.metadataOf_eq .draft) time
  refine ⟨time, v, ?_, hlinked'⟩
  simp only [moveWidget, bind_eq_ok, require_eq_ok]
  exact ⟨u, hexchange, v, hstamp, rfl⟩

end RowEdit

end Sitemap
