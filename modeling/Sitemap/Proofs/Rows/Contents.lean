import Sitemap.Proofs.Page.Content
import Sitemap.Proofs.Rows.Touches

/-!
# Contents of stored pages

What the edits of the rows do to what the stored pages show, and that no edit leaves a
widget in the parking frame.

## Main definitions

- `Tables.contents` — what the stored pages show, by code
- `Tables.IsUnparked` — no draft has a widget in the parking frame

## Main results

- `Tables.loadVersion_asStored` — a version is loaded as the rows hold it
- `RowEdit.loadVersion_of_addPage`, `RowEdit.loadVersion_of_updatePage` — so are the editions of a
  new page, and a draft that was rewritten
- `RowEdit.contents_of_updatePage`, `RowEdit.contents_of_setPageOnline`,
  `RowEdit.contents_of_moveWidget` and their like — the contents after an edit

## Design notes

Rows may hold widgets in frames that the model of their page does not have. Nothing here
assumes that there are none: such widgets are neither shown nor touched, and they go online
and are dropped together with the others.
-/

namespace Sitemap

namespace Tables

/-- What the stored pages show, by code. A page without draft metadata shows nothing. -/
def contents (t : Tables) (r : Registry) : Contents := fun code =>
  (t.pages.get? code).bind fun row =>
    (t.loadVersion r .draft code).map fun draft =>
      ⟨row.group, draft, t.loadVersion r .online code⟩

/-- No draft has a widget in the parking frame. -/
def IsUnparked (t : Tables) (parkingFrame : Int) : Prop :=
  ∀ code, (t.widgetsOf .draft code).get? parkingFrame = none

variable {t t' : Tables} {r : Registry} {edition e : Edition} {code c : String}
  {parkingFrame : Int}

/-- A version is loaded from its metadata and its widgets. -/
theorem loadVersion_congr (hmetadata : t'.metadataOf e c = t.metadataOf e c)
    (hwidgets : t'.widgetsOf e c = t.widgetsOf e c) :
    t'.loadVersion r e c = t.loadVersion r e c := by
  unfold loadVersion
  rw [hmetadata, hwidgets]

/-- The other versions are loaded as before. -/
theorem Touches.loadVersion (h : t.Touches t' edition code) (hne : ¬ (e = edition ∧ c = code)) :
    t'.loadVersion r e c = t.loadVersion r e c :=
  loadVersion_congr (h.metadata e c hne) (h.widgets e c hne)

/-- A version with metadata shows the widgets in the frames of its model. -/
theorem loadVersion_of_metadata {row : Metadata} (h : t.metadataOf e c = some row) :
    t.loadVersion r e c = some
      { toMetadata := row
        slots := .ofRows ((r.frameCount row.model).getD 0) (t.widgetsOf e c).entries } := by
  rw [loadVersion, h]
  rfl

theorem loadVersion_eq_none_iff : t.loadVersion r e c = none ↔ t.metadataOf e c = none :=
  Option.map_eq_none_iff

theorem loadVersion_eq_some_iff {v : PageVersion} : t.loadVersion r e c = some v ↔
    t.metadataOf e c = some v.toMetadata ∧
      v.slots = .ofRows ((r.frameCount v.model).getD 0) (t.widgetsOf e c).entries := by
  rw [loadVersion, Option.map_eq_some_iff]
  constructor
  · rintro ⟨row, hrow, rfl⟩
    exact ⟨hrow, rfl⟩
  · rintro ⟨hrow, hslots⟩
    refine ⟨_, hrow, ?_⟩
    rw [← hslots]

/-- A widget is shown in a frame of a version exactly when it is stored there. -/
theorem get?_widgetsOf_of_loadVersion {v : PageVersion} {frame : Int}
    (hload : t.loadVersion r e c = some v) (hframe : v.slots.containsFrame frame = true) :
    (t.widgetsOf e c).get? frame = v.slots.widgetAt frame := by
  obtain ⟨-, hslots⟩ := loadVersion_eq_some_iff.1 hload
  rw [Slots.containsFrame_iff] at hframe
  rw [hslots, Slots.frameCount_ofRows] at hframe
  rw [hslots, Slots.widgetAt_ofRows, if_pos hframe]

/-- Widgets that a storable version was stored with are found in their frames. -/
theorem get?_storedRows (v : PageVersion) (frame : Int) (m : Keyed Int Widget) :
    ((v.slots.occupied.map fun e => (e.1, storedWidget r e.2)).foldl
        (fun m e => m.insert e.1 e.2) m).get? frame =
      ((v.slots.widgetAt frame).map (storedWidget r)).or (m.get? frame) := by
  have hascend := Keyed.keysAscend_map (fun _ w => storedWidget r w) v.slots.keysAscend_occupied
  rw [Keyed.get?_foldl_insert hascend, Keyed.find_map (fun _ w => storedWidget r w),
    Slots.find_occupied]

/-- A version with the frames of its model is loaded as the rows hold it. -/
theorem loadVersion_asStored {v : PageVersion}
    (hframes : r.frameCount v.model = some v.slots.frameCount)
    (hempty : t.widgetsOf edition code = ∅) (h : t.insertVersion r edition code v = .ok t') :
    t'.loadVersion r edition code = some (v.asStored r) := by
  obtain ⟨-, hmetadata, hwidgets⟩ := touches_of_insertVersion h
  rw [loadVersion_of_metadata hmetadata, hwidgets, hempty, hframes, Option.getD_some]
  obtain ⟨metadata, slots⟩ := v
  unfold PageVersion.asStored
  congr 2
  refine Slots.ext_widgetAt ?_ fun frame => ?_
  · rw [Slots.frameCount_ofRows, Slots.frameCount_map]
  · rw [Slots.widgetAt_ofRows, get?_storedRows, Keyed.get?_empty, Option.or_none,
      Slots.widgetAt_map]
    split
    · rfl
    · next hframe =>
      rw [Slots.widgetAt_eq_none_of_not (mt Slots.containsFrame_iff.1 hframe), Option.map_none]

/-- A storable version puts no widget into a frame that no model has. -/
theorem isUnparked_of_insertVersion {v : PageVersion} (hframe : parkingFrame < 0)
    (hfree : t.IsUnparked parkingFrame) (h : t.insertVersion r edition code v = .ok t') :
    t'.IsUnparked parkingFrame := by
  obtain ⟨htouches, -, hwidgets⟩ := touches_of_insertVersion h
  intro c
  by_cases hc : Edition.draft = edition ∧ c = code
  · obtain ⟨rfl, rfl⟩ := hc
    have hnone : v.slots.widgetAt parkingFrame = none :=
      Slots.widgetAt_eq_none_of_not (mt Slots.containsFrame_iff.1 (by omega))
    rw [hwidgets, get?_storedRows, hnone, hfree c]
    rfl
  · rw [htouches.widgets _ _ hc]
    exact hfree c

-- ════════════════════════════════════════════════════════════════════════
-- Contents
-- ════════════════════════════════════════════════════════════════════════

theorem contents_eq_some_iff {k : PageContent} : t.contents r code = some k ↔
    ∃ row, t.pages.get? code = some row ∧ row.group = k.group ∧
      t.loadVersion r .draft code = some k.draft ∧ t.loadVersion r .online code = k.online := by
  unfold contents
  rw [Option.bind_eq_some_iff]
  refine exists_congr fun row => and_congr_right fun _ => ?_
  rw [Option.map_eq_some_iff]
  constructor
  · rintro ⟨draft, hdraft, rfl⟩
    exact ⟨rfl, hdraft, rfl⟩
  · rintro ⟨hgroup, hdraft, honline⟩
    refine ⟨k.draft, hdraft, ?_⟩
    rw [hgroup, honline]

/-- A page is shown with its group and its versions. -/
theorem contents_congr (hgroup : (t'.pages.get? c).map (·.group) = (t.pages.get? c).map (·.group))
    (hdraft : t'.loadVersion r .draft c = t.loadVersion r .draft c)
    (honline : t'.loadVersion r .online c = t.loadVersion r .online c) :
    t'.contents r c = t.contents r c := by
  unfold contents
  rw [hdraft, honline]
  cases hrow : t.pages.get? c with
  | none =>
    rw [hrow] at hgroup
    rw [Option.map_eq_none_iff.1 hgroup]
  | some row =>
    rw [hrow] at hgroup
    obtain ⟨row', hrow', heq⟩ := Option.map_eq_some_iff.1 hgroup
    rw [hrow', Option.bind_some, Option.bind_some, heq]

/-- A page that is not stored shows nothing. -/
theorem contents_eq_none (h : t.pages.get? code = none) : t.contents r code = none := by
  rw [contents, h]
  rfl

/-- A touch changes what one page shows, when the rows of pages stay. -/
theorem Touches.contents (h : t.Touches t' edition code) (hc : c ≠ code) :
    t'.contents r c = t.contents r c :=
  contents_congr (by rw [h.pages]) (h.loadVersion fun he => hc he.2)
    (h.loadVersion fun he => hc he.2)

/-- Widgets that are filed the same are read the same. -/
theorem FilesSame.widgetsOf (h : t.FilesSame t' c) (e : Edition) :
    t'.widgetsOf e c = t.widgetsOf e c := by
  unfold Tables.widgetsOf
  rw [h.widgets e]

/-- A page of which the same is filed shows the same, when its group stays. -/
theorem FilesSame.contents (h : t.FilesSame t' c)
    (hgroup : (t'.pages.get? c).map (·.group) = (t.pages.get? c).map (·.group)) :
    t'.contents r c = t.contents r c :=
  contents_congr hgroup (loadVersion_congr (h.metadata .draft) (h.widgetsOf .draft))
    (loadVersion_congr (h.metadata .online) (h.widgetsOf .online))

/-- When the slots of a draft are changed and the draft is stamped, the page shows that. -/
theorem contents_of_draft {row : Metadata} {time : Timestamp} {change : Slots → Slots}
    (htouches : t.Touches t' .draft code) (hrow : t.metadataOf .draft code = some row)
    (hrow' : t'.metadataOf .draft code = some { row with updatedAt := some time })
    (hslots : ∀ n, t.loadVersion r .draft code = some { toMetadata := row, slots := n } →
      Slots.ofRows ((r.frameCount row.model).getD 0) (t'.widgetsOf .draft code).entries =
        change n) :
    t'.contents r = fun c =>
      if c = code then (t.contents r c).map fun k => k.withSlots time change
      else t.contents r c := by
  funext c
  split
  · next hc =>
    subst hc
    have hload := loadVersion_of_metadata (r := r) hrow
    have hload' := loadVersion_of_metadata (r := r) hrow'
    have honline : t'.loadVersion r .online c = t.loadVersion r .online c :=
      htouches.loadVersion (by simp)
    unfold contents
    rw [htouches.pages, hload, hload', honline]
    cases t.pages.get? c with
    | none => rfl
    | some found =>
      dsimp only [Option.bind_some, Option.map_some, PageContent.withSlots]
      rw [hslots _ hload]
  · next hc => exact htouches.contents hc

end Tables

-- ════════════════════════════════════════════════════════════════════════
-- Edits of pages
-- ════════════════════════════════════════════════════════════════════════

namespace RowEdit

open Tables

variable {t t' : Tables} {r : Registry} {time : Timestamp} {page : Page} {code : String}
  {parkingFrame : Int}

/-- A page that has not been online is stored as one edition. -/
theorem insertVersion_of_addPage (honline : page.online = none) {stored : Page}
    (h : addPage r time page t = .ok (stored, t')) :
    stored.content = ⟨page.group, page.draft.stamped time, none⟩ ∧
      { t with pages := t.pages.insert page.code ⟨stored.toPlacement, page.group⟩ }.insertVersion
        r .draft page.code (page.draft.stamped time) = .ok t' := by
  obtain ⟨-, rfl, u, hdraft, honline'⟩ := steps_of_addPage h
  rw [honline] at honline'
  obtain ⟨-, rfl⟩ | ⟨v, hv, -⟩ := honline'
  · rw [Page.content, honline]
    exact ⟨rfl, hdraft⟩
  · cases hv

/-- Each edition of a new page is loaded as the rows hold what was answered. -/
theorem loadVersion_of_addPage (hlinked : t.IsLinked)
    (hframes : ∀ e v, page.version e = some v → r.frameCount v.model = some v.slots.frameCount)
    {stored : Page} (h : addPage r time page t = .ok (stored, t')) (e : Edition) :
    t'.loadVersion r e page.code = (stored.version e).map fun v => v.asStored r := by
  obtain ⟨hfree, hstored, u, hdraft, hsteps⟩ := steps_of_addPage h
  have hempty := hlinked.widgetsOf_eq_empty hfree
  obtain ⟨htouches, -⟩ := touches_of_insertVersion hdraft
  -- the time of the write does not change the frames
  have hknown : ∀ e v, stored.version e = some v →
      r.frameCount v.model = some v.slots.frameCount := by
    subst hstored
    intro e v hv
    cases e with
    | draft =>
      cases hv
      exact hframes .draft page.draft rfl
    | online =>
      obtain ⟨w, hw, rfl⟩ := Option.map_eq_some_iff.1 hv
      exact hframes .online w hw
  have hloaded : u.loadVersion r .draft page.code = some (stored.draft.asStored r) := by
    refine loadVersion_asStored (hknown .draft stored.draft rfl) ?_ hdraft
    exact hempty .draft
  obtain ⟨hnone, rfl⟩ | ⟨v, hversion, honline⟩ := hsteps
  · cases e with
    | draft => exact hloaded
    | online =>
      have hmetadata : t'.metadataOf .online page.code = none :=
        (htouches.metadata .online page.code (by simp)).trans (hlinked.metadataOf_eq_none hfree _)
      rw [loadVersion, hmetadata, Page.version, hnone]
      rfl
  · cases e with
    | draft =>
      rw [(touches_of_insertVersion honline).1.loadVersion (by simp)]
      exact hloaded
    | online =>
      have hfresh : u.widgetsOf .online page.code = ∅ :=
        (htouches.widgets .online page.code (by simp)).trans (hempty .online)
      rw [loadVersion_asStored (hknown .online v hversion) hfresh honline, Page.version, hversion]
      rfl

/-- A new page shows what it was added with. -/
theorem contents_of_addPage (hlinked : t.IsLinked) (honline : page.online = none)
    (hstorable : page.draft.IsStorable r) {stored : Page}
    (h : addPage r time page t = .ok (stored, t')) :
    t'.contents r = fun c =>
      if c = page.code then some stored.content else t.contents r c := by
  have hframes : ∀ e v, page.version e = some v →
      r.frameCount v.model = some v.slots.frameCount := by
    intro e v hv
    cases e with
    | draft =>
      cases hv
      exact hstorable.frames
    | online =>
      rw [Page.version, honline] at hv
      cases hv
  have hloaded := loadVersion_of_addPage hlinked hframes h
  obtain ⟨-, hpages, -⟩ := pages_of_addPage h
  obtain ⟨hcontent, hversion⟩ := insertVersion_of_addPage honline h
  obtain ⟨-, hdraft, honline'⟩ := PageContent.mk.inj hcontent
  have htouches := (touches_of_insertVersion hversion).1
  funext c
  split
  · next hc =>
    subst hc
    rw [contents_eq_some_iff, hpages, Keyed.get?_insert_self, hcontent]
    refine ⟨_, rfl, rfl, ?_, ?_⟩
    · rw [hloaded, Page.version, hdraft, Option.map_some, (hstorable.stamped time).asStored]
    · rw [hloaded, Page.version, honline', Option.map_none]
  · next hc =>
    refine contents_congr ?_ (htouches.loadVersion fun he => hc he.2)
      (htouches.loadVersion fun he => hc he.2)
    rw [hpages, Keyed.get?_insert, if_neg hc]

/-- A new page has no widget in the parking frame. -/
theorem isUnparked_of_addPage (honline : page.online = none) (hframe : parkingFrame < 0)
    (hfree : t.IsUnparked parkingFrame) {stored : Page}
    (h : addPage r time page t = .ok (stored, t')) : t'.IsUnparked parkingFrame := by
  refine isUnparked_of_insertVersion hframe ?_ (insertVersion_of_addPage honline h).2
  exact hfree

/-- Besides the places, deleting a page drops the row and the editions of that page only. -/
theorem contents_of_deletePage {u : Unit} (h : deletePage code t = .ok (u, t')) :
    (t'.contents r = fun c => if c = code then none else t.contents r c) ∧
      (t.IsUnparked parkingFrame → t'.IsUnparked parkingFrame) := by
  obtain ⟨hspares, hgone⟩ := spares_of_deletePage h
  refine ⟨funext fun c => ?_, fun hfree c => ?_⟩
  · have hgroup := group_of_deletePage h c
    split
    · next hc =>
      rw [if_pos hc] at hgroup
      exact contents_eq_none (Option.map_eq_none_iff.1 hgroup)
    · next hc =>
      rw [if_neg hc] at hgroup
      exact (hspares c hc).contents hgroup
  · by_cases hc : c = code
    · rw [hc, widgetsOf, (hgone .draft).2]
      rfl
    · rw [(hspares c hc).widgetsOf .draft]
      exact hfree c

/-- A draft that was rewritten is loaded as the rows hold what was answered. -/
theorem loadVersion_of_updatePage
    (hframes : r.frameCount page.draft.model = some page.draft.slots.frameCount)
    {draft : PageVersion} (h : updatePage r time page t = .ok (draft, t')) :
    (t'.pages.get? page.code).isSome ∧
      t'.loadVersion r .draft page.code = some (draft.asStored r) := by
  obtain ⟨hstored, rfl, u, hversion, rfl⟩ := steps_of_updatePage h
  have hempty := (touches_dropEdition t .draft page.code).2.2
  have hloaded : u.loadVersion r .draft page.code =
      some ((page.draft.stamped time).asStored r) := loadVersion_asStored hframes hempty hversion
  refine ⟨?_, hloaded⟩
  dsimp only
  rw [Keyed.get?_modify, if_pos rfl, Option.isSome_map]
  exact hstored

/-- A rewritten page shows the new draft, and what was online. -/
theorem contents_of_updatePage (hlinked : t.IsLinked) (hordered : t.places.IsOrdered)
    (hstorable : page.draft.IsStorable r) {draft : PageVersion}
    (h : updatePage r time page t = .ok (draft, t')) :
    t'.contents r = fun c =>
      if c = page.code then (t.contents r c).map fun k => { k with group := page.group, draft }
      else t.contents r c := by
  obtain ⟨-, hloaded⟩ := loadVersion_of_updatePage hstorable.frames h
  obtain ⟨rfl, hstored, u, htouches, -, -, rfl⟩ := touches_of_updatePage h
  rw [(hstorable.stamped time).asStored] at hloaded
  funext c
  split
  · next hc =>
    subst hc
    -- the page has a draft before the edit, since its row is linked
    obtain ⟨row, hrow⟩ := Option.isSome_iff_exists.1 hstored
    have hcode : row.code = page.code := hordered.filed _ _ (places_of_row hrow)
    have hmetadata := hlinked.draft _ row hrow
    rw [hcode] at hmetadata
    obtain ⟨metadata, hmetadata⟩ := Option.isSome_iff_exists.1 hmetadata
    have hcontents : t.contents r page.code = some
        ⟨row.group, { toMetadata := metadata, slots := _ }, t.loadVersion r .online page.code⟩ :=
      contents_eq_some_iff.2 ⟨row, hrow, rfl, loadVersion_of_metadata hmetadata, rfl⟩
    rw [hcontents, Option.map_some, contents_eq_some_iff]
    dsimp only
    rw [Keyed.get?_modify, if_pos rfl, hrow]
    exact ⟨_, rfl, rfl, hloaded, htouches.loadVersion (by simp)⟩
  · next hc =>
    refine contents_congr ?_ (htouches.loadVersion fun he => hc he.2)
      (htouches.loadVersion fun he => hc he.2)
    dsimp only
    rw [Keyed.get?_modify, if_neg hc]

/-- A rewritten draft has no widget in the parking frame. -/
theorem isUnparked_of_updatePage (hframe : parkingFrame < 0) (hfree : t.IsUnparked parkingFrame)
    {draft : PageVersion} (h : updatePage r time page t = .ok (draft, t')) :
    t'.IsUnparked parkingFrame := by
  obtain ⟨-, -, u, hversion, rfl⟩ := steps_of_updatePage h
  obtain ⟨hdropped, -, hempty⟩ := touches_dropEdition t .draft page.code
  have hstored : u.IsUnparked parkingFrame := by
    refine isUnparked_of_insertVersion hframe (fun c => ?_) hversion
    by_cases hc : c = page.code
    · rw [hc, hempty]
      rfl
    · rw [hdropped.widgets _ _ fun he => hc he.2]
      exact hfree c
  exact hstored

/-- A page whose group is set shows the rest as before. -/
theorem contents_of_updatePageGroup {group : String} {u : Unit}
    (h : updatePageGroup code group t = .ok (u, t')) :
    (t'.contents r = fun c =>
      if c = code then (t.contents r c).map fun k => { k with group } else t.contents r c) ∧
      (t.IsUnparked parkingFrame → t'.IsUnparked parkingFrame) := by
  obtain ⟨-, rfl⟩ := pages_of_updatePageGroup h
  refine ⟨funext fun c => ?_, fun hfree => hfree⟩
  have hload : ∀ (pages : Keyed String PageRow) (e : Edition),
      Tables.loadVersion { t with pages } r e c = t.loadVersion r e c := fun _ _ => rfl
  unfold contents
  rw [hload, hload]
  dsimp only
  rw [Keyed.get?_modify]
  split
  · cases t.pages.get? c with
    | none => rfl
    | some row =>
      rw [Option.map_some, Option.bind_some, Option.bind_some, Option.map_map]
      rfl
  · rfl

/-- Pages that move show the same as before. -/
theorem contents_of_places (hmetadata : t'.metadata = t.metadata)
    (hwidgets : t'.widgets = t.widgets)
    (hgroup : ∀ c, (t'.pages.get? c).map (·.group) = (t.pages.get? c).map (·.group)) :
    t'.contents r = t.contents r ∧ (t.IsUnparked parkingFrame → t'.IsUnparked parkingFrame) := by
  have hsame : ∀ e c, t'.metadataOf e c = t.metadataOf e c ∧
      t'.widgetsOf e c = t.widgetsOf e c := by
    intro e c
    unfold metadataOf widgetsOf
    rw [hmetadata, hwidgets]
    exact ⟨rfl, rfl⟩
  have hload : ∀ e c, t'.loadVersion r e c = t.loadVersion r e c :=
    fun e c => loadVersion_congr (hsame e c).1 (hsame e c).2
  refine ⟨funext fun c => contents_congr (hgroup c) (hload _ _) (hload _ _), fun hfree c => ?_⟩
  rw [(hsame .draft c).2]
  exact hfree c

theorem contents_of_movePage {newParent : String} {moved : Option ReparentPlan}
    (h : movePage code newParent t = .ok (moved, t')) :
    t'.contents r = t.contents r ∧ (t.IsUnparked parkingFrame → t'.IsUnparked parkingFrame) := by
  obtain ⟨hmetadata, hwidgets⟩ := editions_of_movePage h
  exact contents_of_places hmetadata hwidgets (group_of_movePage h)

theorem contents_of_swapPositions {up : Bool} {swapped : Option SwapPlan}
    (h : swapPositions code up t = .ok (swapped, t')) :
    t'.contents r = t.contents r ∧ (t.IsUnparked parkingFrame → t'.IsUnparked parkingFrame) := by
  obtain ⟨hmetadata, hwidgets⟩ := editions_of_swapPositions h
  exact contents_of_places hmetadata hwidgets (group_of_swapPositions h)

-- ════════════════════════════════════════════════════════════════════════
-- Publication
-- ════════════════════════════════════════════════════════════════════════

/-- A published page shows its draft in both editions, and both with the same time. -/
theorem contents_of_setPageOnline {stamp : Timestamp}
    (h : setPageOnline time code t = .ok (stamp, t')) :
    stamp = time ∧
      (t'.contents r = fun c =>
        if c = code then (t.contents r c).map fun k => k.published time else t.contents r c) ∧
      (t.IsUnparked parkingFrame → t'.IsUnparked parkingFrame) := by
  obtain ⟨rfl, hpages, hspares, ⟨row, hrow, hmetadata⟩, hwidgets⟩ := touches_of_setPageOnline h
  refine ⟨rfl, funext fun c => ?_, fun hfree c => ?_⟩
  · split
    · next hc =>
      subst hc
      unfold contents
      rw [hpages, loadVersion_of_metadata (hmetadata .draft),
        loadVersion_of_metadata (hmetadata .online), loadVersion_of_metadata hrow,
        hwidgets .draft, hwidgets .online]
      cases t.pages.get? c <;> rfl
    · next hc => exact (hspares c hc).contents (by rw [hpages])
  · by_cases hc : c = code
    · rw [hc, hwidgets .draft]
      exact hfree code
    · rw [(hspares c hc).widgetsOf .draft]
      exact hfree c

/-- A page that has gone offline shows its draft only. -/
theorem contents_of_setPageOffline {u : Unit} (h : setPageOffline code t = .ok (u, t')) :
    (t'.contents r = fun c =>
      if c = code then (t.contents r c).map PageContent.unpublished else t.contents r c) ∧
      (t.IsUnparked parkingFrame → t'.IsUnparked parkingFrame) := by
  obtain ⟨htouches, hnone, -⟩ := touches_of_setPageOffline h
  refine ⟨funext fun c => ?_, fun hfree c => ?_⟩
  · split
    · next hc =>
      subst hc
      have hdraft : t'.loadVersion r .draft c = t.loadVersion r .draft c :=
        htouches.loadVersion (by simp)
      have honline : t'.loadVersion r .online c = none := by
        rw [loadVersion, hnone]
        rfl
      unfold contents
      rw [htouches.pages, hdraft, honline, Option.map_bind]
      refine congrArg (Option.bind _) (funext fun row => ?_)
      rw [Function.comp_apply, Option.map_map]
      rfl
    · next hc => exact htouches.contents hc
  · rw [htouches.widgets _ _ (by simp)]
    exact hfree c

-- ════════════════════════════════════════════════════════════════════════
-- Widgets
-- ════════════════════════════════════════════════════════════════════════

/-- Changing the widgets of one draft leaves the parking frame free, when it stays free on
    that page. -/
theorem isUnparked_of_touches (htouches : t.Touches t' .draft code)
    (hcode : (t'.widgetsOf .draft code).get? parkingFrame = none)
    (hfree : t.IsUnparked parkingFrame) : t'.IsUnparked parkingFrame := by
  intro c
  by_cases hc : c = code
  · rw [hc]
    exact hcode
  · rw [htouches.widgets _ _ fun he => hc he.2]
    exact hfree c

/-- A page whose frame was filled shows the widget as it is stored. -/
theorem contents_of_joinWidget {frame : Int} {w : Widget} {stamp : Timestamp}
    (h : joinWidget r time code frame w t = .ok (stamp, t')) :
    stamp = time ∧
      (t'.contents r = fun c =>
        if c = code then (t.contents r c).map fun k =>
          k.withSlots time fun s => s.put frame (some (storedWidget r w))
        else t.contents r c) ∧
      (parkingFrame ≠ frame → t.IsUnparked parkingFrame → t'.IsUnparked parkingFrame) := by
  obtain ⟨rfl, htouches, ⟨row, hrow, hrow'⟩, hwidgets⟩ := touches_of_joinWidget h
  refine ⟨rfl, contents_of_draft htouches hrow hrow' fun slots hload => ?_,
    fun hne hfree => isUnparked_of_touches htouches ?_ hfree⟩
  · rw [loadVersion_of_metadata hrow] at hload
    obtain ⟨-, rfl⟩ := PageVersion.mk.inj (Option.some.inj hload)
    rw [hwidgets, Slots.ofRows_insert]
  · rw [hwidgets, Keyed.get?_insert, if_neg hne]
    exact hfree code

/-- A page whose frame was emptied shows no widget in it. -/
theorem contents_of_removeWidget {frame : Int} {stamp : Timestamp}
    (h : removeWidget time code frame t = .ok (stamp, t')) :
    stamp = time ∧
      (t'.contents r = fun c =>
        if c = code then (t.contents r c).map fun k => k.withSlots time fun s => s.put frame none
        else t.contents r c) ∧
      (t.IsUnparked parkingFrame → t'.IsUnparked parkingFrame) := by
  obtain ⟨rfl, htouches, ⟨row, hrow, hrow'⟩, hwidgets⟩ := touches_of_removeWidget h
  refine ⟨rfl, contents_of_draft htouches hrow hrow' fun slots hload => ?_,
    fun hfree => isUnparked_of_touches htouches ?_ hfree⟩
  · rw [loadVersion_of_metadata hrow] at hload
    obtain ⟨-, rfl⟩ := PageVersion.mk.inj (Option.some.inj hload)
    rw [hwidgets, Slots.ofRows_erase]
  · rw [hwidgets, Keyed.get?_erase]
    split
    · rfl
    · exact hfree code

/-- A page whose frames were exchanged shows them exchanged. -/
theorem contents_of_moveWidget {source target : Int} {stamp : Timestamp} (hframe : parkingFrame < 0)
    (hfree : t.IsUnparked parkingFrame)
    (hframes : ∀ k, t.contents r code = some k → k.draft.slots.containsFrame source = true ∧
      k.draft.slots.containsFrame target = true)
    (hstored : (t.contents r code).isSome)
    (h : moveWidget parkingFrame time code source target t = .ok (stamp, t')) :
    stamp = time ∧
      (t'.contents r = fun c =>
        if c = code then (t.contents r c).map fun k =>
          k.withSlots time fun s => s.exchange source target
        else t.contents r c) ∧
      t'.IsUnparked parkingFrame := by
  obtain ⟨k, hk⟩ := Option.isSome_iff_exists.1 hstored
  obtain ⟨hsource, htarget⟩ := hframes k hk
  obtain ⟨-, -, -, hdraft, -⟩ := contents_eq_some_iff.1 hk
  obtain ⟨hnonneg, -⟩ := Slots.containsFrame_iff.1 hsource
  obtain ⟨hnonneg', -⟩ := Slots.containsFrame_iff.1 htarget
  obtain ⟨rfl, htouches, ⟨row, hrow, hrow'⟩, hget⟩ :=
    touches_of_moveWidget (by omega) (by omega) (hfree code) h
  refine ⟨rfl, contents_of_draft htouches hrow hrow' fun slots hload => ?_,
    isUnparked_of_touches htouches ?_ hfree⟩
  · have hshown : k.draft = { toMetadata := row, slots } :=
      Option.some.inj (hdraft.symm.trans hload)
    rw [hshown] at hsource htarget
    rw [loadVersion_of_metadata hrow] at hload
    obtain ⟨-, rfl⟩ := PageVersion.mk.inj (Option.some.inj hload)
    exact Slots.ofRows_exchange hsource htarget fun frame _ => hget frame
  · rw [hget, if_neg (by omega), if_neg (by omega)]
    exact hfree code

end RowEdit

end Sitemap
