import Sitemap.Proofs.Rows.Tidiness

/-!
# Drafts that fit their models

Rows may hold widgets in frames that the model of their page does not have. Such widgets are not
shown, and they are lost when the draft is stored once more. Where all drafts fit there are none,
and no edit brings one in that fills frames of the model only.

## Main definitions

- `Registry.HasFrame` — a model has a frame
- `Tables.DraftFits`, `Tables.DraftsFit` — all widgets of drafts are in frames of their models

## Main results

- `Tables.DraftFits.get?_widgetsOf` — a draft that fits shows all widgets that are stored for it
- `Tables.DraftsFit.addPage`, `Tables.DraftsFit.joinWidget` and their like — edits after which all
  drafts fit
-/

namespace Sitemap

/-- A model has a frame. A model that is not registered has none. -/
def Registry.HasFrame (r : Registry) (model : String) (frame : Int) : Prop :=
  0 ≤ frame ∧ frame < (r.frameCount model).getD 0

namespace Tables

/-- All widgets that are stored for the draft of a page are in frames of its model. -/
def DraftFits (t : Tables) (r : Registry) (code : String) : Prop :=
  ∀ row, t.metadataOf .draft code = some row →
    ∀ frame, ((t.widgetsOf .draft code).get? frame).isSome → r.HasFrame row.model frame

/-- All drafts fit their models. -/
def DraftsFit (t : Tables) (r : Registry) : Prop :=
  ∀ code, t.DraftFits r code

variable {t t' : Tables} {r : Registry} {code : String} {time : Timestamp} {frame : Int}

-- ════════════════════════════════════════════════════════════════════════
-- One draft
-- ════════════════════════════════════════════════════════════════════════

/-- A draft that is loaded has the frames of its model. -/
theorem hasFrame_iff_of_loadVersion {v : PageVersion} {row : Metadata}
    (hload : t.loadVersion r .draft code = some v) (hrow : t.metadataOf .draft code = some row) :
    r.HasFrame row.model frame ↔ v.slots.containsFrame frame = true := by
  obtain ⟨hmetadata, hslots⟩ := loadVersion_eq_some_iff.1 hload
  obtain rfl := Option.some.inj (hrow.symm.trans hmetadata)
  rw [Slots.containsFrame_iff, hslots, Slots.frameCount_ofRows]
  rfl

namespace DraftFits

/-- A draft that fits shows all widgets that are stored for it. -/
theorem get?_widgetsOf (h : t.DraftFits r code) {v : PageVersion}
    (hload : t.loadVersion r .draft code = some v) (frame : Int) :
    (t.widgetsOf .draft code).get? frame = v.slots.widgetAt frame := by
  by_cases hframe : v.slots.containsFrame frame = true
  · exact get?_widgetsOf_of_loadVersion hload hframe
  · have hrow := (loadVersion_eq_some_iff.1 hload).1
    rw [Slots.widgetAt_eq_none_of_not hframe, ← Option.not_isSome_iff_eq_none]
    exact fun hstored => hframe ((hasFrame_iff_of_loadVersion hload hrow).1 (h _ hrow _ hstored))

/-- A draft with the same rows fits as before. -/
theorem congr (h : t.DraftFits r code)
    (hmetadata : t'.metadataOf .draft code = t.metadataOf .draft code)
    (hwidgets : t'.widgetsOf .draft code = t.widgetsOf .draft code) : t'.DraftFits r code := by
  intro row hrow frame hstored
  rw [hmetadata] at hrow
  rw [hwidgets] at hstored
  exact h row hrow frame hstored

/-- A draft with the frames of its model fits, when it is stored with its own widgets only. -/
theorem of_version {v : PageVersion} (hframes : r.frameCount v.model = some v.slots.frameCount)
    (hmetadata : t.metadataOf .draft code = some v.toMetadata)
    (hwidgets : ∀ frame, ((t.widgetsOf .draft code).get? frame).isSome →
      (v.slots.widgetAt frame).isSome) : t.DraftFits r code := by
  intro row hrow frame hstored
  obtain rfl := Option.some.inj (hrow.symm.trans hmetadata)
  obtain ⟨w, hw⟩ := Option.isSome_iff_exists.1 (hwidgets frame hstored)
  unfold Registry.HasFrame
  rw [hframes]
  exact Slots.containsFrame_iff.1 (Slots.containsFrame_of_widgetAt hw)

/-- A draft that is stamped keeps its model. -/
theorem of_stamped
    (hstamped : ∃ row, t.metadataOf .draft code = some row ∧
      t'.metadataOf .draft code = some { row with updatedAt := some time })
    (hwidgets : ∀ row, t.metadataOf .draft code = some row →
      ∀ frame, ((t'.widgetsOf .draft code).get? frame).isSome → r.HasFrame row.model frame) :
    t'.DraftFits r code := by
  obtain ⟨row, hrow, hrow'⟩ := hstamped
  intro found hfound frame hstored
  obtain rfl := Option.some.inj (hrow'.symm.trans hfound)
  exact hwidgets row hrow frame hstored

end DraftFits

-- ════════════════════════════════════════════════════════════════════════
-- All drafts
-- ════════════════════════════════════════════════════════════════════════

theorem draftsFit_empty (r : Registry) : Tables.empty.DraftsFit r :=
  fun _ _ hrow => nomatch hrow

namespace DraftsFit

/-- All drafts fit when one does and nothing else is filed of the others. -/
theorem of_spares (h : t.DraftsFit r) (hspares : t.Spares t' code) (hown : t'.DraftFits r code) :
    t'.DraftsFit r := by
  intro c
  by_cases hc : c = code
  · rw [hc]
    exact hown
  · exact (h c).congr ((hspares c hc).metadata .draft) ((hspares c hc).widgetsOf .draft)

/-- Where pages sit does not matter. -/
theorem of_editions (h : t.DraftsFit r) (hmetadata : t'.metadata = t.metadata)
    (hwidgets : t'.widgets = t.widgets) : t'.DraftsFit r := fun code =>
  (h code).congr (by rw [metadataOf, hmetadata, metadataOf])
    (by rw [widgetsOf, hwidgets, widgetsOf])

variable {page : Page}

theorem addPage (h : t.DraftsFit r) (hlinked : t.IsLinked) (honline : page.online = none)
    (hframes : r.frameCount page.draft.model = some page.draft.slots.frameCount) {stored : Page}
    (hedit : RowEdit.addPage r time page t = .ok (stored, t')) : t'.DraftsFit r := by
  obtain ⟨-, hversion⟩ := RowEdit.insertVersion_of_addPage honline hedit
  obtain ⟨-, hmetadata, -⟩ := touches_of_insertVersion hversion
  refine h.of_spares (RowEdit.spares_of_addPage hedit)
    (.of_version (v := page.draft.stamped time) hframes hmetadata fun frame hstored => ?_)
  rw [RowEdit.widgets_of_addPage hlinked hedit .draft frame, Option.isSome_map] at hstored
  exact hstored

theorem updatePage (h : t.DraftsFit r)
    (hframes : r.frameCount page.draft.model = some page.draft.slots.frameCount)
    {draft : PageVersion} (hedit : RowEdit.updatePage r time page t = .ok (draft, t')) :
    t'.DraftsFit r := by
  obtain ⟨rfl, -, u, htouches, hmetadata, hwidgets, rfl⟩ := RowEdit.touches_of_updatePage hedit
  have hown : u.DraftFits r page.code := by
    refine .of_version (v := page.draft.stamped time) hframes hmetadata fun frame hstored => ?_
    rw [hwidgets, get?_storedRows, Keyed.get?_empty, Option.or_none, Option.isSome_map] at hstored
    exact hstored
  exact (h.of_spares htouches.spares hown).of_editions rfl rfl

theorem deletePage (h : t.DraftsFit r) {u : Unit}
    (hedit : RowEdit.deletePage code t = .ok (u, t')) : t'.DraftsFit r := by
  obtain ⟨hspares, hgone⟩ := RowEdit.spares_of_deletePage hedit
  refine h.of_spares hspares fun row hrow => ?_
  rw [(hgone .draft).1] at hrow
  cases hrow

theorem setPageOnline (h : t.DraftsFit r) {stamp : Timestamp}
    (hedit : RowEdit.setPageOnline time code t = .ok (stamp, t')) : t'.DraftsFit r := by
  obtain ⟨-, -, hspares, ⟨row, hrow, hstamped⟩, hwidgets⟩ := RowEdit.touches_of_setPageOnline hedit
  refine h.of_spares hspares (.of_stamped ⟨row, hrow, hstamped .draft⟩ ?_)
  rw [hwidgets]
  exact h code

theorem setPageOffline (h : t.DraftsFit r) {u : Unit}
    (hedit : RowEdit.setPageOffline code t = .ok (u, t')) : t'.DraftsFit r := by
  obtain ⟨htouches, -⟩ := RowEdit.touches_of_setPageOffline hedit
  exact h.of_spares htouches.spares ((h code).congr (htouches.metadata .draft code (by simp))
    (htouches.widgets .draft code (by simp)))

/-- A frame of the model is filled. -/
theorem joinWidget (h : t.DraftsFit r) {w : Widget} {stamp : Timestamp}
    (hframe : ∀ row, t.metadataOf .draft code = some row → r.HasFrame row.model frame)
    (hedit : RowEdit.joinWidget r time code frame w t = .ok (stamp, t')) : t'.DraftsFit r := by
  obtain ⟨-, htouches, hstamped, hwidgets⟩ := RowEdit.touches_of_joinWidget hedit
  refine h.of_spares htouches.spares (.of_stamped hstamped fun row hrow other hstored => ?_)
  rw [hwidgets, Keyed.get?_insert] at hstored
  split at hstored
  · next hother =>
    rw [hother]
    exact hframe row hrow
  · exact h code row hrow other hstored

theorem removeWidget (h : t.DraftsFit r) {stamp : Timestamp}
    (hedit : RowEdit.removeWidget time code frame t = .ok (stamp, t')) : t'.DraftsFit r := by
  obtain ⟨-, htouches, hstamped, hwidgets⟩ := RowEdit.touches_of_removeWidget hedit
  refine h.of_spares htouches.spares (.of_stamped hstamped fun row hrow other hstored => ?_)
  rw [hwidgets, Keyed.get?_erase] at hstored
  split at hstored
  · cases hstored
  · exact h code row hrow other hstored

/-- Two frames of the model are exchanged. -/
theorem moveWidget (h : t.DraftsFit r) {parkingFrame source target : Int} {stamp : Timestamp}
    (hsource : source ≠ parkingFrame) (htarget : target ≠ parkingFrame)
    (hfree : (t.widgetsOf .draft code).get? parkingFrame = none)
    (hframes : ∀ row, t.metadataOf .draft code = some row →
      r.HasFrame row.model source ∧ r.HasFrame row.model target)
    (hedit : RowEdit.moveWidget parkingFrame time code source target t = .ok (stamp, t')) :
    t'.DraftsFit r := by
  obtain ⟨-, htouches, hstamped, hwidgets⟩ :=
    RowEdit.touches_of_moveWidget hsource htarget hfree hedit
  refine h.of_spares htouches.spares (.of_stamped hstamped fun row hrow other hstored => ?_)
  rw [hwidgets] at hstored
  split at hstored
  · next hother =>
    rw [hother]
    exact (hframes row hrow).2
  · split at hstored
    · next hother =>
      rw [hother]
      exact (hframes row hrow).1
    · exact h code row hrow other hstored

end DraftsFit

end Tables

end Sitemap
