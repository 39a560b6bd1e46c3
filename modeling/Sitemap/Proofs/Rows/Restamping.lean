import Sitemap.Proofs.Rows.Contents
import Sitemap.Proofs.Rows.Publication
import Sitemap.Proofs.Rows.Undoing

/-!
# Edits that leave a stamp only

What was done to the draft of a page can be taken back: a widget that was placed in a free frame is
removed, frames are exchanged twice, a page goes online and offline again. So can a draft be stored
once more as it is. All that is left of such edits, in all five tables, is the time of the last
write.

## Main results

- `Tables.Touches.stampMetadata` — a touch that leaves metadata and widgets is a stamp
- `RowEdit.removeWidget_of_joinWidget`, `RowEdit.moveWidget_moveWidget`,
  `RowEdit.setPageOffline_of_setPageOnline` — edits that are taken back
- `RowEdit.updatePage_of_stored` — a draft that is stored once more

## Design notes

A stamp is a statement of its own, and that statement is what is left. The rows are exactly those
from before only where they are tidy: a page that is filed without widgets is no longer filed
after one was placed and removed.
-/

namespace Sitemap

variable {t t' t'' : Tables} {r : Registry} {edition : Edition} {code : String}
  {time later stamp stamp' : Timestamp}

namespace Tables

/-- Where nothing is left over, the widgets that are filed are those that are read, if there are
    any. -/
theorem IsTidyAt.filed_eq_some_iff (h : t.IsTidyAt edition code) {frames : Keyed Int Widget} :
    (t.widgets.get edition).get? code = some frames ↔
      t.widgetsOf edition code = frames ∧ frames ≠ ∅ := by
  unfold widgetsOf
  constructor
  · intro hfiled
    exact ⟨by rw [hfiled]; rfl, (h frames hfiled).1⟩
  · rintro ⟨rfl, hsome⟩
    cases hfiled : (t.widgets.get edition).get? code with
    | none =>
      rw [hfiled] at hsome
      exact absurd rfl hsome
    | some frames => rfl

/-- Where nothing is left over, the same is filed when the same is read. -/
theorem IsTidyAt.filed_eq (h : t.IsTidyAt edition code) (h' : t'.IsTidyAt edition code)
    (hwidgets : t'.widgetsOf edition code = t.widgetsOf edition code) :
    (t'.widgets.get edition).get? code = (t.widgets.get edition).get? code := by
  refine Option.ext fun frames => ?_
  rw [h'.filed_eq_some_iff, h.filed_eq_some_iff, hwidgets]

/-- Where nothing is left over, an edition without metadata is not filed. -/
theorem IsTidyAt.filed_eq_none (h : t.IsTidyAt edition code)
    (hnone : t.metadataOf edition code = none) :
    (t.widgets.get edition).get? code = none := by
  cases hfiled : (t.widgets.get edition).get? code with
  | none => rfl
  | some frames =>
    have hstored := (h frames hfiled).2
    rw [hnone] at hstored
    cases hstored

/-- Rows that differ in the time of one write only differ by a stamp. -/
theorem stampMetadata_eq_ok {row : Metadata} (hrow : t.metadataOf edition code = some row)
    (hrow' : t'.metadataOf edition code = some { row with updatedAt := some time })
    (hpages : t'.pages = t.pages)
    (hmetadata : ∀ e c, ¬ (e = edition ∧ c = code) → t'.metadataOf e c = t.metadataOf e c)
    (hwidgets : ∀ e c, (t'.widgets.get e).get? c = (t.widgets.get e).get? c) :
    t.stampMetadata edition code time = .ok t' := by
  obtain ⟨u, hstamp⟩ := exists_stampMetadata (Option.isSome_of_eq_some hrow) time
  obtain ⟨htouches, ⟨found, hfound, hfound'⟩, -⟩ := touches_of_stampMetadata hstamp
  obtain rfl := Option.some.inj (hrow.symm.trans hfound)
  have hsame : u = t' := by
    refine ext_files ?_ (fun c => ?_) (fun e c => ?_) fun e c => ?_
    · rw [places_congr htouches.pages, places_congr hpages]
    · rw [htouches.pages, hpages]
    · by_cases hc : e = edition ∧ c = code
      · rw [hc.1, hc.2, hfound', hrow']
      · rw [htouches.metadata e c hc, hmetadata e c hc]
    · rw [widgets_of_stampMetadata hstamp, hwidgets]
  rw [hstamp, hsame]

/-- The last of two stamps is the one that counts. -/
theorem stamped_trans
    (h : ∃ row, t.metadataOf edition code = some row ∧
      t'.metadataOf edition code = some { row with updatedAt := some time })
    (h' : ∃ row, t'.metadataOf edition code = some row ∧
      t''.metadataOf edition code = some { row with updatedAt := some later }) :
    ∃ row, t.metadataOf edition code = some row ∧
      t''.metadataOf edition code = some { row with updatedAt := some later } := by
  obtain ⟨row, hrow, hstamped⟩ := h
  obtain ⟨row', hrow', hstamped'⟩ := h'
  obtain rfl := Option.some.inj (hstamped.symm.trans hrow')
  exact ⟨row, hrow, hstamped'⟩

/-- A touch that leaves the metadata, but for the time, and the widgets is a stamp. -/
theorem Touches.stampMetadata (h : t.Touches t' edition code) (htidy : t.IsTidy)
    (htidy' : t'.IsTidy)
    (hstamped : ∃ row, t.metadataOf edition code = some row ∧
      t'.metadataOf edition code = some { row with updatedAt := some time })
    (hwidgets : ∀ frame, (t'.widgetsOf edition code).get? frame =
      (t.widgetsOf edition code).get? frame) :
    t.stampMetadata edition code time = .ok t' := by
  obtain ⟨row, hrow, hrow'⟩ := hstamped
  refine stampMetadata_eq_ok hrow hrow' h.pages h.metadata fun e c => ?_
  by_cases hc : e = edition ∧ c = code
  · obtain ⟨rfl, rfl⟩ := hc
    exact (htidy.editions e c).filed_eq (htidy'.editions e c) (Keyed.ext_get? hwidgets)
  · exact h.filed e c hc

end Tables

namespace RowEdit

open Tables

variable {parkingFrame frame : Int}

-- ════════════════════════════════════════════════════════════════════════
-- Edits that are taken back
-- ════════════════════════════════════════════════════════════════════════

/-- A widget that was placed in a free frame is removed without a trace. -/
theorem removeWidget_of_joinWidget (htidy : t.IsTidy) {w : Widget}
    (hempty : (t.widgetsOf .draft code).get? frame = none)
    (hjoin : joinWidget r time code frame w t = .ok (stamp, t'))
    (hremove : removeWidget later code frame t' = .ok (stamp', t'')) :
    t.stampMetadata .draft code later = .ok t'' := by
  have hkept := IsTidy.isKept r
  obtain ⟨-, htouches, hstamped, hwidgets⟩ := touches_of_joinWidget hjoin
  obtain ⟨-, htouches', hstamped', hwidgets'⟩ := touches_of_removeWidget hremove
  refine (htouches.trans htouches').stampMetadata htidy
    (hkept.removeWidget (hkept.joinWidget htidy trivial hjoin) hremove)
    (stamped_trans hstamped hstamped') fun other => ?_
  rw [hwidgets', hwidgets, Keyed.get?_erase, Keyed.get?_insert]
  by_cases hother : other = frame
  · rw [if_pos hother, hother, hempty]
  · rw [if_neg hother, if_neg hother]

/-- Frames that are exchanged twice hold what they held before. -/
theorem moveWidget_moveWidget (htidy : t.IsTidy) {source target : Int}
    (hsource : source ≠ parkingFrame) (htarget : target ≠ parkingFrame)
    (hfree : (t.widgetsOf .draft code).get? parkingFrame = none)
    (hmove : moveWidget parkingFrame time code source target t = .ok (stamp, t'))
    (hback : moveWidget parkingFrame later code source target t' = .ok (stamp', t'')) :
    t.stampMetadata .draft code later = .ok t'' := by
  have hkept := IsTidy.isKept .empty
  obtain ⟨-, htouches, hstamped, hwidgets⟩ := touches_of_moveWidget hsource htarget hfree hmove
  have hfree' : (t'.widgetsOf .draft code).get? parkingFrame = none := by
    rw [hwidgets, if_neg (Ne.symm htarget), if_neg (Ne.symm hsource), hfree]
  obtain ⟨-, htouches', hstamped', hwidgets'⟩ :=
    touches_of_moveWidget hsource htarget hfree' hback
  refine (htouches.trans htouches').stampMetadata htidy
    (hkept.moveWidget (hkept.moveWidget htidy hmove) hback)
    (stamped_trans hstamped hstamped') fun other => ?_
  rw [hwidgets', hwidgets, hwidgets, hwidgets]
  by_cases hlast : other = target
  · subst hlast
    by_cases hsame : source = other <;> simp [hsame]
  · by_cases hfirst : other = source
    · subst hfirst
      simp [hlast]
    · simp [hlast, hfirst]

/-- A page that was offline is taken offline again, and its draft has the time of the
    publication. -/
theorem setPageOffline_of_setPageOnline (htidy : t.IsTidy) {u : Unit}
    (hoffline : t.metadataOf .online code = none)
    (hpublish : setPageOnline time code t = .ok (stamp, t'))
    (hhide : setPageOffline code t' = .ok (u, t'')) :
    t.stampMetadata .draft code time = .ok t'' := by
  obtain ⟨-, hpublished⟩ := publishesDraft_of_setPageOnline hpublish
  obtain ⟨row, hrow, hrow'⟩ := hpublished.metadata
  obtain ⟨htouches, hgone, hunfiled⟩ := touches_of_setPageOffline hhide
  refine stampMetadata_eq_ok hrow ?_ (htouches.pages.trans hpublished.pages)
    (fun e c hc => ?_) fun e c => ?_
  · rw [htouches.metadata .draft code (by simp), hrow']
  · by_cases hcode : c = code
    · subst hcode
      cases e with
      | draft => exact absurd ⟨rfl, rfl⟩ hc
      | online => rw [hgone, hoffline]
    · rw [htouches.metadata e c fun he => hcode he.2, (hpublished.others c hcode).metadata]
  · by_cases hcode : c = code
    · subst hcode
      cases e with
      | draft =>
        rw [htouches.filed .draft c (by simp)]
        exact congrArg (Keyed.get? · c) hpublished.drafts
      | online => exact hunfiled.trans ((htidy.editions .online c).filed_eq_none hoffline).symm
    · rw [htouches.filed e c fun he => hcode he.2, (hpublished.others c hcode).widgets]

-- ════════════════════════════════════════════════════════════════════════
-- Drafts that are stored once more
-- ════════════════════════════════════════════════════════════════════════

/-- A page that is rewritten as it is stored gets a stamp. All of its widgets are stored anew, so
    there must be none besides those that it has in its frames. -/
theorem updatePage_of_stored (htidy : t.IsTidy) {page : Page} {draft : PageVersion}
    (hstorable : page.draft.IsStorable r)
    (hrow : t.pages.get? page.code = some ⟨page.toPlacement, page.group⟩)
    (hdraft : t.metadataOf .draft page.code = some page.draft.toMetadata)
    (hwidgets : ∀ frame,
      (t.widgetsOf .draft page.code).get? frame = page.draft.slots.widgetAt frame)
    (h : updatePage r time page t = .ok (draft, t')) :
    t.stampMetadata .draft page.code time = .ok t' := by
  have htidy' := (IsTidy.isKept r).updatePage htidy trivial h
  obtain ⟨rfl, -, u, htouches, hdraft', hwidgets', rfl⟩ := touches_of_updatePage h
  -- the parent and the group are written as they are
  have hpages : (t.pages.modify page.code fun row =>
      { row with parent := page.parent, group := page.group }) = t.pages := by
    apply Keyed.ext_get?
    intro c
    rw [Keyed.get?_modify]
    split
    · next hc =>
      rw [hc, hrow]
      rfl
    · rfl
  refine Touches.stampMetadata ⟨hpages, htouches.metadata, htouches.filed⟩ htidy htidy'
    ⟨_, hdraft, hdraft'⟩ fun frame => ?_
  show (u.widgetsOf .draft page.code).get? frame = _
  rw [hwidgets', get?_storedRows, Keyed.get?_empty, Option.or_none, hwidgets]
  exact hstorable.map_storedWidget frame

end RowEdit

end Sitemap
