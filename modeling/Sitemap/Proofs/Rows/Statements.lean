import Sitemap.Proofs.Checks
import Sitemap.Rows.Loading

/-!
# Statements, observed

What each statement does to what can be read from the tables: the rows of pages, and the
metadata and the widgets of one edition of one page.

## Main definitions

- `Tables.Touches` — two tables differ in one edition of one page at most

## Main results

- `Tables.insertPage_eq_ok` and its like — when a statement succeeds, and with what
- `Tables.touches_of_insertVersion` — what storing an edition leaves behind
-/

namespace Sitemap

namespace Tables

variable {t t' t'' : Tables} {edition : Edition} {code : String}

@[simp]
theorem insertPage_eq_ok {row : PageRow} : t.insertPage row = .ok t' ↔
    t.pages.get? row.code = none ∧ t' = { t with pages := t.pages.insert row.code row } := by
  unfold insertPage Keyed.contains
  cases t.pages.get? row.code with
  | none => simp [eq_comm]
  | some found => simp

@[simp]
theorem deletePage_eq_ok {row : PageRow} : t.deletePage code = .ok (row, t') ↔
    t.pages.get? code = some row ∧ t' = { t with pages := t.pages.erase code } := by
  unfold deletePage
  cases t.pages.get? code with
  | none => simp
  | some found => simp [eq_comm]

@[simp]
theorem modifyPage_eq_ok {f : PageRow → PageRow} : t.modifyPage code f = .ok t' ↔
    (t.pages.get? code).isSome ∧ t' = { t with pages := t.pages.modify code f } := by
  unfold modifyPage Keyed.contains
  cases t.pages.get? code with
  | none => simp
  | some found => simp [eq_comm]

-- ════════════════════════════════════════════════════════════════════════
-- One edition of one page
-- ════════════════════════════════════════════════════════════════════════

/-- `t'` differs from `t` in one edition of one page at most. -/
structure Touches (t t' : Tables) (edition : Edition) (code : String) : Prop where
  /-- The rows of pages stay. -/
  pages : t'.pages = t.pages
  /-- All other metadata stays. -/
  metadata : ∀ e c, ¬ (e = edition ∧ c = code) → t'.metadataOf e c = t.metadataOf e c
  /-- All other widgets stay as they are filed. -/
  filed : ∀ e c, ¬ (e = edition ∧ c = code) →
    (t'.widgets.get e).get? c = (t.widgets.get e).get? c

theorem Touches.refl (t : Tables) (edition : Edition) (code : String) :
    t.Touches t edition code :=
  ⟨rfl, fun _ _ _ => rfl, fun _ _ _ => rfl⟩

theorem Touches.trans (h : t.Touches t' edition code) (h' : t'.Touches t'' edition code) :
    t.Touches t'' edition code where
  pages := h'.pages.trans h.pages
  metadata e c hne := (h'.metadata e c hne).trans (h.metadata e c hne)
  filed e c hne := (h'.filed e c hne).trans (h.filed e c hne)

/-- All other widgets are read as before. -/
theorem Touches.widgets (h : t.Touches t' edition code) (e : Edition) (c : String)
    (hne : ¬ (e = edition ∧ c = code)) : t'.widgetsOf e c = t.widgetsOf e c := by
  unfold widgetsOf
  rw [h.filed e c hne]

/-- Another table of metadata is read in its edition. -/
theorem metadataOf_setMetadata (e : Edition) (c : String) (table : Keyed String Metadata) :
    (t.setMetadata edition table).metadataOf e c =
      if e = edition then table.get? c else t.metadataOf e c := by
  unfold setMetadata metadataOf
  split
  · next he => rw [he, ByEdition.get_set_self]
  · next he => rw [ByEdition.get_set_of_ne _ he]

/-- Another table of widgets is read in its edition. -/
theorem widgetsOf_setWidgets (e : Edition) (c : String)
    (table : Keyed String (Keyed Int Widget)) :
    (t.setWidgets edition table).widgetsOf e c =
      if e = edition then (table.get? c).getD ∅ else t.widgetsOf e c := by
  unfold setWidgets widgetsOf
  split
  · next he => rw [he, ByEdition.get_set_self]
  · next he => rw [ByEdition.get_set_of_ne _ he]

/-- A table of metadata that differs at one page is a touch. -/
theorem touches_setMetadata {table : Keyed String Metadata}
    (h : ∀ c, c ≠ code → table.get? c = t.metadataOf edition c) :
    t.Touches (t.setMetadata edition table) edition code := by
  refine ⟨rfl, fun e c hne => ?_, fun _ _ _ => rfl⟩
  rw [metadataOf_setMetadata]
  split
  · next he => rw [he, h c fun hc => hne ⟨he, hc⟩]
  · rfl

/-- A table of widgets that differs at one page is a touch. -/
theorem touches_setWidgets {table : Keyed String (Keyed Int Widget)}
    (h : ∀ c, c ≠ code → table.get? c = (t.widgets.get edition).get? c) :
    t.Touches (t.setWidgets edition table) edition code := by
  refine ⟨rfl, fun _ _ _ => rfl, fun e c hne => ?_⟩
  unfold setWidgets
  by_cases he : e = edition
  · subst he
    rw [ByEdition.get_set_self, h c fun hc => hne ⟨rfl, hc⟩]
  · rw [ByEdition.get_set_of_ne _ he]

/-- Dropped metadata is gone. -/
theorem touches_deleteMetadata (t : Tables) (edition : Edition) (code : String) :
    t.Touches (t.deleteMetadata edition code) edition code ∧
      (t.deleteMetadata edition code).metadataOf edition code = none ∧
      (t.deleteMetadata edition code).widgetsOf edition code = t.widgetsOf edition code := by
  refine ⟨touches_setMetadata fun c hc => ?_, ?_, rfl⟩
  · rw [Keyed.get?_erase, if_neg hc]
    rfl
  · rw [deleteMetadata, metadataOf_setMetadata, if_pos rfl, Keyed.get?_erase, if_pos rfl]

/-- Metadata is stored where there was none. -/
theorem touches_of_insertMetadata {row : Metadata}
    (h : t.insertMetadata edition code row = .ok t') :
    t.Touches t' edition code ∧ t.metadataOf edition code = none ∧
      t'.metadataOf edition code = some row ∧
      t'.widgetsOf edition code = t.widgetsOf edition code := by
  unfold insertMetadata at h
  split at h
  · cases h
  · next hfree =>
    cases h
    refine ⟨touches_setMetadata fun c hc => ?_, ?_, ?_, rfl⟩
    · rw [Keyed.get?_insert, if_neg hc]
      rfl
    · exact Option.not_isSome_iff_eq_none.1 hfree
    · rw [metadataOf_setMetadata, if_pos rfl, Keyed.get?_insert_self]

/-- A stamp changes the time of the last write only. -/
theorem touches_of_stampMetadata {time : Timestamp}
    (h : t.stampMetadata edition code time = .ok t') :
    t.Touches t' edition code ∧
      (∃ row, t.metadataOf edition code = some row ∧
        t'.metadataOf edition code = some { row with updatedAt := some time }) ∧
      t'.widgetsOf edition code = t.widgetsOf edition code := by
  unfold stampMetadata at h
  split at h
  · next hstored =>
    cases h
    obtain ⟨row, hrow⟩ := Option.isSome_iff_exists.1 hstored
    refine ⟨touches_setMetadata fun c hc => ?_, ⟨row, hrow, ?_⟩, rfl⟩
    · rw [Keyed.get?_modify, if_neg hc]
      rfl
    · rw [metadataOf_setMetadata, if_pos rfl, Keyed.get?_modify, if_pos rfl, hrow]
      rfl
  · cases h

-- ════════════════════════════════════════════════════════════════════════
-- Widgets
-- ════════════════════════════════════════════════════════════════════════

/-- Filing the widgets of a page anew leaves those of other pages. -/
theorem touches_setWidgets_insert (t : Tables) (edition : Edition) (code : String)
    (frames : Keyed Int Widget) :
    t.Touches (t.setWidgets edition ((t.widgets.get edition).insert code frames)) edition code ∧
      (t.setWidgets edition ((t.widgets.get edition).insert code frames)).widgetsOf edition code =
        frames := by
  refine ⟨touches_setWidgets fun c hc => ?_, ?_⟩
  · rw [Keyed.get?_insert, if_neg hc]
  · rw [widgetsOf_setWidgets, if_pos rfl, Keyed.get?_insert_self]
    rfl

/-- Dropped widgets are gone. -/
theorem touches_deleteWidgets (t : Tables) (edition : Edition) (code : String) :
    t.Touches (t.deleteWidgets edition code) edition code ∧
      (t.deleteWidgets edition code).metadataOf edition code = t.metadataOf edition code ∧
      (t.deleteWidgets edition code).widgetsOf edition code = ∅ := by
  refine ⟨touches_setWidgets fun c hc => ?_, rfl, ?_⟩
  · rw [Keyed.get?_erase, if_neg hc]
  · rw [deleteWidgets, widgetsOf_setWidgets, if_pos rfl, Keyed.get?_erase, if_pos rfl]
    rfl

/-- A widget is stored in a frame that was free. -/
theorem touches_of_insertWidget {frame : Int} {w : Widget}
    (h : t.insertWidget edition code frame w = .ok t') :
    t.Touches t' edition code ∧ t'.metadataOf edition code = t.metadataOf edition code ∧
      t'.widgetsOf edition code = (t.widgetsOf edition code).insert frame w := by
  unfold insertWidget at h
  dsimp only at h
  split at h
  · cases h
  · cases h
    obtain ⟨htouches, hwidgets⟩ :=
      touches_setWidgets_insert t edition code ((t.widgetsOf edition code).insert frame w)
    exact ⟨htouches, rfl, hwidgets⟩

/-- Widgets are stored one after the other. -/
theorem touches_of_insertWidgets {rows : List (Int × Widget)}
    (h : insertWidgets edition code rows t = (.ok (), t')) :
    t.Touches t' edition code ∧ t'.metadataOf edition code = t.metadataOf edition code ∧
      t'.widgetsOf edition code =
        rows.foldl (fun m e => m.insert e.1 e.2) (t.widgetsOf edition code) := by
  induction rows generalizing t with
  | nil =>
    cases h
    exact ⟨.refl _ edition code, rfl, rfl⟩
  | cons e rest ih =>
    obtain ⟨frame, w⟩ := e
    unfold insertWidgets at h
    split at h
    · next hinsert =>
      obtain ⟨htouches, hmetadata, hwidgets⟩ := touches_of_insertWidget hinsert
      obtain ⟨hrest, hmetadata', hwidgets'⟩ := ih h
      refine ⟨htouches.trans hrest, hmetadata'.trans hmetadata, ?_⟩
      rw [hwidgets', hwidgets]
      rfl
    · cases h

/-- Dropping a widget empties its frame. -/
theorem touches_deleteWidget (t : Tables) (edition : Edition) (code : String) (frame : Int) :
    t.Touches (t.deleteWidget edition code frame) edition code ∧
      (t.deleteWidget edition code frame).metadataOf edition code =
        t.metadataOf edition code ∧
      (t.deleteWidget edition code frame).widgetsOf edition code =
        (t.widgetsOf edition code).erase frame := by
  unfold deleteWidget
  split
  · next hnone =>
    refine ⟨.refl t edition code, rfl, ?_⟩
    unfold widgetsOf
    rw [hnone]
    rfl
  · next frames hframes =>
    have hwidgets : t.widgetsOf edition code = frames := by
      unfold widgetsOf
      rw [hframes]
      rfl
    rw [hwidgets]
    dsimp only
    split
    · next hempty =>
      -- the last widget of the page: its entry goes, too
      have herase : frames.erase frame = ∅ := by
        apply Keyed.ext_get?
        intro c
        have hnil : (frames.erase frame).entries = [] := List.isEmpty_iff.1 hempty
        rw [Keyed.get?, hnil]
        rfl
      obtain ⟨htouches, hmetadata, hgone⟩ := touches_deleteWidgets t edition code
      rw [herase]
      exact ⟨htouches, hmetadata, hgone⟩
    · obtain ⟨htouches, hfiled⟩ :=
        touches_setWidgets_insert t edition code (frames.erase frame)
      exact ⟨htouches, rfl, hfiled⟩

theorem pages_of_updateWidgetFrame {source target : Int} {n : Nat}
    (h : t.updateWidgetFrame edition code source target = .ok (n, t')) : t'.pages = t.pages := by
  unfold updateWidgetFrame at h
  dsimp only at h
  split at h
  · cases h
    rfl
  · split at h
    · cases h
    · cases h
      rfl

/-- A stored edition has its own metadata, and its widgets besides those that were there. -/
theorem touches_of_insertVersion {r : Registry} {v : PageVersion}
    (h : t.insertVersion r edition code v = .ok t') :
    t.Touches t' edition code ∧ t'.metadataOf edition code = some v.toMetadata ∧
      t'.widgetsOf edition code =
        (v.slots.occupied.map fun e => (e.1, storedWidget r e.2)).foldl
          (fun m e => m.insert e.1 e.2) (t.widgetsOf edition code) := by
  simp only [insertVersion, bind_eq_ok] at h
  obtain ⟨u, hmetadata, h⟩ := h
  obtain ⟨htouches, -, hstored, hkept⟩ := touches_of_insertMetadata hmetadata
  split at h
  · next hinsert =>
    cases h
    obtain ⟨hrest, hsame, hwidgets⟩ := touches_of_insertWidgets hinsert
    exact ⟨htouches.trans hrest, hsame.trans hstored, by rw [hwidgets, hkept]⟩
  · cases h

/-- After a publication the online edition has the metadata of the draft, and its widgets
    besides those that were there. -/
theorem touches_of_copyDraftToOnline (h : t.copyDraftToOnline code = (.ok (), t')) :
    t.Touches t' .online code ∧
      (∃ row, t.metadataOf .draft code = some row ∧ t'.metadataOf .online code = some row) ∧
      t'.widgetsOf .online code =
        (t.widgetsOf .draft code).entries.foldl (fun m e => m.insert e.1 e.2)
          (t.widgetsOf .online code) := by
  unfold copyDraftToOnline at h
  split at h
  · cases h
  · next row hrow =>
    split at h
    · cases h
    · next u hmetadata =>
      obtain ⟨htouches, -, hstored, hkept⟩ := touches_of_insertMetadata hmetadata
      obtain ⟨hrest, hsame, hwidgets⟩ := touches_of_insertWidgets h
      have hdraft : u.widgetsOf .draft code = t.widgetsOf .draft code :=
        htouches.widgets .draft code (by simp)
      refine ⟨htouches.trans hrest, ⟨row, hrow, hsame.trans hstored⟩, ?_⟩
      rw [hwidgets, hkept, hdraft]

end Tables

end Sitemap
