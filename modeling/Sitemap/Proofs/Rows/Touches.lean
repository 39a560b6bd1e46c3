import Sitemap.Proofs.Hierarchy.Arrangement
import Sitemap.Proofs.Rows.Exchange
import Sitemap.Proofs.Rows.Places

/-!
# Rows that edits leave alone

An edit writes to five tables, and often drops rows to store them again. Here is what each edit
leaves as it was: the rows of all pages but one, and of that page the editions and the frames
that it does not name.

## Main definitions

- `Tables.FilesSame`, `Tables.Spares` — two tables file the same about a page, about all but one
- `Tables.ShiftsSiblings` — pages keep their rows, except that siblings of one page may be
  renumbered

## Main results

- `RowEdit.spares_of_addPage`, `RowEdit.spares_of_deletePage` — the editions of other pages stay
- `RowEdit.touches_of_updatePage`, `RowEdit.touches_of_setPageOnline`,
  `RowEdit.touches_of_joinWidget` and their like — what is written of the page itself

## Design notes

A place is the parent and the position of a page, so `Tables.Spares` says nothing of them. What
an edit of the hierarchy does to the places is a matter of its own.
-/

namespace Sitemap

-- ════════════════════════════════════════════════════════════════════════
-- Rows
-- ════════════════════════════════════════════════════════════════════════

/-- A row is a place and a group. -/
theorem PageRow.ext_place {a b : PageRow} (hplace : a.toPlacement = b.toPlacement)
    (hgroup : a.group = b.group) : a = b := by
  obtain ⟨place, group⟩ := a
  obtain rfl : place = b.toPlacement := hplace
  obtain rfl : group = b.group := hgroup
  rfl

namespace Tables

variable {t t' t'' : Tables} {edition : Edition} {code : String}

theorem isSome_places_eq : (t.places code).isSome = (t.pages.get? code).isSome :=
  Option.isSome_map

/-- A page with the same place and the same group has the same row. -/
theorem get?_pages_congr (hplace : t'.places code = t.places code)
    (hgroup : (t'.pages.get? code).map (·.group) = (t.pages.get? code).map (·.group)) :
    t'.pages.get? code = t.pages.get? code := by
  unfold places at hplace
  cases hrow : t.pages.get? code with
  | none =>
    rw [hrow] at hplace
    exact Option.map_eq_none_iff.1 hplace
  | some row =>
    rw [hrow] at hplace hgroup
    obtain ⟨row', hrow', hsame⟩ := Option.map_eq_some_iff.1 hplace
    rw [hrow'] at hgroup ⊢
    exact congrArg some (PageRow.ext_place hsame (Option.some.inj hgroup))

/-- The same is filed under a code, wherever the page sits. -/
structure FilesSame (t t' : Tables) (c : String) : Prop where
  /-- The page stays, or it is stored in neither. -/
  stored : (t'.places c).isSome = (t.places c).isSome
  /-- All of its metadata stays. -/
  metadata : ∀ e, t'.metadataOf e c = t.metadataOf e c
  /-- All of its widgets stay as they are filed. -/
  widgets : ∀ e, (t'.widgets.get e).get? c = (t.widgets.get e).get? c

/-- `t'` files the same as `t` about all pages but one. -/
def Spares (t t' : Tables) (code : String) : Prop :=
  ∀ c, c ≠ code → t.FilesSame t' c

theorem FilesSame.trans (h : t.FilesSame t' code) (h' : t'.FilesSame t'' code) :
    t.FilesSame t'' code where
  stored := h'.stored.trans h.stored
  metadata e := (h'.metadata e).trans (h.metadata e)
  widgets e := (h'.widgets e).trans (h.widgets e)

theorem Spares.refl (t : Tables) (code : String) : t.Spares t code :=
  fun _ _ => ⟨rfl, fun _ => rfl, fun _ => rfl⟩

theorem Spares.trans (h : t.Spares t' code) (h' : t'.Spares t'' code) : t.Spares t'' code :=
  fun c hc => (h c hc).trans (h' c hc)

/-- A touch is about one page. -/
theorem Touches.spares (h : t.Touches t' edition code) : t.Spares t' code := fun c hc =>
  { stored := by rw [places_congr h.pages]
    metadata e := h.metadata e c fun he => hc he.2
    widgets e := h.filed e c fun he => hc he.2 }

/-- Another table of pages, with the same pages but for one. -/
theorem spares_pages {pages : Keyed String PageRow}
    (h : ∀ c, c ≠ code → (pages.get? c).isSome = (t.pages.get? c).isSome) :
    t.Spares { t with pages } code := fun c hc =>
  { stored := by rw [isSome_places_eq, isSome_places_eq, h c hc]
    metadata _ := rfl
    widgets _ := rfl }

/-- All pages but one keep their rows, except that siblings of that page may get other
    positions: the children of a parent that it had, or that it has now. -/
def ShiftsSiblings (t t' : Tables) (code : String) : Prop :=
  ∀ c, c ≠ code → t'.pages.get? c = t.pages.get? c ∨ ∃ row parent position,
    t.pages.get? c = some row ∧ t'.pages.get? c = some { row with position } ∧
    row.parent = some parent ∧
    (t.places.parentOf code = some parent ∨ t'.places.parentOf code = some parent)

theorem ShiftsSiblings.of_places (h : t.places.ShiftsSiblings t'.places code)
    (hgroup : ∀ c, c ≠ code →
      (t'.pages.get? c).map (·.group) = (t.pages.get? c).map (·.group)) :
    t.ShiftsSiblings t' code := by
  intro c hc
  have hsame := hgroup c hc
  rcases h c hc with hkept | ⟨p, parent, position, hp, hp', hparent, hbelow⟩
  · exact .inl (get?_pages_congr hkept hsame)
  · right
    obtain ⟨row, hrow, rfl⟩ := places_eq_some_iff.1 hp
    obtain ⟨row', hrow', hplace⟩ := places_eq_some_iff.1 hp'
    rw [hrow, hrow'] at hsame
    refine ⟨row, parent, position, hrow, ?_, hparent, hbelow⟩
    rw [hrow']
    exact congrArg some (PageRow.ext_place hplace (Option.some.inj hsame))

/-- Rows that are shifted are places that are shifted. -/
theorem ShiftsSiblings.places (h : t.ShiftsSiblings t' code) :
    t.places.ShiftsSiblings t'.places code := by
  intro c hc
  rcases h c hc with hkept | ⟨row, parent, position, hrow, hrow', hparent, hbelow⟩
  · left
    unfold Tables.places
    rw [hkept]
  · exact .inr ⟨_, parent, position, places_of_row hrow, places_of_row hrow', hparent, hbelow⟩

end Tables

namespace RowEdit

open Tables

variable {t t' : Tables} {r : Registry} {time : Timestamp} {page : Page} {code : String}
  {parkingFrame : Int}

-- ════════════════════════════════════════════════════════════════════════
-- Edits that store and drop pages
-- ════════════════════════════════════════════════════════════════════════

/-- A new page leaves what is stored of the others, whether it is online or not. -/
theorem spares_of_addPage {stored : Page} (h : addPage r time page t = .ok (stored, t')) :
    t.Spares t' page.code := by
  obtain ⟨-, -, u, hdraft, honline⟩ := steps_of_addPage h
  have hpage : ∀ row, t.Spares { t with pages := t.pages.insert page.code row } page.code :=
    fun row => spares_pages fun c hc => by rw [Keyed.get?_insert, if_neg hc]
  have hstored := (hpage _).trans (touches_of_insertVersion hdraft).1.spares
  obtain ⟨-, rfl⟩ | ⟨v, -, honline⟩ := honline
  · exact hstored
  · exact hstored.trans (touches_of_insertVersion honline).1.spares

/-- A dropped edition is gone, and the others stay. -/
theorem touches_dropEdition (t : Tables) (edition : Edition) (code : String) :
    t.Touches ((t.deleteWidgets edition code).deleteMetadata edition code) edition code ∧
      ((t.deleteWidgets edition code).deleteMetadata edition code).metadataOf edition code =
        none ∧
      ((t.deleteWidgets edition code).deleteMetadata edition code).widgetsOf edition code = ∅ := by
  obtain ⟨hwidgets, -, hempty⟩ := touches_deleteWidgets t edition code
  obtain ⟨hmetadata, hnone, hsame⟩ :=
    touches_deleteMetadata (t.deleteWidgets edition code) edition code
  exact ⟨hwidgets.trans hmetadata, hnone, hsame.trans hempty⟩

/-- Nothing is filed of a dropped edition, not even that it is empty. -/
theorem filed_dropEdition (t : Tables) (edition : Edition) (code : String) :
    (((t.deleteWidgets edition code).deleteMetadata edition code).widgets.get edition).get? code =
      none := by
  unfold deleteMetadata deleteWidgets setMetadata setWidgets
  dsimp only
  rw [ByEdition.get_set_self, Keyed.get?_erase, if_pos rfl]

/-- All that is filed of a page is dropped with its editions. -/
theorem spares_dropEditions (code : String) (t : Tables) :
    t.Spares (dropEditions code t) code ∧ ∀ e, (dropEditions code t).metadataOf e code = none ∧
      ((dropEditions code t).widgets.get e).get? code = none := by
  obtain ⟨hdraft, hnone, -⟩ := touches_dropEdition t .draft code
  obtain ⟨honline, hnone', -⟩ :=
    touches_dropEdition ((t.deleteWidgets .draft code).deleteMetadata .draft code) .online code
  refine ⟨hdraft.spares.trans honline.spares, fun e => ?_⟩
  cases e with
  | draft =>
    exact ⟨(honline.metadata .draft code (by simp)).trans hnone,
      (honline.filed .draft code (by simp)).trans (filed_dropEdition t .draft code)⟩
  | online => exact ⟨hnone', filed_dropEdition _ .online code⟩

/-- A deleted page leaves what is stored of the others, and takes all of its own along. -/
theorem spares_of_deletePage {u : Unit} (h : deletePage code t = .ok (u, t')) :
    t.Spares t' code ∧
      ∀ e, t'.metadataOf e code = none ∧ (t'.widgets.get e).get? code = none := by
  obtain ⟨row, -, -, dropped, hdropped, rfl⟩ := pages_of_deletePage h
  obtain ⟨-, rfl⟩ := deletePage_eq_ok.1 hdropped
  obtain ⟨hspares, hgone⟩ := spares_dropEditions code t
  have herased : t.Spares
      { dropEditions code t with pages := (dropEditions code t).pages.erase code } code :=
    hspares.trans (spares_pages fun c hc => by rw [Keyed.get?_erase, if_neg hc])
  split
  · refine ⟨herased.trans (spares_pages fun c _ => ?_), hgone⟩
    rw [Keyed.get?_map, Option.isSome_map]
  · exact ⟨herased, hgone⟩

/-- The rows that are left after a page was deleted keep their groups. -/
theorem group_of_deletePage {u : Unit} (h : deletePage code t = .ok (u, t')) (c : String) :
    (t'.pages.get? c).map (·.group) =
      if c = code then none else (t.pages.get? c).map (·.group) := by
  obtain ⟨row, -, -, dropped, hdropped, rfl⟩ := pages_of_deletePage h
  obtain ⟨-, rfl⟩ := deletePage_eq_ok.1 hdropped
  have herase : ((dropEditions code t).pages.erase code).get? c =
      if c = code then none else t.pages.get? c := Keyed.get?_erase _ code c
  split
  · dsimp only [shiftPages]
    rw [Keyed.get?_map, herase, Option.map_map]
    split <;> rfl
  · rw [herase]
    split <;> rfl

-- ════════════════════════════════════════════════════════════════════════
-- Edits that move pages
-- ════════════════════════════════════════════════════════════════════════

theorem group_of_movePage {newParent : String} {moved : Option ReparentPlan}
    (h : movePage code newParent t = .ok (moved, t')) (c : String) :
    (t'.pages.get? c).map (·.group) = (t.pages.get? c).map (·.group) := by
  simp only [movePage, bind_eq_ok] at h
  obtain ⟨planned, -, h⟩ := h
  cases planned with
  | none =>
    cases h
    rfl
  | some plan =>
    simp only [bind_eq_ok, require_eq_ok, updateTreePosition, modifyPage_eq_ok] at h
    obtain ⟨_, ⟨-, rfl⟩, h⟩ := h
    cases h
    dsimp only [shiftPages]
    rw [Keyed.get?_map, Keyed.get?_modify]
    split
    · simp only [Option.map_map]
      rfl
    · rw [Option.map_map]
      rfl

theorem group_of_swapPositions {up : Bool} {swapped : Option SwapPlan}
    (h : swapPositions code up t = .ok (swapped, t')) (c : String) :
    (t'.pages.get? c).map (·.group) = (t.pages.get? c).map (·.group) := by
  simp only [swapPositions, bind_eq_ok] at h
  obtain ⟨planned, -, h⟩ := h
  cases planned with
  | none =>
    cases h
    rfl
  | some plan =>
    simp only [bind_eq_ok, require_eq_ok, offsetPosition, modifyPage_eq_ok] at h
    obtain ⟨_, ⟨-, rfl⟩, _, ⟨-, rfl⟩, h⟩ := h
    cases h
    dsimp only
    rw [Keyed.get?_modify, Keyed.get?_modify]
    split
    · split
      · simp only [Option.map_map]
        rfl
      · rw [Option.map_map]
        rfl
    · split
      · rw [Option.map_map]
        rfl
      · rfl

-- ════════════════════════════════════════════════════════════════════════
-- Edits of editions
-- ════════════════════════════════════════════════════════════════════════

/-- A rewritten page has the new draft and nothing of the old one, besides its parent and its
    group. -/
theorem touches_of_updatePage {draft : PageVersion}
    (h : updatePage r time page t = .ok (draft, t')) :
    draft = page.draft.stamped time ∧ (t.pages.get? page.code).isSome ∧
      ∃ u, t.Touches u .draft page.code ∧
        u.metadataOf .draft page.code = some draft.toMetadata ∧
        u.widgetsOf .draft page.code =
          (draft.slots.occupied.map fun e => (e.1, storedWidget r e.2)).foldl
            (fun m e => m.insert e.1 e.2) ∅ ∧
        t' = { u with pages := t.pages.modify page.code fun row =>
          { row with parent := page.parent, group := page.group } } := by
  obtain ⟨hstored, hdraft, u, hversion, hresult⟩ := steps_of_updatePage h
  obtain ⟨hdropped, -, hempty⟩ := touches_dropEdition t .draft page.code
  obtain ⟨htouches, hmetadata, hwidgets⟩ := touches_of_insertVersion hversion
  rw [hempty] at hwidgets
  exact ⟨hdraft, hstored, u, hdropped.trans htouches, hmetadata, hwidgets, hresult⟩

/-- A published page has the metadata and the widgets of its draft in both editions, and the
    time of the publication. -/
theorem touches_of_setPageOnline {stamp : Timestamp}
    (h : setPageOnline time code t = .ok (stamp, t')) :
    stamp = time ∧ t'.pages = t.pages ∧ t.Spares t' code ∧
      (∃ row, t.metadataOf .draft code = some row ∧
        ∀ e, t'.metadataOf e code = some { row with updatedAt := some time }) ∧
      ∀ e, t'.widgetsOf e code = t.widgetsOf .draft code := by
  unfold setPageOnline at h
  dsimp only at h
  generalize hcopy :
    ((t.deleteWidgets .online code).deleteMetadata .online code).copyDraftToOnline code = copied
    at h
  obtain ⟨outcome, u⟩ := copied
  simp only [bind_eq_ok, require_eq_ok] at h
  obtain ⟨⟨⟩, rfl, v, hstampDraft, w, hstampOnline, h⟩ := h
  cases h
  obtain ⟨hdrop, -, hempty⟩ := touches_dropEdition t .online code
  obtain ⟨hcopied, ⟨row, hrow, hrow'⟩, hwidgets⟩ := touches_of_copyDraftToOnline hcopy
  obtain ⟨hfirst, ⟨draft, hdraft, hdraft'⟩, hdraftWidgets⟩ := touches_of_stampMetadata hstampDraft
  obtain ⟨hsecond, ⟨online, honline, honline'⟩, honlineWidgets⟩ :=
    touches_of_stampMetadata hstampOnline
  have hneq : ¬ (Edition.draft = .online ∧ code = code) := by simp
  have hneq' : ¬ (Edition.online = .draft ∧ code = code) := by simp
  have hspares := hdrop.spares.trans (hcopied.spares.trans (hfirst.spares.trans hsecond.spares))
  have hpages : t'.pages = t.pages := by
    rw [hsecond.pages, hfirst.pages, hcopied.pages, hdrop.pages]
  -- the metadata: both editions have that of the draft, with the time of the publication
  rw [hdrop.metadata _ _ hneq] at hrow
  obtain rfl : row = draft := by
    rw [hcopied.metadata _ _ hneq, hdrop.metadata _ _ hneq, hrow] at hdraft
    exact Option.some.inj hdraft
  obtain rfl : row = online := by
    rw [hfirst.metadata _ _ hneq', hrow'] at honline
    exact Option.some.inj honline
  rw [← hsecond.metadata _ _ hneq] at hdraft'
  -- the widgets: those of the draft, in both editions
  have hdraftSame : t'.widgetsOf .draft code = t.widgetsOf .draft code := by
    rw [hsecond.widgets _ _ hneq, hdraftWidgets, hcopied.widgets _ _ hneq, hdrop.widgets _ _ hneq]
  have honlineSame : t'.widgetsOf .online code = t.widgetsOf .draft code := by
    rw [honlineWidgets, hfirst.widgets _ _ hneq', hwidgets, hempty, hdrop.widgets _ _ hneq]
    apply Keyed.ext_get?
    intro frame
    rw [Keyed.get?_foldl_insert (Keyed.ascending _), Keyed.get?_empty, Option.or_none]
    rfl
  refine ⟨rfl, hpages, hspares, ⟨row, hrow, fun e => ?_⟩, fun e => ?_⟩
  · cases e with
    | draft => exact hdraft'
    | online => exact honline'
  · cases e with
    | draft => exact hdraftSame
    | online => exact honlineSame

/-- A page that has gone offline has nothing filed of its online edition. -/
theorem touches_of_setPageOffline {u : Unit} (h : setPageOffline code t = .ok (u, t')) :
    t.Touches t' .online code ∧ t'.metadataOf .online code = none ∧
      (t'.widgets.online).get? code = none := by
  unfold setPageOffline at h
  split at h
  · cases h
    obtain ⟨htouches, hnone, -⟩ := touches_dropEdition t .online code
    exact ⟨htouches, hnone, filed_dropEdition t .online code⟩
  · cases h

-- ════════════════════════════════════════════════════════════════════════
-- Edits of draft frames
-- ════════════════════════════════════════════════════════════════════════

/-- A filled frame holds the widget as it is stored, and the draft is stamped. -/
theorem touches_of_joinWidget {frame : Int} {w : Widget} {stamp : Timestamp}
    (h : joinWidget r time code frame w t = .ok (stamp, t')) :
    stamp = time ∧ t.Touches t' .draft code ∧
      (∃ row, t.metadataOf .draft code = some row ∧
        t'.metadataOf .draft code = some { row with updatedAt := some time }) ∧
      t'.widgetsOf .draft code = (t.widgetsOf .draft code).insert frame (storedWidget r w) := by
  simp only [joinWidget, bind_eq_ok, require_eq_ok] at h
  obtain ⟨u, hinsert, v, hstamp, h⟩ := h
  cases h
  obtain ⟨hdelete, hsame, herase⟩ := touches_deleteWidget t .draft code frame
  obtain ⟨hfill, hsame', hinsert⟩ := touches_of_insertWidget hinsert
  obtain ⟨hstamped, ⟨row, hrow, hrow'⟩, hkeep⟩ := touches_of_stampMetadata hstamp
  rw [hsame', hsame] at hrow
  refine ⟨rfl, (hdelete.trans hfill).trans hstamped, ⟨row, hrow, hrow'⟩, ?_⟩
  rw [hkeep, hinsert, herase]
  apply Keyed.ext_get?
  intro other
  rw [Keyed.get?_insert, Keyed.get?_insert, Keyed.get?_erase]
  split <;> rfl

/-- An emptied frame holds no widget, and the draft is stamped. -/
theorem touches_of_removeWidget {frame : Int} {stamp : Timestamp}
    (h : removeWidget time code frame t = .ok (stamp, t')) :
    stamp = time ∧ t.Touches t' .draft code ∧
      (∃ row, t.metadataOf .draft code = some row ∧
        t'.metadataOf .draft code = some { row with updatedAt := some time }) ∧
      t'.widgetsOf .draft code = (t.widgetsOf .draft code).erase frame := by
  simp only [removeWidget, bind_eq_ok, require_eq_ok] at h
  obtain ⟨v, hstamp, h⟩ := h
  cases h
  obtain ⟨hdelete, hsame, herase⟩ := touches_deleteWidget t .draft code frame
  obtain ⟨hstamped, ⟨row, hrow, hrow'⟩, hkeep⟩ := touches_of_stampMetadata hstamp
  rw [hsame] at hrow
  exact ⟨rfl, hdelete.trans hstamped, ⟨row, hrow, hrow'⟩, hkeep.trans herase⟩

/-- Exchanged frames hold each other's widgets, and the draft is stamped. -/
theorem touches_of_moveWidget {source target : Int} {stamp : Timestamp}
    (hsource : source ≠ parkingFrame) (htarget : target ≠ parkingFrame)
    (hfree : (t.widgetsOf .draft code).get? parkingFrame = none)
    (h : moveWidget parkingFrame time code source target t = .ok (stamp, t')) :
    stamp = time ∧ t.Touches t' .draft code ∧
      (∃ row, t.metadataOf .draft code = some row ∧
        t'.metadataOf .draft code = some { row with updatedAt := some time }) ∧
      ∀ frame, (t'.widgetsOf .draft code).get? frame =
        if frame = target then (t.widgetsOf .draft code).get? source
        else if frame = source then (t.widgetsOf .draft code).get? target
        else (t.widgetsOf .draft code).get? frame := by
  simp only [moveWidget, bind_eq_ok, require_eq_ok] at h
  obtain ⟨u, hexchange, v, hstamp, h⟩ := h
  cases h
  obtain ⟨u', hexchange', hspec⟩ := exchangeFrames_spec hsource htarget hfree
  obtain rfl : u = u' := Except.ok.inj (hexchange.symm.trans hexchange')
  obtain ⟨hstamped, ⟨row, hrow, hrow'⟩, hkeep⟩ := touches_of_stampMetadata hstamp
  rw [hspec.metadataOf_eq] at hrow
  refine ⟨rfl, hspec.touches.trans hstamped, ⟨row, hrow, hrow'⟩, fun frame => ?_⟩
  rw [hkeep]
  exact hspec.widgets frame

end RowEdit

end Sitemap
