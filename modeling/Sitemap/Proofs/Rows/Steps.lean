import Sitemap.Edit
import Sitemap.Proofs.Rows.Filing

/-!
# Steps of edits

The edits of the rows are made of few steps: rows of pages are rewritten, an edition is dropped,
stored, copied or stamped, and a frame is emptied, filled or moved. So a condition on tables
that each of these steps keeps is kept by every edit.

## Main definitions

- `Tables.IsKept` — every step keeps a condition
- `Edit.Stores` — the versions and the widgets that an edit stores satisfy given conditions

## Main results

- `Edit.kept_of_run` — every edit keeps a condition that every step keeps
- `Edit.isKeyed_of_run` — so rows stay filed under their codes

## Design notes

A widget may be stored before it is known that its page has metadata: it is the stamp at the end
of the edit that is refused where there is none. The step that fills a frame comes with the
metadata all the same, since nothing is kept of an edit that is refused.
-/

namespace Sitemap

variable {r : Registry} {version : PageVersion → Prop} {placed : Widget → Prop}
  {P : Tables → Prop}

/-- Every step of an edit keeps a condition on tables, as long as the versions and the widgets
    that it stores satisfy given conditions. -/
structure Tables.IsKept (r : Registry) (version : PageVersion → Prop) (placed : Widget → Prop)
    (P : Tables → Prop) : Prop where
  /-- A stamped version is as good as the version. -/
  stamped : ∀ {v} time, version v → version (PageVersion.stamped v time)
  /-- The rows of pages are rewritten. -/
  rows : ∀ {t t' : Tables}, P t → Statement.Rewrites t.pages t'.pages →
    t'.metadata = t.metadata → t'.widgets = t.widgets → P t'
  /-- An edition is dropped. -/
  drop : ∀ {t : Tables} edition code, P t →
    P ((t.deleteWidgets edition code).deleteMetadata edition code)
  /-- A version is stored. -/
  store : ∀ {t t' : Tables} {edition code v}, P t → version v →
    t.insertVersion r edition code v = .ok t' → P t'
  /-- A draft is copied. -/
  copy : ∀ {t t' : Tables} {code}, P t → t.copyDraftToOnline code = (.ok (), t') → P t'
  /-- An edition is stamped. -/
  stamp : ∀ {t t' : Tables} {edition code time}, P t →
    t.stampMetadata edition code time = .ok t' → P t'
  /-- A frame is emptied. -/
  empty : ∀ {t : Tables} edition code frame, P t → P (t.deleteWidget edition code frame)
  /-- A frame of an edition with metadata is filled. -/
  fill : ∀ {t t' : Tables} {edition code frame w}, P t → (t.metadataOf edition code).isSome →
    placed w → t.insertWidget edition code frame w = .ok t' → P t'
  /-- A widget is moved to another frame. -/
  move : ∀ {t t' : Tables} {edition code source target n}, P t →
    t.updateWidgetFrame edition code source target = .ok (n, t') → P t'

/-- The versions that an edit stores and the widgets, as they are stored, satisfy given
    conditions. -/
def Edit.Stores (version : PageVersion → Prop) (placed : Widget → Prop) (r : Registry) :
    Edit → Prop
  | .addPage page => version page.draft ∧ ∀ v ∈ page.online, version v
  | .updatePage page => version page.draft
  | .joinWidget _ _ w => placed (Tables.storedWidget r w)
  | .deletePage _ | .updatePageGroup _ _ | .setPageOnline _ | .setPageOffline _ | .movePage _ _
  | .swapPositions _ _ | .removeWidget _ _ | .moveWidget _ _ _ => True

namespace Tables.IsKept

open RowEdit

variable {t t' : Tables} {time : Timestamp} {page : Page} {code : String} {parkingFrame : Int}

theorem modifyPage (hkept : IsKept r version placed P) {f : PageRow → PageRow} (h : P t)
    (hmodify : t.modifyPage code f = .ok t') (hcode : ∀ row, (f row).code = row.code) : P t' := by
  have hpages := Statement.rewrites_of_modifyPage hcode hmodify
  obtain ⟨-, rfl⟩ := modifyPage_eq_ok.1 hmodify
  exact hkept.rows h hpages rfl rfl

theorem shiftPages (hkept : IsKept r version placed P) (h : P t) (parent : String)
    (position : Int) : P (t.shiftPages parent position) := by
  have hcode : ∀ (key : String) (row : PageRow),
      ({ row with toPlacement := row.toPlacement.closeGap parent position } : PageRow).code =
        row.code := fun _ row => Placement.code_closeGap row.toPlacement
  exact hkept.rows h (Statement.Rewrites.mapped hcode) rfl rfl

-- ════════════════════════════════════════════════════════════════════════
-- Pages
-- ════════════════════════════════════════════════════════════════════════

theorem addPage (hkept : IsKept r version placed P) (h : P t) (hdraft : version page.draft)
    (honline : ∀ v ∈ page.online, version v) {stored : Page}
    (hadd : RowEdit.addPage r time page t = .ok (stored, t')) : P t' := by
  obtain ⟨hfree, rfl, u, hinsert, hresult⟩ := steps_of_addPage hadd
  have hinserted : ∀ row : PageRow, t.pages.get? row.code = none →
      P { t with pages := t.pages.insert row.code row } := by
    intro row hfree
    have hpages : Statement.Rewrites t.pages (t.pages.insert row.code row) := .inserted hfree
    exact hkept.rows h hpages rfl rfl
  have hpage : ∀ position, P { t with
      pages := t.pages.insert page.code ⟨⟨page.code, page.parent, position⟩, page.group⟩ } :=
    fun position => hinserted ⟨⟨page.code, page.parent, position⟩, page.group⟩ hfree
  have hstored := hkept.store (hpage _) (hkept.stamped time hdraft) hinsert
  obtain ⟨-, rfl⟩ | ⟨v, hedition, hversion⟩ := hresult
  · exact hstored
  · obtain ⟨w, hw, rfl⟩ := Option.map_eq_some_iff.1 hedition
    exact hkept.store hstored (hkept.stamped time (honline w hw)) hversion

theorem deletePage (hkept : IsKept r version placed P) (h : P t) {u : Unit}
    (hdelete : RowEdit.deletePage code t = .ok (u, t')) : P t' := by
  obtain ⟨row, -, -, dropped, hdropped, rfl⟩ := pages_of_deletePage hdelete
  obtain ⟨-, rfl⟩ := deletePage_eq_ok.1 hdropped
  have hempty : P (dropEditions code t) := hkept.drop .online code (hkept.drop .draft code h)
  have hleft : P { dropEditions code t with pages := (dropEditions code t).pages.erase code } :=
    hkept.rows hempty .dropped rfl rfl
  split
  · exact hkept.shiftPages hleft _ _
  · exact hleft

theorem updatePage (hkept : IsKept r version placed P) (h : P t) (hdraft : version page.draft)
    {draft : PageVersion} (hupdate : RowEdit.updatePage r time page t = .ok (draft, t')) :
    P t' := by
  simp only [RowEdit.updatePage, bind_eq_ok, require_eq_ok, Tables.updatePage] at hupdate
  obtain ⟨u, hinsert, v, hplace, hresult⟩ := hupdate
  cases hresult
  have hstored := hkept.store (hkept.drop .draft page.code h) (hkept.stamped time hdraft) hinsert
  exact hkept.modifyPage hstored hplace fun _ => rfl

theorem updatePageGroup (hkept : IsKept r version placed P) (h : P t) {group : String} {u : Unit}
    (hupdate : RowEdit.updatePageGroup code group t = .ok (u, t')) : P t' := by
  simp only [RowEdit.updatePageGroup, bind_eq_ok, require_eq_ok, Tables.updatePage] at hupdate
  obtain ⟨v, hplace, hresult⟩ := hupdate
  cases hresult
  exact hkept.modifyPage h hplace fun _ => rfl

theorem movePage (hkept : IsKept r version placed P) (h : P t) {newParent : String}
    {moved : Option ReparentPlan} (hmove : RowEdit.movePage code newParent t = .ok (moved, t')) :
    P t' := by
  simp only [RowEdit.movePage, bind_eq_ok] at hmove
  obtain ⟨planned, -, hresult⟩ := hmove
  cases planned with
  | none =>
    cases hresult
    exact h
  | some plan =>
    simp only [bind_eq_ok, require_eq_ok, updateTreePosition] at hresult
    obtain ⟨u, hplace, hresult⟩ := hresult
    cases hresult
    exact hkept.shiftPages (hkept.modifyPage h hplace fun _ => rfl) _ _

theorem swapPositions (hkept : IsKept r version placed P) (h : P t) {up : Bool}
    {swapped : Option SwapPlan} (hswap : RowEdit.swapPositions code up t = .ok (swapped, t')) :
    P t' := by
  simp only [RowEdit.swapPositions, bind_eq_ok] at hswap
  obtain ⟨planned, -, hresult⟩ := hswap
  cases planned with
  | none =>
    cases hresult
    exact h
  | some plan =>
    simp only [bind_eq_ok, require_eq_ok, offsetPosition] at hresult
    obtain ⟨u, hup, v, hdown, hresult⟩ := hresult
    cases hresult
    exact hkept.modifyPage (hkept.modifyPage h hup fun _ => rfl) hdown fun _ => rfl

-- ════════════════════════════════════════════════════════════════════════
-- Publication
-- ════════════════════════════════════════════════════════════════════════

theorem setPageOnline (hkept : IsKept r version placed P) (h : P t) {stamp : Timestamp}
    (honline : RowEdit.setPageOnline time code t = .ok (stamp, t')) : P t' := by
  simp only [RowEdit.setPageOnline, bind_eq_ok, require_eq_ok] at honline
  obtain ⟨⟨⟩, hcopied, u, hdraft, v, hpublished, hresult⟩ := honline
  cases hresult
  have hcopy := hkept.copy (hkept.drop .online code h) (Prod.ext hcopied rfl)
  exact hkept.stamp (hkept.stamp hcopy hdraft) hpublished

theorem setPageOffline (hkept : IsKept r version placed P) (h : P t) {u : Unit}
    (hoffline : RowEdit.setPageOffline code t = .ok (u, t')) : P t' := by
  unfold RowEdit.setPageOffline at hoffline
  split at hoffline
  · cases hoffline
    exact hkept.drop .online code h
  · cases hoffline

-- ════════════════════════════════════════════════════════════════════════
-- Widgets
-- ════════════════════════════════════════════════════════════════════════

/-- The page whose frame is filled has metadata, or it could not be stamped. -/
theorem joinWidget (hkept : IsKept r version placed P) (h : P t) {frame : Int} {w : Widget}
    (hplaced : placed (storedWidget r w)) {stamp : Timestamp}
    (hjoin : RowEdit.joinWidget r time code frame w t = .ok (stamp, t')) : P t' := by
  simp only [RowEdit.joinWidget, bind_eq_ok, require_eq_ok] at hjoin
  obtain ⟨u, hinsert, v, hstamp, hresult⟩ := hjoin
  cases hresult
  obtain ⟨-, hsame, -⟩ := touches_of_insertWidget hinsert
  obtain ⟨-, ⟨row, hrow, -⟩, -⟩ := touches_of_stampMetadata hstamp
  rw [hsame] at hrow
  exact hkept.stamp (hkept.fill (hkept.empty .draft code frame h) (Option.isSome_of_eq_some hrow)
    hplaced hinsert) hstamp

theorem removeWidget (hkept : IsKept r version placed P) (h : P t) {frame : Int}
    {stamp : Timestamp} (hremove : RowEdit.removeWidget time code frame t = .ok (stamp, t')) :
    P t' := by
  simp only [RowEdit.removeWidget, bind_eq_ok, require_eq_ok] at hremove
  obtain ⟨u, hstamp, hresult⟩ := hremove
  cases hresult
  exact hkept.stamp (hkept.empty .draft code frame h) hstamp

/-- Frames may be exchanged with themselves and with the parking frame, too. -/
theorem moveWidget (hkept : IsKept r version placed P) (h : P t) {source target : Int}
    {stamp : Timestamp}
    (hmove : RowEdit.moveWidget parkingFrame time code source target t = .ok (stamp, t')) :
    P t' := by
  simp only [RowEdit.moveWidget, exchangeFrames, bind_eq_ok, require_eq_ok, pure_eq_ok] at hmove
  obtain ⟨u, ⟨⟨_, v⟩, hpark, ⟨_, w⟩, hfill, ⟨_, x⟩, hunpark, rfl⟩, y, hstamp, hresult⟩ := hmove
  cases hresult
  exact hkept.stamp (hkept.move (hkept.move (hkept.move h hpark) hfill) hunpark) hstamp

end Tables.IsKept

/-- Every edit keeps a condition that every step keeps. -/
theorem Edit.kept_of_run (hkept : Tables.IsKept r version placed P) {edit : Edit}
    {parkingFrame : Int} {time : Timestamp} {t t' : Tables} {answer : EditReply} (h : P t)
    (hstores : edit.Stores version placed r)
    (hrun : edit.run r parkingFrame time t = .ok (answer, t')) : P t' := by
  -- each edit is the one on the rows, whatever is made of its answer
  cases edit
  all_goals
    obtain ⟨⟨a, u⟩, hrow, hanswer⟩ := map_eq_ok.1 hrun
    cases hanswer
  case addPage page => exact hkept.addPage h hstores.1 hstores.2 hrow
  case deletePage code => exact hkept.deletePage h hrow
  case updatePage page => exact hkept.updatePage h hstores hrow
  case updatePageGroup code group => exact hkept.updatePageGroup h hrow
  case setPageOnline code => exact hkept.setPageOnline h hrow
  case setPageOffline code => exact hkept.setPageOffline h hrow
  case movePage code newParent => exact hkept.movePage h hrow
  case swapPositions code up => exact hkept.swapPositions h hrow
  case joinWidget code frame w => exact hkept.joinWidget h hstores hrow
  case removeWidget code frame => exact hkept.removeWidget h hrow
  case moveWidget code source target => exact hkept.moveWidget h hrow

/-- Every step keeps rows filed under their codes, whatever it stores. -/
theorem Tables.IsKeyed.isKept (r : Registry) :
    IsKept r (fun _ => True) (fun _ => True) IsKeyed where
  stamped _ _ := trivial
  rows h hpages _ _ := hpages.isKeyed h
  drop edition code h := h.of_pages (RowEdit.touches_dropEdition _ edition code).1.pages
  store h _ hinsert := h.of_pages (touches_of_insertVersion hinsert).1.pages
  copy h hcopy := h.of_pages (touches_of_copyDraftToOnline hcopy).1.pages
  stamp h hstamp := h.of_pages (touches_of_stampMetadata hstamp).1.pages
  empty edition code frame h := h.of_pages (touches_deleteWidget _ edition code frame).1.pages
  fill h _ _ hinsert := h.of_pages (touches_of_insertWidget hinsert).1.pages
  move h hupdate := h.of_pages (pages_of_updateWidgetFrame hupdate)

/-- An edit keeps rows filed under their codes, whatever it is given. -/
theorem Edit.isKeyed_of_run {t t' : Tables} {parkingFrame : Int} {time : Timestamp} {edit : Edit}
    {reply : EditReply} (h : t.IsKeyed) (hrun : edit.run r parkingFrame time t = .ok (reply, t')) :
    t'.IsKeyed := by
  refine kept_of_run (Tables.IsKeyed.isKept r) h ?_ hrun
  cases edit with
  | addPage => exact ⟨trivial, fun _ _ => trivial⟩
  | _ => trivial

end Sitemap
