import Sitemap.Proofs.Rows.Steps

/-!
# Conditions on stored data

Extra data of metadata and widgets are stored as they are given, apart from the
normalisation of widgets. So a condition on them holds of the stored rows as long as it
holds of everything that is stored.

## Main definitions

- `Tables.AllData` — all extra data and all widgets in the tables satisfy given conditions
- `Edit.AllData` — what an edit stores satisfies them

## Main results

- `Edit.allData_of_run` — an edit keeps a condition that what it stores satisfies
-/

namespace Sitemap

variable {extra extra' : JsonValue → Prop} {placed placed' : Widget → Prop}

/-- The extra data of a version and its widgets, as they are stored, satisfy given
    conditions. -/
structure PageVersion.AllData (extra : JsonValue → Prop) (placed : Widget → Prop) (r : Registry)
    (v : PageVersion) : Prop where
  /-- The extra data. -/
  extra : extra v.extra
  /-- All widgets. -/
  widgets : ∀ frame w, v.slots.widgetAt frame = some w → placed (Tables.storedWidget r w)

/-- Stamping does not matter. -/
theorem PageVersion.AllData.stamped {r : Registry} {v : PageVersion}
    (h : v.AllData extra placed r) (time : Timestamp) :
    (v.stamped time).AllData extra placed r :=
  ⟨h.extra, h.widgets⟩

namespace Tables

/-- All extra data and all widgets in the tables satisfy given conditions. -/
structure AllData (extra : JsonValue → Prop) (placed : Widget → Prop) (t : Tables) : Prop where
  /-- The extra data of all metadata. -/
  metadata : ∀ edition code row, t.metadataOf edition code = some row → extra row.extra
  /-- All widgets. -/
  widgets : ∀ edition code frame w,
    (t.widgetsOf edition code).get? frame = some w → placed w

variable {t t' : Tables} {edition : Edition} {code : String} {r : Registry}

/-- A widget of a page is filed under the page and its frame. -/
theorem get?_widgetsOf {frame : Int} {w : Widget} :
    (t.widgetsOf edition code).get? frame = some w ↔
    ∃ frames, (t.widgets.get edition).get? code = some frames ∧ frames.get? frame = some w := by
  unfold widgetsOf
  cases (t.widgets.get edition).get? code with
  | none => simp
  | some frames => simp

/-- Conditions on the data, told by the entries of the tables. -/
theorem allData_iff : t.AllData extra placed ↔ ∀ edition ∈ Edition.all,
    (∀ e ∈ (t.metadata.get edition).entries, extra e.2.extra) ∧
      ∀ e ∈ (t.widgets.get edition).entries, ∀ f ∈ e.2.entries, placed f.2 := by
  constructor
  · intro h edition _
    refine ⟨fun e he => h.metadata edition e.1 e.2 (Keyed.get?_eq_some_iff.2 he),
      fun e he f hf => ?_⟩
    exact h.widgets edition e.1 f.1 f.2 (get?_widgetsOf.2
      ⟨e.2, Keyed.get?_eq_some_iff.2 he, Keyed.get?_eq_some_iff.2 hf⟩)
  · intro h
    refine ⟨fun edition code row hrow => ?_, fun edition code frame w hw => ?_⟩
    · exact (h edition edition.mem_all).1 _ (Keyed.get?_eq_some_iff.1 hrow)
    · obtain ⟨frames, hframes, hplaced⟩ := get?_widgetsOf.1 hw
      exact (h edition edition.mem_all).2 _ (Keyed.get?_eq_some_iff.1 hframes) _
        (Keyed.get?_eq_some_iff.1 hplaced)

instance [DecidablePred extra] [DecidablePred placed] : Decidable (t.AllData extra placed) :=
  decidable_of_iff _ allData_iff.symm

theorem AllData.imp (h : t.AllData extra placed) (hextra : ∀ v, extra v → extra' v)
    (hplaced : ∀ w, placed w → placed' w) : t.AllData extra' placed' where
  metadata e c row hrow := hextra _ (h.metadata e c row hrow)
  widgets e c frame w hw := hplaced _ (h.widgets e c frame w hw)

/-- A touch keeps a condition when what it leaves behind satisfies it. -/
theorem AllData.of_touches (h : t.AllData extra placed) (htouches : t.Touches t' edition code)
    (hmetadata : ∀ row, t'.metadataOf edition code = some row → extra row.extra)
    (hwidgets : ∀ frame w, (t'.widgetsOf edition code).get? frame = some w → placed w) :
    t'.AllData extra placed where
  metadata e c row hrow := by
    by_cases hc : e = edition ∧ c = code
    · obtain ⟨rfl, rfl⟩ := hc
      exact hmetadata row hrow
    · exact h.metadata e c row (htouches.metadata e c hc ▸ hrow)
  widgets e c frame w hw := by
    by_cases hc : e = edition ∧ c = code
    · obtain ⟨rfl, rfl⟩ := hc
      exact hwidgets frame w hw
    · exact h.widgets e c frame w (htouches.widgets e c hc ▸ hw)

/-- Changes of the rows of pages alone do not matter. -/
theorem AllData.of_places (h : t.AllData extra placed) (hmetadata : t'.metadata = t.metadata)
    (hwidgets : t'.widgets = t.widgets) : t'.AllData extra placed where
  metadata e c row hrow := by
    refine h.metadata e c row ?_
    rwa [metadataOf, hmetadata] at hrow
  widgets e c frame w hw := by
    refine h.widgets e c frame w ?_
    rwa [widgetsOf, hwidgets] at hw

theorem AllData.dropEdition (h : t.AllData extra placed) (edition : Edition) (code : String) :
    ((t.deleteWidgets edition code).deleteMetadata edition code).AllData extra placed := by
  obtain ⟨htouches, hmetadata, hwidgets⟩ := RowEdit.touches_dropEdition t edition code
  refine h.of_touches htouches (fun row hrow => ?_) fun frame w hw => ?_
  · rw [hmetadata] at hrow
    cases hrow
  · rw [hwidgets] at hw
    cases hw

/-- A stored version keeps a condition that it satisfies. -/
theorem AllData.insertVersion {v : PageVersion} (h : t.AllData extra placed)
    (hversion : v.AllData extra placed r)
    (hinsert : t.insertVersion r edition code v = .ok t') : t'.AllData extra placed := by
  obtain ⟨htouches, hmetadata, hwidgets⟩ := touches_of_insertVersion hinsert
  refine h.of_touches htouches (fun row hrow => ?_) fun frame w hw => ?_
  · obtain rfl := Option.some.inj (hmetadata.symm.trans hrow)
    exact hversion.extra
  · rw [hwidgets, get?_storedRows] at hw
    cases hslot : v.slots.widgetAt frame with
    | none =>
      rw [hslot] at hw
      exact h.widgets edition code frame w hw
    | some found =>
      rw [hslot] at hw
      obtain rfl := Option.some.inj hw
      exact hversion.widgets frame found hslot

theorem AllData.stampMetadata {time : Timestamp} (h : t.AllData extra placed)
    (hstamp : t.stampMetadata edition code time = .ok t') : t'.AllData extra placed := by
  obtain ⟨htouches, ⟨row, hrow, hrow'⟩, hwidgets⟩ := touches_of_stampMetadata hstamp
  refine h.of_touches htouches (fun row' hstamped => ?_) fun frame w hw => ?_
  · obtain rfl := Option.some.inj (hrow'.symm.trans hstamped)
    exact h.metadata edition code row hrow
  · exact h.widgets edition code frame w (hwidgets ▸ hw)

theorem AllData.copyDraftToOnline (h : t.AllData extra placed)
    (hcopy : t.copyDraftToOnline code = (.ok (), t')) : t'.AllData extra placed := by
  obtain ⟨htouches, ⟨row, hrow, hrow'⟩, hwidgets⟩ := touches_of_copyDraftToOnline hcopy
  refine h.of_touches htouches (fun row' hcopied => ?_) fun frame w hw => ?_
  · obtain rfl := Option.some.inj (hrow'.symm.trans hcopied)
    exact h.metadata .draft code row hrow
  · rw [hwidgets, Keyed.get?_foldl_insert (Keyed.ascending _)] at hw
    cases hdraft : (t.widgetsOf .draft code).get? frame with
    | none =>
      have hfind : Keyed.find frame (t.widgetsOf .draft code).entries = none := hdraft
      rw [hfind] at hw
      exact h.widgets .online code frame w hw
    | some found =>
      have hfind : Keyed.find frame (t.widgetsOf .draft code).entries = some found := hdraft
      rw [hfind] at hw
      obtain rfl := Option.some.inj hw
      exact h.widgets .draft code frame found hdraft

theorem AllData.deleteWidget (h : t.AllData extra placed) (edition : Edition) (code : String)
    (frame : Int) : (t.deleteWidget edition code frame).AllData extra placed := by
  obtain ⟨htouches, hmetadata, hwidgets⟩ := touches_deleteWidget t edition code frame
  refine h.of_touches htouches (fun row hrow => ?_) fun other w hw => ?_
  · exact h.metadata edition code row (hmetadata ▸ hrow)
  · rw [hwidgets, Keyed.get?_erase] at hw
    split at hw
    · cases hw
    · exact h.widgets edition code other w hw

theorem AllData.insertWidget {frame : Int} {w : Widget} (h : t.AllData extra placed)
    (hplaced : placed w) (hinsert : t.insertWidget edition code frame w = .ok t') :
    t'.AllData extra placed := by
  obtain ⟨htouches, hmetadata, hwidgets⟩ := touches_of_insertWidget hinsert
  refine h.of_touches htouches (fun row hrow => ?_) fun other x hx => ?_
  · exact h.metadata edition code row (hmetadata ▸ hrow)
  · rw [hwidgets, Keyed.get?_insert] at hx
    split at hx
    · obtain rfl := Option.some.inj hx
      exact hplaced
    · exact h.widgets edition code other x hx

theorem AllData.updateWidgetFrame {source target : Int} {n : Nat} (h : t.AllData extra placed)
    (hupdate : t.updateWidgetFrame edition code source target = .ok (n, t')) :
    t'.AllData extra placed := by
  unfold Tables.updateWidgetFrame at hupdate
  dsimp only at hupdate
  split at hupdate
  · cases hupdate
    exact h
  · next w hw =>
    split at hupdate
    · cases hupdate
    · cases hupdate
      obtain ⟨htouches, hfiled⟩ := touches_setWidgets_insert t edition code
        (((t.widgetsOf edition code).erase source).insert target w)
      refine h.of_touches htouches (fun row hrow => h.metadata edition code row hrow)
        fun frame x hx => ?_
      rw [hfiled, Keyed.get?_insert, Keyed.get?_erase] at hx
      split at hx
      · obtain rfl := Option.some.inj hx
        exact h.widgets edition code source w hw
      · split at hx
        · cases hx
        · exact h.widgets edition code frame x hx

/-- Conditions on data are kept by every step that stores such data. -/
theorem AllData.isKept (extra : JsonValue → Prop) (placed : Widget → Prop) (r : Registry) :
    IsKept r (fun v => v.AllData extra placed r) placed (AllData extra placed) where
  stamped time h := h.stamped time
  rows h _ := h.of_places
  drop edition code h := h.dropEdition edition code
  store h hversion hinsert := h.insertVersion hversion hinsert
  copy h hcopy := h.copyDraftToOnline hcopy
  stamp h hstamp := h.stampMetadata hstamp
  empty edition code frame h := h.deleteWidget edition code frame
  fill h _ hplaced hinsert := h.insertWidget hplaced hinsert
  move h hupdate := h.updateWidgetFrame hupdate

end Tables

-- ════════════════════════════════════════════════════════════════════════
-- Edits
-- ════════════════════════════════════════════════════════════════════════

namespace Edit

/-- What an edit stores satisfies given conditions. -/
def AllData (extra : JsonValue → Prop) (placed : Widget → Prop) (r : Registry) : Edit → Prop
  | .addPage page =>
    page.draft.AllData extra placed r ∧ ∀ v ∈ page.online, v.AllData extra placed r
  | .updatePage page => page.draft.AllData extra placed r
  | .joinWidget _ _ w => placed (Tables.storedWidget r w)
  | .deletePage _ | .updatePageGroup _ _ | .setPageOnline _ | .setPageOffline _ | .movePage _ _
  | .swapPositions _ _ | .removeWidget _ _ | .moveWidget _ _ _ => True

theorem AllData.stores {edit : Edit} {r : Registry} (h : edit.AllData extra placed r) :
    edit.Stores (fun v => v.AllData extra placed r) placed r := by
  cases edit with
  | _ => exact h

/-- An edit keeps a condition that what it stores satisfies. -/
theorem allData_of_run {edit : Edit} {r : Registry} {parkingFrame : Int} {time : Timestamp}
    {t t' : Tables} {answer : EditReply} (h : t.AllData extra placed)
    (hedit : edit.AllData extra placed r)
    (hrun : edit.run r parkingFrame time t = .ok (answer, t')) : t'.AllData extra placed :=
  kept_of_run (Tables.AllData.isKept extra placed r) h hedit.stores hrun

end Edit

end Sitemap
