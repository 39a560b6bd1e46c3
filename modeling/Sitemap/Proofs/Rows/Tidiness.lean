import Sitemap.Proofs.Rows.Data

/-!
# Tidy rows

The reference check asks of widgets that they belong to a stored page. Edits do better: while
they run, widgets are filed of an edition only where its metadata is stored as well, and a page
whose last widget is gone leaves no empty file behind. This holds whatever an edit is given, codes
of missing pages and frames that no model has included.

## Main definitions

- `Tables.IsTidyAt` — nothing is left over of one edition of one page
- `Tables.IsTidy` — nothing is left over at all, and rows are filed under their codes

## Main results

- `Tables.IsTidy.isKept` — every step of an edit leaves nothing over
- `Edit.isTidy_of_run` — an edit keeps rows tidy
- `RowEdit.widgets_of_addPage` — a new page has the widgets that it is added with, and no others
-/

namespace Sitemap

/-- A collection with an insertion is not empty. -/
theorem Keyed.insert_ne_empty {κ β : Type} [Ord κ] [Std.TransOrd κ] (m : Keyed κ β) (key : κ)
    (value : β) : m.insert key value ≠ ∅ := by
  intro hempty
  have hget := m.get?_insert_self key value
  rw [hempty, get?_empty] at hget
  cases hget

/-- Collections in which the same keys find something have the same keys. -/
theorem Keyed.keys_congr {κ β γ : Type} [Ord κ] [Std.TransOrd κ] [Std.LawfulEqOrd κ]
    {a : Keyed κ β} {b : Keyed κ γ} (h : ∀ key, (a.get? key).isSome = (b.get? key).isSome) :
    a.keys = b.keys := by
  have hkeys : ∀ {δ : Type} (m : Keyed κ δ), (m.map fun _ _ => ()).keys = m.keys := by
    intro δ m
    unfold keys map
    rw [List.map_map]
    rfl
  have hunits : (a.map fun _ _ => ()) = b.map fun _ _ => () := by
    apply ext_get?
    intro key
    rw [get?_map, get?_map]
    have hsome := h key
    cases ha : a.get? key <;> cases hb : b.get? key <;> simp_all
  rw [← hkeys a, hunits, hkeys b]

namespace Tables

variable {t t' : Tables} {edition : Edition} {code : String} {r : Registry}

/-- Nothing is left over of one edition of a page: if widgets are filed, there are some, and there
    is metadata. -/
def IsTidyAt (t : Tables) (edition : Edition) (code : String) : Prop :=
  ∀ frames, (t.widgets.get edition).get? code = some frames →
    frames ≠ ∅ ∧ (t.metadataOf edition code).isSome

/-- Rows are filed under their codes, and nothing is left over of any edition of any page. -/
structure IsTidy (t : Tables) : Prop where
  /-- Rows are filed under their codes. -/
  keyed : t.IsKeyed
  /-- Nothing is left over. -/
  editions : ∀ edition code, t.IsTidyAt edition code

theorem isTidy_empty : empty.IsTidy where
  keyed _ _ hrow := by cases hrow
  editions edition _ _ hframes := by cases edition <;> cases hframes

/-- A touch keeps rows tidy when it leaves nothing over where it touches. -/
theorem IsTidy.of_touches (h : t.IsTidy) (htouches : t.Touches t' edition code)
    (hat : t'.IsTidyAt edition code) : t'.IsTidy where
  keyed c row hrow := h.keyed c row (htouches.pages ▸ hrow)
  editions e c := by
    by_cases hc : e = edition ∧ c = code
    · obtain ⟨rfl, rfl⟩ := hc
      exact hat
    · intro frames hframes
      rw [htouches.filed e c hc] at hframes
      rw [htouches.metadata e c hc]
      exact h.editions e c frames hframes

/-- Rewriting rows of pages leaves nothing over. -/
theorem IsTidy.of_rewrites (h : t.IsTidy) (hpages : Statement.Rewrites t.pages t'.pages)
    (hmetadata : t'.metadata = t.metadata) (hwidgets : t'.widgets = t.widgets) : t'.IsTidy where
  keyed := hpages.isKeyed h.keyed
  editions e c frames hframes := by
    rw [hwidgets] at hframes
    rw [metadataOf, hmetadata]
    exact h.editions e c frames hframes

-- ════════════════════════════════════════════════════════════════════════
-- Statements
-- ════════════════════════════════════════════════════════════════════════

/-- Nothing is left over of a dropped edition. -/
theorem isTidyAt_dropEdition (t : Tables) (edition : Edition) (code : String) :
    ((t.deleteWidgets edition code).deleteMetadata edition code).IsTidyAt edition code := by
  intro frames hframes
  rw [RowEdit.filed_dropEdition] at hframes
  cases hframes

theorem IsTidy.dropEdition (h : t.IsTidy) (edition : Edition) (code : String) :
    ((t.deleteWidgets edition code).deleteMetadata edition code).IsTidy :=
  h.of_touches (RowEdit.touches_dropEdition t edition code).1 (t.isTidyAt_dropEdition edition code)

theorem widgets_of_insertMetadata {row : Metadata}
    (hinsert : t.insertMetadata edition code row = .ok t') : t'.widgets = t.widgets := by
  unfold Tables.insertMetadata at hinsert
  split at hinsert <;> cases hinsert
  rfl

theorem widgets_of_stampMetadata {time : Timestamp}
    (hstamp : t.stampMetadata edition code time = .ok t') : t'.widgets = t.widgets := by
  unfold Tables.stampMetadata at hstamp
  split at hstamp <;> cases hstamp
  rfl

/-- Where the widgets stay and there is metadata, nothing is left over. -/
theorem IsTidyAt.of_widgets (h : t.IsTidyAt edition code) (hwidgets : t'.widgets = t.widgets)
    (hstored : (t'.metadataOf edition code).isSome) : t'.IsTidyAt edition code := by
  intro frames hframes
  rw [hwidgets] at hframes
  exact ⟨(h frames hframes).1, hstored⟩

/-- Metadata that is stored leaves nothing over. -/
theorem IsTidyAt.insertMetadata {row : Metadata} (h : t.IsTidyAt edition code)
    (hinsert : t.insertMetadata edition code row = .ok t') : t'.IsTidyAt edition code :=
  h.of_widgets (widgets_of_insertMetadata hinsert)
    (Option.isSome_of_eq_some (touches_of_insertMetadata hinsert).2.2.1)

theorem IsTidy.insertMetadata {row : Metadata} (h : t.IsTidy)
    (hinsert : t.insertMetadata edition code row = .ok t') : t'.IsTidy :=
  h.of_touches (touches_of_insertMetadata hinsert).1
    ((h.editions edition code).insertMetadata hinsert)

theorem IsTidyAt.stampMetadata {time : Timestamp} (h : t.IsTidyAt edition code)
    (hstamp : t.stampMetadata edition code time = .ok t') : t'.IsTidyAt edition code := by
  obtain ⟨-, ⟨row, -, hstored⟩, -⟩ := touches_of_stampMetadata hstamp
  exact h.of_widgets (widgets_of_stampMetadata hstamp) (Option.isSome_of_eq_some hstored)

theorem IsTidy.stampMetadata {time : Timestamp} (h : t.IsTidy)
    (hstamp : t.stampMetadata edition code time = .ok t') : t'.IsTidy :=
  h.of_touches (touches_of_stampMetadata hstamp).1 ((h.editions edition code).stampMetadata hstamp)

/-- Filing widgets anew leaves nothing over when there are some, and there is metadata. -/
theorem isTidyAt_fileWidgets {frames : Keyed Int Widget} (hsome : frames ≠ ∅)
    (hstored : (t.metadataOf edition code).isSome) :
    (t.setWidgets edition ((t.widgets.get edition).insert code frames)).IsTidyAt edition code := by
  intro filed hfiled
  unfold setWidgets at hfiled
  rw [ByEdition.get_set_self, Keyed.get?_insert_self] at hfiled
  cases hfiled
  exact ⟨hsome, hstored⟩

theorem IsTidy.fileWidgets {frames : Keyed Int Widget} (h : t.IsTidy) (hsome : frames ≠ ∅)
    (hstored : (t.metadataOf edition code).isSome) :
    (t.setWidgets edition ((t.widgets.get edition).insert code frames)).IsTidy :=
  h.of_touches (touches_setWidgets_insert t edition code frames).1
    (isTidyAt_fileWidgets hsome hstored)

/-- A widget of an edition with metadata leaves nothing over. -/
theorem isTidyAt_of_insertWidget {frame : Int} {w : Widget}
    (hstored : (t.metadataOf edition code).isSome)
    (hinsert : t.insertWidget edition code frame w = .ok t') : t'.IsTidyAt edition code := by
  unfold Tables.insertWidget at hinsert
  dsimp only at hinsert
  split at hinsert
  · cases hinsert
  · cases hinsert
    exact isTidyAt_fileWidgets (Keyed.insert_ne_empty _ frame w) hstored

theorem IsTidy.insertWidget {frame : Int} {w : Widget} (h : t.IsTidy)
    (hstored : (t.metadataOf edition code).isSome)
    (hinsert : t.insertWidget edition code frame w = .ok t') : t'.IsTidy :=
  h.of_touches (touches_of_insertWidget hinsert).1 (isTidyAt_of_insertWidget hstored hinsert)

theorem IsTidyAt.insertWidgets {rows : List (Int × Widget)} (h : t.IsTidyAt edition code)
    (hstored : (t.metadataOf edition code).isSome)
    (hinsert : insertWidgets edition code rows t = (.ok (), t')) : t'.IsTidyAt edition code := by
  induction rows generalizing t with
  | nil =>
    cases hinsert
    exact h
  | cons e rest ih =>
    obtain ⟨frame, w⟩ := e
    unfold Tables.insertWidgets at hinsert
    split at hinsert
    · next hfirst =>
      have hsame := (touches_of_insertWidget hfirst).2.1
      exact ih (isTidyAt_of_insertWidget hstored hfirst) (by rwa [hsame]) hinsert
    · cases hinsert

theorem IsTidy.insertWidgets {rows : List (Int × Widget)} (h : t.IsTidy)
    (hstored : (t.metadataOf edition code).isSome)
    (hinsert : insertWidgets edition code rows t = (.ok (), t')) : t'.IsTidy :=
  h.of_touches (touches_of_insertWidgets hinsert).1
    ((h.editions edition code).insertWidgets hstored hinsert)

/-- The last widget of a page leaves nothing behind. -/
theorem IsTidy.deleteWidget (h : t.IsTidy) (edition : Edition) (code : String) (frame : Int) :
    (t.deleteWidget edition code frame).IsTidy := by
  unfold Tables.deleteWidget
  cases hfiled : (t.widgets.get edition).get? code with
  | none => exact h
  | some frames =>
    dsimp only
    split
    · refine h.of_touches (touches_deleteWidgets t edition code).1 fun left hleft => ?_
      unfold setWidgets at hleft
      rw [ByEdition.get_set_self, Keyed.get?_erase, if_pos rfl] at hleft
      cases hleft
    · next hleft =>
      refine h.fileWidgets (fun hempty => hleft ?_) (h.editions edition code frames hfiled).2
      rw [hempty]
      rfl

/-- Only a widget that is filed is moved, so there is metadata. -/
theorem IsTidy.updateWidgetFrame {source target : Int} {n : Nat} (h : t.IsTidy)
    (hupdate : t.updateWidgetFrame edition code source target = .ok (n, t')) : t'.IsTidy := by
  unfold Tables.updateWidgetFrame at hupdate
  dsimp only at hupdate
  split at hupdate
  · cases hupdate
    exact h
  · next w hw =>
    split at hupdate
    · cases hupdate
    · cases hupdate
      obtain ⟨frames, hframes, -⟩ := get?_widgetsOf.1 hw
      exact h.fileWidgets (Keyed.insert_ne_empty _ target w)
        (h.editions edition code frames hframes).2

theorem IsTidy.insertVersion {v : PageVersion} (h : t.IsTidy)
    (hinsert : t.insertVersion r edition code v = .ok t') : t'.IsTidy := by
  simp only [Tables.insertVersion, bind_eq_ok] at hinsert
  obtain ⟨u, hmetadata, hrows⟩ := hinsert
  have hstored := (touches_of_insertMetadata hmetadata).2.2.1
  split at hrows
  · next hwidgets =>
    cases hrows
    exact (h.insertMetadata hmetadata).insertWidgets (Option.isSome_of_eq_some hstored) hwidgets
  · cases hrows

/-- A copy of the draft leaves nothing over online. -/
theorem IsTidyAt.copyDraftToOnline (h : t.IsTidyAt .online code)
    (hcopy : t.copyDraftToOnline code = (.ok (), t')) : t'.IsTidyAt .online code := by
  unfold Tables.copyDraftToOnline at hcopy
  split at hcopy
  · cases hcopy
  · split at hcopy
    · cases hcopy
    · next hmetadata =>
      have hstored := (touches_of_insertMetadata hmetadata).2.2.1
      exact (h.insertMetadata hmetadata).insertWidgets (Option.isSome_of_eq_some hstored) hcopy

theorem IsTidy.copyDraftToOnline (h : t.IsTidy)
    (hcopy : t.copyDraftToOnline code = (.ok (), t')) : t'.IsTidy :=
  h.of_touches (touches_of_copyDraftToOnline hcopy).1
    ((h.editions .online code).copyDraftToOnline hcopy)

/-- Every step leaves nothing over, whatever it stores. -/
theorem IsTidy.isKept (r : Registry) : IsKept r (fun _ => True) (fun _ => True) IsTidy where
  stamped _ _ := trivial
  rows := IsTidy.of_rewrites
  drop edition code h := h.dropEdition edition code
  store h _ hinsert := h.insertVersion hinsert
  copy h hcopy := h.copyDraftToOnline hcopy
  stamp h hstamp := h.stampMetadata hstamp
  empty edition code frame h := h.deleteWidget edition code frame
  fill h hstored _ hinsert := h.insertWidget hstored hinsert
  move h hupdate := h.updateWidgetFrame hupdate

end Tables

-- ════════════════════════════════════════════════════════════════════════
-- Edits
-- ════════════════════════════════════════════════════════════════════════

/-- An edit keeps rows tidy, whatever it is given. -/
theorem Edit.isTidy_of_run {t t' : Tables} {r : Registry} {parkingFrame : Int} {time : Timestamp}
    {edit : Edit} {reply : EditReply} (h : t.IsTidy)
    (hrun : edit.run r parkingFrame time t = .ok (reply, t')) : t'.IsTidy := by
  refine kept_of_run (Tables.IsTidy.isKept r) h ?_ hrun
  cases edit with
  | addPage => exact ⟨trivial, fun _ _ => trivial⟩
  | _ => trivial

namespace RowEdit

variable {t t' : Tables} {r : Registry} {time : Timestamp} {page : Page} {code : String}

/-- A new page has the widgets that it is added with in each of its editions, and no others. -/
theorem widgets_of_addPage (hlinked : t.IsLinked) {stored : Page}
    (hadd : addPage r time page t = .ok (stored, t')) (e : Edition) (frame : Int) :
    (t'.widgetsOf e page.code).get? frame =
      ((page.version e).bind fun v => v.slots.widgetAt frame).map (Tables.storedWidget r) := by
  obtain ⟨hfree, rfl, u, hdraft, hsteps⟩ := steps_of_addPage hadd
  have hempty := hlinked.widgetsOf_eq_empty hfree
  obtain ⟨htouches, -, hwidgets⟩ := Tables.touches_of_insertVersion hdraft
  have hdraftWidgets : (u.widgetsOf .draft page.code).get? frame =
      (page.draft.slots.widgetAt frame).map (Tables.storedWidget r) := by
    rw [hwidgets, Tables.get?_storedRows]
    show Option.or _ ((t.widgetsOf .draft page.code).get? frame) = _
    rw [hempty, Keyed.get?_empty, Option.or_none]
    rfl
  have honlineWidgets : u.widgetsOf .online page.code = ∅ :=
    (htouches.widgets .online page.code (by simp)).trans (hempty .online)
  obtain ⟨hnone, rfl⟩ | ⟨v, hversion, honline⟩ := hsteps
  · cases e with
    | draft => exact hdraftWidgets
    | online =>
      rw [honlineWidgets, Page.version, Option.map_eq_none_iff.1 hnone]
      rfl
  · obtain ⟨w, hw, rfl⟩ := Option.map_eq_some_iff.1 hversion
    obtain ⟨htouches', -, hwidgets'⟩ := Tables.touches_of_insertVersion honline
    cases e with
    | draft =>
      rw [htouches'.widgets .draft page.code (by simp)]
      exact hdraftWidgets
    | online =>
      rw [hwidgets', Tables.get?_storedRows, honlineWidgets, Keyed.get?_empty, Option.or_none,
        Page.version, hw]
      rfl

end RowEdit

end Sitemap
