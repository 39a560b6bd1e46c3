import Sitemap.Proofs.Page.Slots
import Sitemap.Rows.Loading

/-!
# Contents of pages

A page is where it sits and what it shows. The hierarchy is about the first; this module
names the second, and says which versions can be stored without loss.

## Main definitions

- `PageContent`, `Page.content` — what a page shows, apart from its place
- `PageVersion.IsStorable` — a version that comes back from the rows as it is
- `PageVersion.asStored`, `Page.asStored` — what the rows keep of the others
- `PageVersion.KeepsConfigs`, `Page.KeepsConfigs` — all configurations are kept

## Main results

- `Page.ext_content` — a page is its place and its content
- `Tables.storedWidget_eq_self_iff` — the widgets that are stored as they are
- `PageVersion.asStored_eq_self_iff`, `Page.asStored_eq_self_iff` — so for versions and pages
-/

namespace Sitemap

/-- What a page shows, apart from its place. -/
structure PageContent where
  /-- The group that owns the page. -/
  group : String
  /-- What editors work on. -/
  draft : PageVersion
  /-- What visitors see, while the page is published. -/
  online : Option PageVersion

/-- What a page shows, apart from its place. -/
def Page.content (p : Page) : PageContent := ⟨p.group, p.draft, p.online⟩

/-- What pages show, by code. -/
abbrev Contents : Type := String → Option PageContent

/-- Two changes of one page that agree on what it shows come to the same. -/
theorem Contents.change_congr {s : Contents} {code : String} {k : PageContent}
    {f g : PageContent → PageContent} (hk : s code = some k) (h : f k = g k) :
    (fun c => if c = code then (s c).map f else s c) =
      fun c => if c = code then (s c).map g else s c := by
  funext c
  split
  · next hc =>
    rw [hc, hk, Option.map_some, Option.map_some, h]
  · rfl

/-- A page is its place and its content. -/
theorem Page.ext_content {p q : Page} (hplace : p.toPlacement = q.toPlacement)
    (hcontent : p.content = q.content) : p = q := by
  obtain ⟨place, group, draft, online⟩ := p
  obtain ⟨place', group', draft', online'⟩ := q
  obtain rfl : place = place' := hplace
  obtain ⟨rfl, rfl, rfl⟩ := PageContent.mk.inj hcontent
  rfl

/-- A version that comes back from the rows as it is: it has the frames of its model, and
    its widgets are those that are stored. -/
structure PageVersion.IsStorable (v : PageVersion) (r : Registry) : Prop where
  /-- The model is known, and it has as many frames. -/
  frames : r.frameCount v.model = some v.slots.frameCount
  /-- Storing changes none of its widgets. -/
  widgets : ∀ frame w, v.slots.widgetAt frame = some w → Tables.storedWidget r w = w

-- ════════════════════════════════════════════════════════════════════════
-- Configurations that are not kept
-- ════════════════════════════════════════════════════════════════════════

theorem JsonValue.isNull_iff {v : JsonValue} : v.isNull = true ↔ v = .null := by
  constructor
  · intro hnull
    obtain ⟨tree, hcanonical⟩ := v
    cases tree with
    | null => rfl
    | _ => cases hnull
  · rintro rfl
    rfl

/-- The rows keep the configuration of a widget: it is not `null`, and there is none when the
    type of the widget is a logic type. -/
def Widget.KeepsConfig (w : Widget) (r : Registry) : Prop :=
  w.config ≠ some .null ∧ (r.isLogic w = true → w.config = none)

theorem Tables.storedWidget_eq_self_iff {r : Registry} {w : Widget} :
    storedWidget r w = w ↔ w.KeepsConfig r := by
  obtain ⟨typeCode, config⟩ := w
  unfold storedWidget Widget.normalize Widget.KeepsConfig
  generalize r.isLogic ⟨typeCode, config⟩ = isLogic
  rw [Widget.mk.injEq, eq_self, true_and]
  cases config with
  | none => cases isLogic <;> simp
  | some config => cases isLogic <;> simp [← JsonValue.isNull_iff]

variable {r : Registry}

namespace PageVersion

/-- A version as the rows hold it. -/
def asStored (v : PageVersion) (r : Registry) : PageVersion :=
  { v with slots := v.slots.map (Tables.storedWidget r) }

/-- The rows keep the configurations of all placed widgets. -/
def KeepsConfigs (v : PageVersion) (r : Registry) : Prop :=
  ∀ frame w, v.slots.widgetAt frame = some w → w.KeepsConfig r

theorem asStored_eq_self_iff {v : PageVersion} : v.asStored r = v ↔ v.KeepsConfigs r := by
  obtain ⟨metadata, slots⟩ := v
  rw [asStored, mk.injEq, eq_self, true_and, Slots.map_eq_self_iff]
  simp only [Tables.storedWidget_eq_self_iff]
  rfl

theorem IsStorable.stamped {v : PageVersion} (h : v.IsStorable r) (time : Timestamp) :
    (v.stamped time).IsStorable r :=
  ⟨h.frames, h.widgets⟩

/-- The widgets of a storable version are stored as they are. -/
theorem IsStorable.map_storedWidget {v : PageVersion} (h : v.IsStorable r) (frame : Int) :
    (v.slots.widgetAt frame).map (Tables.storedWidget r) = v.slots.widgetAt frame := by
  cases hw : v.slots.widgetAt frame with
  | none => rfl
  | some w => rw [Option.map_some, h.widgets frame w hw]

theorem IsStorable.asStored {v : PageVersion} (h : v.IsStorable r) : v.asStored r = v :=
  asStored_eq_self_iff.2 fun frame w hw => Tables.storedWidget_eq_self_iff.1 (h.widgets frame w hw)

end PageVersion

namespace Page

/-- A page as the rows hold it. -/
def asStored (p : Page) (r : Registry) : Page :=
  { p with draft := p.draft.asStored r, online := p.online.map fun v => v.asStored r }

/-- The rows keep the configurations of all widgets that are placed in either edition. -/
def KeepsConfigs (p : Page) (r : Registry) : Prop :=
  ∀ e v, p.version e = some v → v.KeepsConfigs r

theorem asStored_eq_self_iff {p : Page} : p.asStored r = p ↔ p.KeepsConfigs r := by
  obtain ⟨place, group, draft, online⟩ := p
  have honline : (online.map fun v => v.asStored r) = online ↔
      ∀ v, online = some v → v.KeepsConfigs r := by
    cases online with
    | none => simp
    | some v => simp [PageVersion.asStored_eq_self_iff]
  rw [asStored, mk.injEq, eq_self, true_and, eq_self, true_and, honline,
    PageVersion.asStored_eq_self_iff]
  constructor
  · rintro ⟨hdraft, honline⟩ e v hv
    cases e with
    | draft => exact Option.some.inj hv ▸ hdraft
    | online => exact honline v hv
  · intro hkept
    exact ⟨hkept .draft draft rfl, fun v hv => hkept .online v hv⟩

end Page

namespace PageContent

/-- The content once the draft has gone online at a time. -/
def published (k : PageContent) (time : Timestamp) : PageContent :=
  { k with draft := k.draft.stamped time, online := some (k.draft.stamped time) }

/-- The content once the page has gone offline. -/
def unpublished (k : PageContent) : PageContent :=
  { k with online := none }

/-- The content once the slots of the draft were changed at a time. -/
def withSlots (k : PageContent) (time : Timestamp) (change : Slots → Slots) : PageContent :=
  { k with draft := { k.draft with slots := change k.draft.slots, updatedAt := some time } }

end PageContent

end Sitemap
