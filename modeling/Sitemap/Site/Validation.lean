import Sitemap.Site.Basic

/-!
# What a site accepts

Requests are judged against the site map in memory before anything is written. A version
must fit its page model, its widgets must be of registered types, and widgets of locked
types stay as they are.

## Main definitions

- `Site.acceptWidget` — a widget as it may be placed
- `Site.acceptVersion` — a version as it may be stored
- `Site.checkLockedKept` — a new draft keeps the locked widgets of the old one
- `Site.checkFrameFree` — a frame does not hold a locked widget
-/

namespace Sitemap

namespace Site

/-- What is registered about a widget type, which must be known. -/
def widgetType (site : Site) (typeCode : String) : Except Error WidgetType :=
  match site.registry.widgetType typeCode with
  | some info => .ok info
  | none => .error (.unknownWidgetType typeCode)

/-- A widget of a locked type may carry no other configuration than the default. -/
def IsReconfigured (info : WidgetType) (w : Widget) : Prop :=
  info.locked ∧ w.isConfigured ∧ ¬ JsonValue.OptionAgrees w.config info.defaultConfig

instance (info : WidgetType) (w : Widget) : Decidable (IsReconfigured info w) :=
  inferInstanceAs (Decidable (_ ∧ _ ∧ _))

/-- A widget as it may be placed in a frame. -/
def acceptWidget (site : Site) (frame : Int) (w : Widget) : Except Error Widget := do
  let info ← site.widgetType w.typeCode
  if IsReconfigured info w then throw (.lockedWidget w.typeCode frame)
  return w.normalize info.isLogic

/-- Slots as they may be stored, from a frame on. The first widget that is refused
    decides. -/
def acceptSlots (site : Site) (frame : Nat) :
    List (Option Widget) → Except Error (List (Option Widget))
  | [] => .ok []
  | none :: rest => do
    return none :: (← acceptSlots site (frame + 1) rest)
  | some w :: rest => do
    let w ← site.acceptWidget frame w
    return some w :: (← acceptSlots site (frame + 1) rest)

/-- A version as it may be stored: its model is known, it has the frames of the model, and
    each of its widgets may be placed. -/
def acceptVersion (site : Site) (v : PageVersion) : Except Error PageVersion :=
  match site.registry.frameCount v.model with
  | none => .error (.unknownModel v.model)
  | some expected =>
    if v.slots.frameCount ≠ expected then
      .error (.frameCountMismatch v.model expected v.slots.frameCount)
    else do
      return { v with slots := ⟨← site.acceptSlots 0 v.slots.toList⟩ }

/-- Some slots keep a widget in its frame. -/
def Keeps (next : Slots) (frame : Int) (w : Widget) : Prop :=
  Slots.SlotAgrees (next.widgetAt frame) (some w)

instance (next : Slots) (frame : Int) (w : Widget) : Decidable (Keeps next frame w) :=
  inferInstanceAs (Decidable (Slots.SlotAgrees _ _))

/-- The locked widgets of a version must stay as they are in the next one. -/
def checkLockedKept (site : Site) (current next : PageVersion) : Except Error Unit :=
  let lost := current.slots.occupied.find? fun (frame, w) =>
    site.registry.isLocked w && !decide (Keeps next.slots frame w)
  match lost with
  | some (frame, w) => .error (.lockedWidget w.typeCode frame)
  | none => .ok ()

/-- A frame must exist and must not hold a locked widget. Returns the widget that it
    holds. -/
def checkFrameFree (site : Site) (v : PageVersion) (frame : Int) :
    Except Error (Option Widget) := do
  match ← v.slots.get frame with
  | some w => if site.registry.isLocked w then throw (.lockedWidget w.typeCode frame) else return w
  | none => return none

-- ════════════════════════════════════════════════════════════════════════
-- Requests
-- ════════════════════════════════════════════════════════════════════════

/-- A new page below a parent, as it may be stored. -/
def acceptNewPage (site : Site) (parent code group : String) (draft : PageVersion) :
    Except Error Page := do
  if !site.tree.contains parent then throw (.notFound parent .draft)
  if site.tree.contains code then throw (.duplicateCode code)
  let draft ← site.acceptVersion draft
  return { code, parent := some parent, position := 0, group, draft, online := none }

/-- A page with a new draft, as it may be stored. -/
def acceptDraft (site : Site) (code : String) (draft : PageVersion) : Except Error Page := do
  let current ← site.draftPage code
  let draft ← site.acceptVersion draft
  site.checkLockedKept current.draft draft
  return { current with draft }

/-- A page that may be deleted: a leaf that is offline, or whose policy is to take it
    offline. -/
def acceptDeletion (site : Site) (code : String) : Except Error Page := do
  let page ← site.draftPage code
  if page.isRoot then throw (.misuse .deleteRoot)
  if !(site.tree.children code).isEmpty then throw (.hasChildren code)
  if page.isOnline && site.config.deletePolicy = .reject then throw (.pagePublished code)
  return page

/-- A page and how it would move below another parent, if it would. -/
def acceptMove (site : Site) (code newParent : String) :
    Except Error (Page × Option ReparentPlan) := do
  let page ← site.draftPage code
  return (page, ← site.tree.siblings.planReparent code newParent)

/-- A widget as it may be placed in a draft frame of a page. -/
def acceptJoin (site : Site) (code : String) (frame : Int) (w : Widget) : Except Error Widget := do
  let page ← site.draftPage code
  let _ ← site.checkFrameFree page.draft frame
  site.acceptWidget frame w

/-- Two draft frames of a page whose contents may be exchanged. -/
def acceptExchange (site : Site) (code : String) (source target : Int) : Except Error Unit := do
  let page ← site.draftPage code
  let _ ← site.checkFrameFree page.draft source
  let _ ← site.checkFrameFree page.draft target

/-- The widget that would leave a draft frame of a page, if any. -/
def acceptRemoval (site : Site) (code : String) (frame : Int) : Except Error (Option Widget) := do
  let page ← site.draftPage code
  site.checkFrameFree page.draft frame

end Site

end Sitemap
