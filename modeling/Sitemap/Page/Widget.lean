import Sitemap.Json.Basic

/-!
# Widgets and registries

A widget is a reference to a registered widget type, perhaps with a configuration of
its own. Registries are owned elsewhere and only consulted: they say how many frames a
page model has and what is known about a widget type.

## Main definitions

- `Widget` — a widget type with an optional configuration
- `WidgetType` — what is registered about a widget type
- `Registry` — the page models and widget types in force
- `Widget.effectiveConfig` — the configuration that applies to a widget
- `Widget.normalize` — a widget without a configuration that would not apply
-/

namespace Sitemap

/-- A reference to a widget type, placed in a frame. -/
structure Widget where
  /-- The code of the widget type. -/
  typeCode : String
  /-- The configuration of this widget; absent where the default of the type applies. -/
  config : Option JsonValue
  deriving DecidableEq

/-- What is registered about a widget type. -/
structure WidgetType where
  /-- Widgets of a logic type carry no configuration. -/
  isLogic : Bool
  /-- The configuration of widgets that carry none. -/
  defaultConfig : Option JsonValue
  /-- A placed widget of a locked type may not be changed. -/
  locked : Bool

/-- The page models and widget types in force. -/
structure Registry where
  /-- The number of frames of a page model, if it is registered. -/
  frameCount : String → Option Nat
  /-- What is registered about a widget type. -/
  widgetType : String → Option WidgetType

namespace Registry

/-- Nothing is registered. -/
def empty : Registry := ⟨fun _ => none, fun _ => none⟩

/-- Register a page model, replacing one of the same code. -/
def withModel (r : Registry) (code : String) (frames : Nat) : Registry :=
  { r with frameCount := fun c => if c = code then some frames else r.frameCount c }

/-- Register a widget type, replacing one of the same code. -/
def withType (r : Registry) (code : String) (info : WidgetType) : Registry :=
  { r with widgetType := fun c => if c = code then some info else r.widgetType c }

/-- Whether a widget is of a registered and locked type. -/
def isLocked (r : Registry) (w : Widget) : Bool :=
  (r.widgetType w.typeCode).any WidgetType.locked

/-- Whether a widget is of a registered logic type. -/
def isLogic (r : Registry) (w : Widget) : Bool :=
  (r.widgetType w.typeCode).any WidgetType.isLogic

end Registry

namespace Widget

/-- The configuration that applies to a widget: its own, else the default of its type. -/
def effectiveConfig (r : Registry) (w : Widget) : Option JsonValue :=
  match w.config with
  | some config => some config
  | none => (r.widgetType w.typeCode).bind WidgetType.defaultConfig

/-- The same type and the same configuration as JSON data. -/
def Agrees (a b : Widget) : Prop :=
  a.typeCode = b.typeCode ∧ JsonValue.OptionAgrees a.config b.config

instance (a b : Widget) : Decidable (a.Agrees b) :=
  inferInstanceAs (Decidable (_ ∧ _))

theorem Agrees.refl (a : Widget) : a.Agrees a := ⟨rfl, JsonValue.OptionAgrees.refl _⟩

theorem Agrees.trans {a b c : Widget} (h : a.Agrees b) (k : b.Agrees c) : a.Agrees c :=
  ⟨Eq.trans h.1 k.1, JsonValue.OptionAgrees.trans h.2 k.2⟩

/-- A widget carries a configuration other than `null`. -/
def isConfigured (w : Widget) : Bool :=
  w.config.any fun config => !config.isNull

/-- A widget as it is stored: a logic widget loses its configuration, and an explicit
    `null` means the default of the type, the same as no configuration. -/
def normalize (isLogic : Bool) (w : Widget) : Widget :=
  { w with config := if isLogic then none else w.config.filter fun config => !config.isNull }

end Widget

end Sitemap
