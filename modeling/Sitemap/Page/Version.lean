import Sitemap.Page.Slots
import Sitemap.Timestamp.Basic

/-!
# Page versions

What one edition of a page shows: its metadata and the widgets in its frames.

## Main definitions

- `Metadata` — titles, page model, navigation flag, extension data and last write
- `PageVersion` — metadata with the slots of the model
- `PageVersion.ofModel` — an empty version with the frames of its model
- `PageVersion.SameContent` — equality but for the time of the last write
-/

namespace Sitemap

/-- Titles by language. -/
abbrev Titles : Type := Keyed String String

/-- What is known about a page version besides its widgets. -/
structure Metadata where
  /-- The titles by language. -/
  titles : Titles
  /-- The page model that the frames belong to. -/
  model : String
  /-- Whether navigation shows the page. -/
  shown : Bool
  /-- Extension data. -/
  extra : JsonValue
  /-- The time of the last write, if it was ever written. -/
  updatedAt : Option Timestamp
  deriving DecidableEq

/-- One edition of a page. -/
structure PageVersion extends Metadata where
  /-- One slot for each frame of the model. -/
  slots : Slots
  deriving DecidableEq

namespace PageVersion

/-- An empty version with a number of frames. -/
def empty (model : String) (frameCount : Nat) : PageVersion where
  titles := ∅
  model := model
  shown := false
  extra := .null
  updatedAt := none
  slots := .empty frameCount

/-- An empty version with the frames of its model. -/
def ofModel (r : Registry) (model : String) : Except Error PageVersion :=
  match r.frameCount model with
  | some frames => .ok (empty model frames)
  | none => .error (.unknownModel model)

/-- Set the title for a language. -/
def withTitle (v : PageVersion) (language title : String) : PageVersion :=
  { v with titles := v.titles.insert language title }

/-- Place a widget. -/
def withWidget (v : PageVersion) (frame : Int) (w : Widget) : Except Error PageVersion := do
  let (_, slots) ← v.slots.set frame w
  return { v with slots }

/-- The title for a language. -/
def title (v : PageVersion) (language : String) : Option String :=
  v.titles.get? language

/-- The version as written at a time. -/
def stamped (v : PageVersion) (time : Timestamp) : PageVersion :=
  { v with updatedAt := some time }

/-- Two versions show the same; the time of the last write is not compared. -/
def SameContent (a b : PageVersion) : Prop :=
  a.titles = b.titles ∧ a.model = b.model ∧ a.shown = b.shown ∧ a.extra.Agrees b.extra
    ∧ a.slots.Agrees b.slots

instance (a b : PageVersion) : Decidable (a.SameContent b) :=
  inferInstanceAs (Decidable (_ ∧ _))

end PageVersion

end Sitemap
