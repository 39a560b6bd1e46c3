import Sitemap.Error
import Sitemap.Page.Widget

/-!
# Slots

The frames of a page version, one slot for each frame of its model. A slot is empty or
holds a widget. The number of slots never changes.

## Main definitions

- `Slots` — a fixed number of slots
- `Slots.ofRows` — the slots that stored rows fill
- `Slots.get`, `Slots.set`, `Slots.clear`, `Slots.move` — access by frame
- `Slots.widgetAt`, `Slots.put`, `Slots.exchange` — the same where the frame exists
- `Slots.occupied` — the placed widgets with their frames

## Design notes

A frame is an integer, since callers and stored rows may name frames that no model
has. Access to such a frame is refused; stored rows with such a frame are passed over.
-/

namespace Sitemap

/-- The slots of a page version, by frame. -/
structure Slots where
  /-- The slots in the order of their frames. -/
  toList : List (Option Widget)
  deriving DecidableEq

namespace Slots

/-- Empty slots for a number of frames. -/
def empty (frameCount : Nat) : Slots := ⟨List.replicate frameCount none⟩

/-- The number of frames. -/
def frameCount (s : Slots) : Nat :=
  s.toList.length

/-- Whether there is a slot for `frame`. -/
def containsFrame (s : Slots) (frame : Int) : Bool :=
  0 ≤ frame && frame < s.frameCount

/-- The widget in a frame, if any; frames that do not exist hold none. -/
def widgetAt (s : Slots) (frame : Int) : Option Widget :=
  if s.containsFrame frame then (s.toList[frame.toNat]?).join else none

/-- Fill or empty a frame. There is no frame to fill where none exists. -/
def put (s : Slots) (frame : Int) (content : Option Widget) : Slots :=
  if s.containsFrame frame then ⟨s.toList.set frame.toNat content⟩ else s

/-- Exchange the contents of two frames that exist. -/
def exchange (s : Slots) (source target : Int) : Slots :=
  (s.put source (s.widgetAt target)).put target (s.widgetAt source)

/-- Refuse a frame that does not exist. -/
def checkFrame (s : Slots) (frame : Int) : Except Error Unit :=
  if s.containsFrame frame then .ok () else .error (.frameOutOfBounds frame s.frameCount)

/-- The widget in a frame, if any. -/
def get (s : Slots) (frame : Int) : Except Error (Option Widget) := do
  s.checkFrame frame
  return s.widgetAt frame

/-- Place a widget in a frame. Returns the previous occupant as well. -/
def set (s : Slots) (frame : Int) (w : Widget) : Except Error (Option Widget × Slots) := do
  s.checkFrame frame
  return (s.widgetAt frame, s.put frame (some w))

/-- Empty a frame. Returns the previous occupant as well. -/
def clear (s : Slots) (frame : Int) : Except Error (Option Widget × Slots) := do
  s.checkFrame frame
  return (s.widgetAt frame, s.put frame none)

/-- Exchange the contents of two frames. -/
def move (s : Slots) (source target : Int) : Except Error Slots := do
  s.checkFrame source
  s.checkFrame target
  return s.exchange source target

/-- The slots that stored rows fill; rows of frames that do not exist are passed over. -/
def ofRows (frameCount : Nat) (rows : List (Int × Widget)) : Slots :=
  rows.foldl (fun s (frame, w) => s.put frame (some w)) (empty frameCount)

/-- The placed widgets with their frames, in the order of the frames. -/
def occupied (s : Slots) : List (Int × Widget) :=
  s.toList.zipIdx.filterMap fun (slot, i) => slot.map fun w => ((i : Int), w)

/-- Whether a widget of the type is placed. -/
def containsType (s : Slots) (typeCode : String) : Bool :=
  s.occupied.any fun (_, w) => w.typeCode = typeCode

/-- Two slots are both empty or hold widgets that agree. -/
def SlotAgrees : Option Widget → Option Widget → Prop
  | none, none => True
  | some a, some b => a.Agrees b
  | none, some _ | some _, none => False

instance : (a b : Option Widget) → Decidable (SlotAgrees a b)
  | none, none => isTrue trivial
  | some a, some b => inferInstanceAs (Decidable (a.Agrees b))
  | none, some _ | some _, none => isFalse id

/-- The same frames with widgets that agree. -/
def Agrees (a b : Slots) : Prop :=
  a.frameCount = b.frameCount ∧ ∀ p ∈ a.toList.zip b.toList, SlotAgrees p.1 p.2

instance (a b : Slots) : Decidable (a.Agrees b) :=
  inferInstanceAs (Decidable (_ ∧ _))

end Slots

end Sitemap
