import Sitemap.Edition

/-!
# Events

What happened to the pages of a site map, as told to those who follow it. The pages, the
parents and positions, and what is online can be followed from the events alone.

## Main definitions

- `Event` — something that happened to a page
- `Event.code` — the page it happened to
- `Event.edition` — the edition it changed
-/

namespace Sitemap

/-- Something that happened to a page. -/
inductive Event where
  /-- The page was created as the last child of a parent. -/
  | added (code parent : String)
  /-- The draft or the group of the page was rewritten. -/
  | updated (code : String)
  /-- The page is gone. -/
  | deleted (code : String)
  /-- The page sits below a parent at a position now. -/
  | moved (code parent : String) (position : Int)
  /-- The draft went online. -/
  | published (code : String)
  /-- The online version is gone. -/
  | unpublished (code : String)
  /-- The contents of draft frames were changed. -/
  | widgetsChanged (code : String) (frames : List Int)
  deriving DecidableEq

namespace Event

/-- The code of the page that the event is about. -/
def code : Event → String
  | added code _ | updated code | deleted code | moved code _ _ | published code
  | unpublished code | widgetsChanged code _ => code

/-- The edition that the event changed. -/
def edition : Event → Edition
  | published _ | unpublished _ => .online
  | added _ _ | updated _ | deleted _ | moved _ _ _ | widgetsChanged _ _ => .draft

end Event

end Sitemap
