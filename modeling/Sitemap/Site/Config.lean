/-!
# Settings of a site

What can be chosen when a site is opened.

## Main definitions

- `DeletePolicy` — what becomes of a request to delete a page that is online
- `RootSeed` — the root page that an empty store is given
- `SiteConfig` — the settings
-/

namespace Sitemap

/-- What becomes of a request to delete a page that is online. -/
inductive DeletePolicy where
  /-- It is refused. -/
  | reject
  /-- The page goes offline and is deleted. -/
  | unpublishFirst
  deriving DecidableEq

/-- The root page that an empty store is given. -/
structure RootSeed where
  /-- The code of the page. -/
  code : String
  /-- The group that owns it. -/
  group : String
  /-- The page model of its draft. -/
  model : String
  deriving DecidableEq

/-- The root page unless another one is chosen. -/
def RootSeed.standard : RootSeed := ⟨"homepage", "free", "home"⟩

/-- The settings of a site. -/
structure SiteConfig where
  /-- What becomes of a request to delete a page that is online. -/
  deletePolicy : DeletePolicy
  /-- The room for events that wait to be recorded. Without room no event is reported. -/
  logCapacity : Nat
  /-- The root page that an empty store is given, if any. -/
  root : Option RootSeed
  deriving DecidableEq

/-- The settings unless others are chosen. -/
def SiteConfig.standard : SiteConfig := ⟨.reject, 1024, some .standard⟩

end Sitemap
