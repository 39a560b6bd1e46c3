/-!
# Editions

Every page exists in a draft edition, which editors change, and while it is
published also in an online edition, which visitors see.

## Main definitions

- `Edition` — draft or online
- `ByEdition` — one thing for each edition
-/

namespace Sitemap

/-- The two editions of a page. -/
inductive Edition where
  /-- What editors work on. -/
  | draft
  /-- What visitors see. -/
  | online
  deriving DecidableEq, Repr

namespace Edition

/-- The word for an edition in messages. -/
def name : Edition → String
  | draft => "draft"
  | online => "online"

/-- Both editions, draft first. -/
def all : List Edition := [draft, online]

theorem mem_all (edition : Edition) : edition ∈ all := by
  cases edition <;> simp [all]

end Edition

/-- One thing for each edition. -/
structure ByEdition (α : Type) where
  /-- The one for the draft edition. -/
  draft : α
  /-- The one for the online edition. -/
  online : α
  deriving DecidableEq

namespace ByEdition

variable {α : Type}

/-- The one for an edition. -/
def get (b : ByEdition α) : Edition → α
  | .draft => b.draft
  | .online => b.online

/-- Replace the one for an edition. -/
def set (b : ByEdition α) (edition : Edition) (value : α) : ByEdition α :=
  match edition with
  | .draft => { b with draft := value }
  | .online => { b with online := value }

@[simp]
theorem get_set_self (b : ByEdition α) (edition : Edition) (value : α) :
    (b.set edition value).get edition = value := by
  cases edition <;> rfl

theorem get_set_of_ne (b : ByEdition α) {edition other : Edition} (h : other ≠ edition)
    (value : α) : (b.set edition value).get other = b.get other := by
  cases edition <;> cases other <;> first | rfl | exact absurd rfl h

end ByEdition

end Sitemap
