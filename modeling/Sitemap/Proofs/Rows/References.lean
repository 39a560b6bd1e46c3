import Sitemap.Keyed.Lemmas
import Sitemap.Rows.Basic
import Mathlib.Tactic.ByContra

/-!
# References between the tables

What the reference check makes sure of, page by page.

## Main definitions

- `Tables.IsLinked` — every reference between the tables leads to a stored page

## Main results

- `Tables.checkReferences_eq_ok` — the check lets linked tables pass, and no others
-/

namespace Sitemap

namespace Tables

/-- Every reference between the tables leads to a stored page, and every stored page has a
    draft. -/
structure IsLinked (t : Tables) : Prop where
  /-- The parent of a page is stored. -/
  parent : ∀ code row, t.pages.get? code = some row → ∀ q, row.parent = some q →
    (t.pages.get? q).isSome
  /-- A page has draft metadata. -/
  draft : ∀ code row, t.pages.get? code = some row → (t.metadataOf .draft row.code).isSome
  /-- Metadata belongs to a page. -/
  metadata : ∀ edition code, (t.metadataOf edition code).isSome → (t.pages.get? code).isSome
  /-- Widgets belong to a page. -/
  widgets : ∀ edition code, ((t.widgets.get edition).get? code).isSome →
    (t.pages.get? code).isSome

variable {t : Tables} {code : String}

/-- A row offends nothing when its parent and its draft metadata are stored. -/
theorem pageViolation_eq_none {row : PageRow} : t.pageViolation row = none ↔
    (∀ q, row.parent = some q → (t.pages.get? q).isSome) ∧
      (t.metadataOf .draft row.code).isSome := by
  have hdraft : t.metadata.draft.contains row.code = (t.metadataOf .draft row.code).isSome := rfl
  unfold pageViolation
  rw [hdraft]
  generalize (t.metadataOf .draft row.code).isSome = drafted
  cases hparent : row.parent with
  | none => cases drafted <;> simp
  | some q =>
    by_cases hstored : t.pages.contains q = true
    · have hget : (t.pages.get? q).isSome = true := hstored
      cases drafted <;> simp [Option.filter_some, hstored, hget]
    · have hget : (t.pages.get? q).isSome = false := by simpa [Keyed.contains] using hstored
      simp [Option.filter_some, hstored, hget]

/-- An edition offends nothing when its metadata and its widgets belong to pages. -/
theorem editionViolation_eq_none {edition : Edition} : t.editionViolation edition = none ↔
    (∀ code, (t.metadataOf edition code).isSome → (t.pages.get? code).isSome) ∧
      ∀ code, ((t.widgets.get edition).get? code).isSome → (t.pages.get? code).isSome := by
  have hfind : ∀ {β : Type} (m : Keyed String β),
      (m.keys.find? fun code => !t.pages.contains code) = none ↔
        ∀ code, (m.get? code).isSome → (t.pages.get? code).isSome := by
    intro β m
    simp only [List.find?_eq_none, Keyed.mem_keys_iff, Bool.not_eq_true, Bool.not_eq_false',
      Keyed.contains]
  unfold editionViolation
  split
  · next stray hstray =>
    refine iff_of_false (by simp) fun hlinked => ?_
    rw [(hfind _).2 hlinked.1] at hstray
    cases hstray
  · next hnone =>
    rw [Option.map_eq_none_iff, hfind]
    exact ⟨fun hwidgets => ⟨(hfind _).1 hnone, hwidgets⟩, fun hlinked => hlinked.2⟩

/-- The reference check lets linked tables pass, and no others. -/
theorem checkReferences_eq_ok : t.checkReferences = .ok () ↔ t.IsLinked := by
  have hcheck : t.checkReferences = .ok () ↔ t.violation = none := by
    unfold checkReferences
    split
    · next v hv => simp [hv]
    · next hv => simp [hv]
  have hviolation : t.violation = none ↔ (∀ row ∈ t.pages.values, t.pageViolation row = none) ∧
      t.editionViolation .draft = none ∧ t.editionViolation .online = none := by
    unfold violation
    split
    · next v hv =>
      refine iff_of_false (by simp) fun hlinked => ?_
      rw [List.findSome?_eq_none_iff.2 hlinked.1] at hv
      cases hv
    · next hv =>
      rw [List.findSome?_eq_none_iff] at hv
      simp [Edition.all, List.findSome?_eq_none_iff]
      exact fun _ _ => hv
  rw [hcheck, hviolation]
  simp only [Keyed.mem_values_iff, pageViolation_eq_none, editionViolation_eq_none]
  constructor
  · rintro ⟨hpages, hdraft, honline⟩
    refine ⟨fun code row hrow => (hpages row ⟨code, hrow⟩).1,
      fun code row hrow => (hpages row ⟨code, hrow⟩).2, ?_, ?_⟩
    · rintro (_ | _)
      · exact hdraft.1
      · exact honline.1
    · rintro (_ | _)
      · exact hdraft.2
      · exact honline.2
  · intro h
    refine ⟨?_, ⟨h.metadata .draft, h.widgets .draft⟩, h.metadata .online, h.widgets .online⟩
    rintro row ⟨code, hrow⟩
    exact ⟨h.parent code row hrow, h.draft code row hrow⟩

/-- A page that is not stored has no metadata. -/
theorem IsLinked.metadataOf_eq_none (h : t.IsLinked) (hcode : t.pages.get? code = none)
    (edition : Edition) : t.metadataOf edition code = none := by
  by_contra hsome
  have := h.metadata edition code (Option.isSome_iff_ne_none.2 hsome)
  rw [hcode] at this
  cases this

/-- Of a page that is not stored no widgets are filed. -/
theorem IsLinked.filed_eq_none (h : t.IsLinked) (hcode : t.pages.get? code = none)
    (edition : Edition) : (t.widgets.get edition).get? code = none := by
  by_contra hsome
  have := h.widgets edition code (Option.isSome_iff_ne_none.2 hsome)
  rw [hcode] at this
  cases this

/-- A page that is not stored has no widgets. -/
theorem IsLinked.widgetsOf_eq_empty (h : t.IsLinked) (hcode : t.pages.get? code = none)
    (edition : Edition) : t.widgetsOf edition code = ∅ := by
  rw [widgetsOf, h.filed_eq_none hcode edition]
  rfl

end Tables

end Sitemap
