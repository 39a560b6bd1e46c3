import Sitemap.Proofs.Environment.Outcome
import Sitemap.Proofs.Rows.Success
import Sitemap.Proofs.Rows.Tidiness

/-!
# Publication of a draft

A publication drops what is online of a page, copies the rows of its draft one by one, and stamps
both editions. Each row is checked for a row of the same key, and the copy would stop at the first
that is refused; but what was dropped covers all that could be in the way.

## Main definitions

- `Tables.PublishesDraft` — one tables are another ones after a publication

## Main results

- `RowEdit.publishesDraft_of_setPageOnline` — what a publication leaves behind
- `publication_copies_exactly` — when it succeeds, and with what

## Design notes

Rows are taken as the reference check leaves them. There may be online widgets without online
metadata, and widgets in frames that no model has; those of the draft go online with the others.
-/

namespace Sitemap

variable {t t' : Tables} {code : String} {time : Timestamp}

/-- `t'` is `t` once the draft of a page went online at a time. -/
structure Tables.PublishesDraft (t t' : Tables) (code : String) (time : Timestamp) : Prop where
  /-- Both editions have the metadata of the draft, stamped with the time. -/
  metadata : ∃ row, t.metadataOf .draft code = some row ∧
    ∀ e, t'.metadataOf e code = some { row with updatedAt := some time }
  /-- The widgets online are those of the draft, frame by frame. -/
  widgets : t'.widgetsOf .online code = t.widgetsOf .draft code
  /-- Nothing is filed online of a draft without widgets. -/
  tidy : t'.IsTidyAt .online code
  /-- The rows of pages stay. -/
  pages : t'.pages = t.pages
  /-- The widgets of all drafts stay. -/
  drafts : t'.widgets.draft = t.widgets.draft
  /-- All that is filed of other pages stays. -/
  others : t.Spares t' code

/-- Tables stay linked, as only a page with a draft is published. -/
theorem Tables.PublishesDraft.isLinked (h : t.PublishesDraft t' code time) (hlinked : t.IsLinked) :
    t'.IsLinked := by
  obtain ⟨draft, hdraft, hstamped⟩ := h.metadata
  have hstored : (t.pages.get? code).isSome :=
    hlinked.metadata .draft code (Option.isSome_of_eq_some hdraft)
  constructor
  · intro c row hrow q hq
    rw [h.pages] at hrow ⊢
    exact hlinked.parent c row hrow q hq
  · intro c row hrow
    rw [h.pages] at hrow
    by_cases hcode : row.code = code
    · rw [hcode, hstamped]
      rfl
    · rw [(h.others row.code hcode).metadata]
      exact hlinked.draft c row hrow
  · intro e c hc
    rw [h.pages]
    by_cases hcode : c = code
    · rwa [hcode]
    · rw [(h.others c hcode).metadata] at hc
      exact hlinked.metadata e c hc
  · intro e c hc
    rw [h.pages]
    by_cases hcode : c = code
    · rwa [hcode]
    · rw [(h.others c hcode).widgets] at hc
      exact hlinked.widgets e c hc

namespace RowEdit

open Tables

/-- Without a draft there is nothing to publish. -/
theorem setPageOnline_of_metadataOf_eq_none (h : t.metadataOf .draft code = none) :
    setPageOnline time code t = .error (.store (.missingRow (.metadata .draft) code)) := by
  obtain ⟨hdropped, -, -⟩ := touches_dropEdition t .online code
  rw [← hdropped.metadata .draft code (by simp)] at h
  simp only [setPageOnline, copyDraftToOnline, h]
  rfl

/-- A publication copies the draft, and touches nothing else. -/
theorem publishesDraft_of_setPageOnline {stamp : Timestamp}
    (h : setPageOnline time code t = .ok (stamp, t')) :
    stamp = time ∧ t.PublishesDraft t' code time := by
  obtain ⟨hstamp, hpages, hspares, hmetadata, hwidgets⟩ := touches_of_setPageOnline h
  simp only [setPageOnline, bind_eq_ok, require_eq_ok] at h
  obtain ⟨⟨⟩, hcopied, u, hdraft, v, honline, h⟩ := h
  cases h
  obtain ⟨hdropped, -, -⟩ := touches_dropEdition t .online code
  have htouched := hdropped.trans (touches_of_copyDraftToOnline (Prod.ext hcopied rfl)).1
  have htidy := (isTidyAt_dropEdition t .online code).copyDraftToOnline (Prod.ext hcopied rfl)
  have hstamped := (widgets_of_stampMetadata honline).trans (widgets_of_stampMetadata hdraft)
  -- the stamps leave the widgets, and the rows before them are those of the online edition
  have hdrafts : t'.widgets.draft = t.widgets.draft := by
    apply Keyed.ext_get?
    intro c
    rw [hstamped]
    exact htouched.filed .draft c (by simp)
  have hstored : (t'.metadataOf .online code).isSome := by
    obtain ⟨row, -, hrow⟩ := hmetadata
    exact Option.isSome_of_eq_some (hrow .online)
  exact ⟨hstamp, hmetadata, hwidgets .online, htidy.of_widgets hstamped hstored, hpages, hdrafts,
    hspares⟩

end RowEdit

/-- Publishing copies exactly. A page goes online if and only if there is draft metadata under its
    code, whatever was online before, unless a commit is ordered to fail or the file system refuses
    to save the tables. Both editions have the metadata of the draft from then on, with the time
    that is answered, and the widgets online are those of the draft, none that were online before
    among them. All other rows stay. -/
theorem publication_copies_exactly {env : Environment}
    (hchecked : env.committed.checkReferences = .ok ()) (r : Registry) (time : Timestamp)
    (code : String) :
    (env.CanStore →
      ((∃ answer env', env.edit r time (.setPageOnline code) = (.ok answer, env')) ↔
        (env.committed.metadataOf .draft code).isSome)) ∧
      (env.committed.metadataOf .draft code = none →
        env.edit r time (.setPageOnline code) =
          (.error (.store (.missingRow (.metadata .draft) code)), env)) ∧
      ∀ answer env', env.edit r time (.setPageOnline code) = (.ok answer, env') →
        answer = .stamped time ∧ env.committed.PublishesDraft env'.committed code time := by
  have hlinked := Tables.checkReferences_eq_ok.1 hchecked
  have hpublished : ∀ answer env', env.edit r time (.setPageOnline code) = (.ok answer, env') →
      answer = .stamped time ∧ env.committed.PublishesDraft env'.committed code time := by
    intro answer env' hedit
    obtain ⟨t, hrun, hcommits⟩ := Environment.commits_of_write hedit
    obtain ⟨⟨stamp, u⟩, hrow, hanswer⟩ := map_eq_ok.1 hrun
    cases hanswer
    obtain ⟨rfl, hpublishes⟩ := RowEdit.publishesDraft_of_setPageOnline hrow
    rw [hcommits.committed]
    exact ⟨rfl, hpublishes⟩
  refine ⟨fun hstores => ⟨?_, fun hdraft => ?_⟩, fun hnone => ?_, hpublished⟩
  · rintro ⟨answer, env', hedit⟩
    obtain ⟨row, hrow, -⟩ := (hpublished answer env' hedit).2.metadata
    exact Option.isSome_of_eq_some hrow
  · obtain ⟨t', hrow⟩ := RowEdit.exists_setPageOnline hdraft time
    have hlinked' := (RowEdit.publishesDraft_of_setPageOnline hrow).2.isLinked hlinked
    have hrun : Edit.run r env.parkingFrame time (.setPageOnline code) env.committed =
        .ok (.stamped time, t') := map_eq_ok.2 ⟨_, hrow, rfl⟩
    generalize hedit : env.edit r time (.setPageOnline code) = edited
    obtain ⟨outcome, env'⟩ := edited
    cases outcome with
    | ok answer => exact ⟨answer, env', rfl⟩
    | error cause =>
      obtain ⟨e, -, hfails⟩ := Environment.failsWith_of_write hrun
        (Tables.checkReferences_eq_ok.2 hlinked') hedit
      exact absurd hfails hstores.not_failsWith
  · have hrun : Edit.run r env.parkingFrame time (.setPageOnline code) env.committed =
        .error (.store (.missingRow (.metadata .draft) code)) := by
      show Edit.reply _ _ = _
      rw [RowEdit.setPageOnline_of_metadataOf_eq_none hnone]
      rfl
    unfold Environment.edit Environment.write
    simp only [Environment.beginWrite, hrun]

/-- The draft has a widget in a frame beyond its model, and a widget is filed online without
    metadata. -/
theorem publication_copies_exactly_sample :
    let draft := (PageVersion.empty "home" 1).toMetadata
    let t := Statement.runAll [.insertPage ⟨⟨"home", none, 1⟩, "free"⟩,
      .insertMetadata .draft "home" draft, .insertWidget .draft "home" 7 ⟨"menu", none⟩,
      .insertWidget .online "home" 3 ⟨"logo", none⟩] .empty
    let env : Environment := ⟨t, 0, -9999, false, .memory⟩
    t.checkReferences = .ok () ∧ t.metadataOf .online "home" = none ∧
      (t.widgetsOf .online "home").contains 3 = true ∧
      (∃ answer env', env.edit .empty .epoch (.setPageOnline "home") = (.ok answer, env') ∧
        answer = .stamped .epoch ∧ t.PublishesDraft env'.committed "home" .epoch ∧
        env'.committed.metadataOf .online "home" = some { draft with updatedAt := some .epoch } ∧
        (env'.committed.widgetsOf .online "home").entries = [(7, ⟨"menu", none⟩)]) ∧
      env.edit .empty .epoch (.setPageOnline "away") =
        (.error (.store (.missingRow (.metadata .draft) "away")), env) := by
  intro draft t env
  have hchecked : env.committed.checkReferences = .ok () := by decide +kernel
  have hdraft : t.metadataOf .draft "home" = some draft := by decide +kernel
  have hwidgets : (t.widgetsOf .draft "home").entries = [(7, ⟨"menu", none⟩)] := by decide +kernel
  obtain ⟨hsucceeds, -, hpublished⟩ := publication_copies_exactly hchecked .empty .epoch "home"
  obtain ⟨answer, env', hedit⟩ :=
    (hsucceeds (.of_memory rfl rfl)).2 (Option.isSome_of_eq_some hdraft)
  obtain ⟨hanswer, hcopied⟩ := hpublished answer env' hedit
  obtain ⟨-, hrefused, -⟩ := publication_copies_exactly hchecked .empty .epoch "away"
  refine ⟨hchecked, by decide +kernel, by decide +kernel,
    ⟨answer, env', hedit, hanswer, hcopied, ?_, ?_⟩, hrefused (by decide +kernel)⟩
  · obtain ⟨row, hrow, hstamped⟩ := hcopied.metadata
    obtain rfl := Option.some.inj (hdraft.symm.trans hrow)
    exact hstamped .online
  · rw [hcopied.widgets]
    exact hwidgets

end Sitemap
