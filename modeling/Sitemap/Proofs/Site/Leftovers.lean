import Sitemap.Proofs.Rows.Tidiness
import Sitemap.Proofs.Site.Writes

/-!
# No leftover rows

Whoever writes to an environment that was empty, committed rows hold nothing of a page that is
gone, and nothing of an edition that a page does not have. So a page that is stored under a code
that was used before begins anew.

## Main definitions

- `Tables.HasNoLeftovers` — all metadata and all widgets belong to an edition of a stored page

## Main results

- `Shared.isTidy_run` — committed rows stay linked and tidy along every run
- `no_leftover_rows` — committed rows have no leftovers, and pages begin anew
-/

namespace Sitemap

/-- All metadata and all widgets belong to an edition of a stored page, and no page is filed
    without widgets among those that have some. -/
structure Tables.HasNoLeftovers (t : Tables) : Prop where
  /-- Rows are filed under their codes. -/
  filed : ∀ code row, t.pages.get? code = some row → row.code = code
  /-- The pages with a draft are the stored pages. -/
  draft : t.metadata.draft.keys = t.pages.keys
  /-- The pages with an online edition are stored pages. -/
  online : ∀ code ∈ t.metadata.online.keys, code ∈ t.pages.keys
  /-- Widgets are those of an edition that the page has, and there are some. -/
  widgets : ∀ edition code frames, (t.widgets.get edition).get? code = some frames →
    frames ≠ ∅ ∧ code ∈ (t.metadata.get edition).keys

/-- Linked rows that are tidy have no leftovers. -/
theorem Tables.IsTidy.hasNoLeftovers {t : Tables} (htidy : t.IsTidy) (hlinked : t.IsLinked) :
    t.HasNoLeftovers where
  filed := htidy.keyed
  draft := by
    refine Keyed.keys_congr fun code => Bool.eq_iff_iff.2 ⟨hlinked.metadata .draft code, ?_⟩
    intro hstored
    obtain ⟨row, hrow⟩ := Option.isSome_iff_exists.1 hstored
    have hdraft := hlinked.draft code row hrow
    rwa [htidy.keyed code row hrow] at hdraft
  online code hcode := by
    rw [Keyed.mem_keys_iff] at hcode ⊢
    exact hlinked.metadata .online code hcode
  widgets edition code frames hframes := by
    obtain ⟨hsome, hstored⟩ := htidy.editions edition code frames hframes
    exact ⟨hsome, Keyed.mem_keys_iff.2 hstored⟩

/-- A direct edit keeps committed rows linked and tidy, whatever it is given. -/
theorem Environment.isTidy_edit {env : Environment}
    (h : env.committed.IsLinked ∧ env.committed.IsTidy) (r : Registry) (time : Timestamp)
    (edit : Edit) :
    (env.edit r time edit).2.committed.IsLinked ∧ (env.edit r time edit).2.committed.IsTidy :=
  committed_edit (P := fun t => t.IsLinked ∧ t.IsTidy) h fun _ _ hrun hlinked =>
    ⟨hlinked, Edit.isTidy_of_run h.2 hrun⟩

/-- Committed rows stay linked and tidy along every run. -/
theorem Shared.isTidy_run {s : Shared} (h : s.env.committed.IsLinked ∧ s.env.committed.IsTidy)
    (steps : List Step) :
    (s.run steps).env.committed.IsLinked ∧ (s.run steps).env.committed.IsTidy :=
  have hdata : ∀ step ∈ steps, step.AllData (fun _ => True) fun _ => True := fun step _ =>
    step.allData_of_stored (fun _ => trivial) fun _ _ => trivial
  run_induction (P := fun env => env.committed.IsLinked ∧ env.committed.IsTidy) trivial
    (fun _ hold => hold) (fun _ r time edit _ hold => Environment.isTidy_edit hold r time edit)
    hdata h

/-- On an environment that was empty, and whatever was written to it since, committed rows have
    no leftovers. A page that is added has the widgets that it is added with, and none that an
    earlier page of its code had; a page that goes online has the widgets of its draft there, and
    none that it had when it was online before. -/
theorem no_leftover_rows {env : Environment} {sites : List Site} {steps : List Shared.Step}
    {s : Shared} (hempty : env.committed = .empty) (hrun : Shared.run ⟨env, sites⟩ steps = s) :
    s.env.committed.HasNoLeftovers ∧
      (∀ r now page reply env', s.env.edit r now (.addPage page) = (.ok reply, env') →
        ∀ e frame, (env'.committed.widgetsOf e page.code).get? frame =
          ((page.version e).bind fun v => v.slots.widgetAt frame).map (Tables.storedWidget r)) ∧
      (∀ r now code reply env', s.env.edit r now (.deletePage code) = (.ok reply, env') →
        ∀ e, env'.committed.metadataOf e code = none ∧
          (env'.committed.widgets.get e).get? code = none) ∧
      (∀ r now code reply env', s.env.edit r now (.setPageOnline code) = (.ok reply, env') →
        env'.committed.widgetsOf .online code = s.env.committed.widgetsOf .draft code) ∧
      ∀ r now code reply env', s.env.edit r now (.setPageOffline code) = (.ok reply, env') →
        env'.committed.metadataOf .online code = none ∧
          env'.committed.widgets.online.get? code = none := by
  subst hrun
  have hlinked : Tables.empty.IsLinked := Tables.checkReferences_eq_ok.1 rfl
  obtain ⟨hlinked, htidy⟩ := Shared.isTidy_run (s := ⟨env, sites⟩)
    (by rw [hempty]; exact ⟨hlinked, Tables.isTidy_empty⟩) steps
  generalize (Shared.run ⟨env, sites⟩ steps).env = last at hlinked htidy
  refine ⟨htidy.hasNoLeftovers hlinked, fun r now page reply env' hedit => ?_,
    fun r now code reply env' hedit => ?_, fun r now code reply env' hedit => ?_,
    fun r now code reply env' hedit => ?_⟩
  all_goals
    obtain ⟨t, hrun, hcommits⟩ := Environment.commits_of_write hedit
    obtain ⟨⟨a, u⟩, hrow, hanswer⟩ := map_eq_ok.1 hrun
    cases hanswer
    rw [hcommits.committed]
  · exact RowEdit.widgets_of_addPage hlinked hrow
  · exact (RowEdit.spares_of_deletePage hrow).2
  · exact (RowEdit.touches_of_setPageOnline hrow).2.2.2.2 .online
  · exact (RowEdit.touches_of_setPageOffline hrow).2

/-- A page with a widget is added and published, deleted, and added without the widget. -/
theorem no_leftover_rows_sample :
    let bare : Page := ⟨⟨"a", some "homepage", 0⟩, "free", .empty "home" 2, none⟩
    let filled : Page :=
      { bare with draft := { bare.draft with slots := bare.draft.slots.put 0 (some ⟨"menu", none⟩) } }
    let published := Shared.run ⟨.sample, []⟩ [.join .standard .sample .epoch,
      .edit .sample .epoch (.addPage filled), .edit .sample .epoch (.setPageOnline "a")]
    let deleted := published.run [.edit .sample .epoch (.deletePage "a")]
    let added := deleted.env.edit .sample .epoch (.addPage bare)
    (published.env.committed.widgetsOf .online "a").get? 0 = some ⟨"menu", none⟩ ∧
      added.1.isOk = true ∧ deleted.env.committed.HasNoLeftovers ∧
      ∀ e frame, (added.2.committed.widgetsOf e "a").get? frame = none := by
  intro bare filled published deleted added
  have hadded : added.1.isOk = true := by decide +kernel
  obtain ⟨reply, hreply⟩ := isOk_iff.1 hadded
  have hdeleted : Shared.run ⟨.sample, []⟩ [.join .standard .sample .epoch,
      .edit .sample .epoch (.addPage filled), .edit .sample .epoch (.setPageOnline "a"),
      .edit .sample .epoch (.deletePage "a")] = deleted := rfl
  obtain ⟨hleft, hanew, -⟩ := no_leftover_rows rfl hdeleted
  refine ⟨by decide +kernel, hadded, hleft, fun e frame => ?_⟩
  rw [hanew .sample .epoch bare reply added.2 (Prod.ext hreply rfl) e frame]
  cases e with
  | draft =>
    show Option.map _ ((Slots.empty 2).widgetAt frame) = none
    rw [Slots.widgetAt_empty]
    rfl
  | online => rfl

end Sitemap
