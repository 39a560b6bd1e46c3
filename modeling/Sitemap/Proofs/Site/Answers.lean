import Sitemap.Proofs.Environment.Transactions
import Sitemap.Proofs.Rows.Answers
import Sitemap.Proofs.Site.Writes

/-!
# Answers and rows

Whoever adds a page or rewrites a draft directly is answered with what was given, stamped with the
time. The rows hold the same, except for configurations that they do not keep: those of logic
widgets and explicit `null`. So the answer is what everyone will load exactly when the given
versions have no such configuration.

## Main definitions

- `Environment.IsReached` — an environment whose tables were empty once
- `Page.answered` — a page as an edit answers with it

## Main results

- `Environment.IsReached.isSound` — committed tables are sound whoever wrote them, and however
- `answers_load_iff_keepsConfigs` — what is loaded after an answer
- `answers_not_loaded` — answers with configurations that nobody will ever load
-/

namespace Sitemap

-- ════════════════════════════════════════════════════════════════════════
-- Environments that were empty
-- ════════════════════════════════════════════════════════════════════════

/-- An environment whose tables were empty once. Since then they were written to by transactions
    by hand, by direct edits and by sites, and opened again, in any order. -/
inductive Environment.IsReached : Environment → Prop where
  /-- The tables are empty. -/
  | vacant {env : Environment} (hempty : env.committed = .empty) : env.IsReached
  /-- A transaction by hand, or something that makes a later one fail. -/
  | transaction {env : Environment} (h : env.IsReached) (step : Environment.Step) :
      (env.step step).IsReached
  /-- Sites open and are sent requests, and rows are edited directly. -/
  | shared {env : Environment} (h : env.IsReached) (sites : List Site)
      (steps : List Shared.Step) : (Shared.run ⟨env, sites⟩ steps).env.IsReached
  /-- The tables are opened again. -/
  | reopened {env env' : Environment} (h : env.IsReached) (hsame : env'.committed = env.committed) :
      env'.IsReached

/-- The reference check and the filing of the rows keep committed tables sound. -/
theorem Environment.isSound_edit {env : Environment} (h : env.committed.IsSound) (r : Registry)
    (time : Timestamp) (edit : Edit) : (env.edit r time edit).2.committed.IsSound :=
  committed_edit h fun _ _ hrun hlinked => ⟨hlinked, Edit.isKeyed_of_run h.filed hrun⟩

/-- Committed tables stay sound along every run. -/
theorem Shared.isSound_run {s : Shared} (h : s.env.committed.IsSound) (steps : List Step) :
    (s.run steps).env.committed.IsSound :=
  have hdata : ∀ step ∈ steps, step.AllData (fun _ => True) fun _ => True := fun step _ =>
    step.allData_of_stored (fun _ => trivial) fun _ _ => trivial
  run_induction (P := fun env => env.committed.IsSound) trivial (fun _ hold => hold)
    (fun _ r time edit _ hold => Environment.isSound_edit hold r time edit) hdata h

/-- A page as it is answered once it was stored at a position and a time. -/
def Page.answered (p : Page) (position : Int) (time : Timestamp) : Page :=
  { p with
    position
    draft := p.draft.stamped time
    online := p.online.map fun v => v.stamped time }

/-- The time of the write is no matter of configurations. -/
theorem Page.keepsConfigs_answered {p : Page} {r : Registry} {position : Int} {time : Timestamp} :
    (p.answered position time).KeepsConfigs r ↔ p.KeepsConfigs r := by
  constructor
  · intro h e v hv
    have hkept := h e (v.stamped time)
    cases e with
    | draft =>
      cases hv
      exact hkept rfl
    | online => exact hkept (Option.map_eq_some_iff.2 ⟨v, hv, rfl⟩)
  · intro h e v hv
    cases e with
    | draft =>
      cases hv
      exact h .draft p.draft rfl
    | online =>
      obtain ⟨w, hw, rfl⟩ := Option.map_eq_some_iff.1 hv
      exact h .online w hw

namespace Environment

variable {env env' : Environment} {r : Registry} {now : Timestamp} {page : Page}
  {reply : EditReply}

theorem IsReached.isSound (h : env.IsReached) : env.committed.IsSound := by
  induction h with
  | vacant hempty =>
    rw [hempty]
    exact Tables.isSound_empty
  | transaction _ step ih => exact isSound_step ih step
  | shared _ sites steps ih => exact Shared.isSound_run ih steps
  | reopened _ hsame ih =>
    rw [hsame]
    exact ih

-- ════════════════════════════════════════════════════════════════════════
-- Answers
-- ════════════════════════════════════════════════════════════════════════

/-- The answer to a new page is loaded as the rows hold it. -/
theorem loadedUnder_of_addPage (h : env.committed.IsSound)
    (hframes : ∀ e v, page.version e = some v → r.frameCount v.model = some v.slots.frameCount)
    (hedit : env.edit r now (.addPage page) = (.ok reply, env')) :
    ∃ position, reply = .page (page.answered position now) ∧
      env'.committed.loadedUnder r page.code = .ok [(page.answered position now).asStored r] := by
  obtain ⟨t, hrun, hcommits⟩ := commits_of_write hedit
  obtain ⟨⟨stored, u⟩, hrow, hanswer⟩ := map_eq_ok.1 hrun
  cases hanswer
  have hlinked := Tables.checkReferences_eq_ok.1 hcommits.checked
  have hfiled := Edit.isKeyed_of_run h.filed hrun
  obtain ⟨row, hfound, hload⟩ := RowEdit.loadPage_of_addPage h.linked hframes hrow
  obtain ⟨-, -, rfl⟩ := RowEdit.pages_of_addPage hrow
  rw [hcommits.committed]
  exact ⟨_, rfl, Tables.loadedUnder_eq_ok hlinked hfiled hfound hload⟩

/-- The answer to a rewritten draft is the draft with the time of the write. It is loaded as the
    rows hold it. -/
theorem loadedUnder_of_updatePage (h : env.committed.IsSound)
    (hframes : r.frameCount page.draft.model = some page.draft.slots.frameCount)
    (hedit : env.edit r now (.updatePage page) = (.ok reply, env')) :
    reply = .version (page.draft.stamped now) ∧
      ∃ loaded, env'.committed.loadedUnder r page.code = .ok [loaded] ∧
        loaded.draft = (page.draft.stamped now).asStored r := by
  obtain ⟨t, hrun, hcommits⟩ := commits_of_write hedit
  obtain ⟨⟨draft, u⟩, hrow, hanswer⟩ := map_eq_ok.1 hrun
  cases hanswer
  have hlinked := Tables.checkReferences_eq_ok.1 hcommits.checked
  have hfiled := Edit.isKeyed_of_run h.filed hrun
  obtain ⟨hstored, hloaded⟩ := RowEdit.loadVersion_of_updatePage hframes hrow
  obtain ⟨rfl, -⟩ := RowEdit.touches_of_updatePage hrow
  obtain ⟨row, hfound⟩ := Option.isSome_iff_exists.1 hstored
  obtain ⟨loaded, hload⟩ := Tables.exists_loadPage (r := r) (hlinked.draft _ row hfound)
  have hdraft := (Tables.loadPage_eq_ok.1 hload).2.2.1
  rw [hfiled _ row hfound, hloaded] at hdraft
  rw [hcommits.committed]
  exact ⟨rfl, loaded, Tables.loadedUnder_eq_ok hlinked hfiled hfound hload,
    (Option.some.inj hdraft).symm⟩

end Environment

/-- What everyone loads after an answer, in an environment that was empty once. A page that was
    added is answered as given, with its position and the time of the write, and a draft that was
    rewritten as given, with the time. Under the code of the page one page is loaded, and it is the
    answer without the configurations that the rows do not keep. So answer and rows agree exactly
    when all placed widgets keep their configurations: none has a configuration `null`, and no
    logic widget has any. -/
theorem answers_load_iff_keepsConfigs {env : Environment} (hreached : env.IsReached)
    (r : Registry) (now : Timestamp) (page : Page) :
    ((∀ e v, page.version e = some v → r.frameCount v.model = some v.slots.frameCount) →
      ∀ reply env', env.edit r now (.addPage page) = (.ok reply, env') →
        ∃ position, reply = .page (page.answered position now) ∧
          env'.committed.loadedUnder r page.code =
            .ok [(page.answered position now).asStored r] ∧
          (env'.committed.loadedUnder r page.code = .ok [page.answered position now] ↔
            page.KeepsConfigs r)) ∧
      (r.frameCount page.draft.model = some page.draft.slots.frameCount →
        ∀ reply env', env.edit r now (.updatePage page) = (.ok reply, env') →
          reply = .version (page.draft.stamped now) ∧
            ∃ loaded, env'.committed.loadedUnder r page.code = .ok [loaded] ∧
              loaded.draft = (page.draft.stamped now).asStored r ∧
              (loaded.draft = page.draft.stamped now ↔ page.draft.KeepsConfigs r)) := by
  have hsound := hreached.isSound
  constructor
  · intro hframes reply env' hedit
    obtain ⟨position, hreply, hloaded⟩ := Environment.loadedUnder_of_addPage hsound hframes hedit
    refine ⟨position, hreply, hloaded, ?_⟩
    have hkeeps : page.KeepsConfigs r ↔ (page.answered position now).KeepsConfigs r :=
      Page.keepsConfigs_answered.symm
    rw [hloaded, hkeeps, ← Page.asStored_eq_self_iff]
    simp only [Except.ok.injEq, List.cons.injEq, and_true]
  · intro hframes reply env' hedit
    obtain ⟨hreply, loaded, hloaded, hdraft⟩ :=
      Environment.loadedUnder_of_updatePage hsound hframes hedit
    refine ⟨hreply, loaded, hloaded, hdraft, ?_⟩
    rw [hdraft, PageVersion.asStored_eq_self_iff]
    rfl

/-- A page is added with a configuration that the rows keep, and its draft is rewritten with one
    that they do not. -/
theorem answers_load_iff_keepsConfigs_sample :
    let r := (Registry.empty.withModel "home" 2).withType "logic" ⟨true, none, false⟩
    let draft : PageVersion := { PageVersion.empty "home" 2 with
      slots := ⟨[some ⟨"menu", some ⟨.bool true, trivial⟩⟩, some ⟨"logic", none⟩]⟩ }
    let page : Page := ⟨⟨"home", none, 0⟩, "free", draft, none⟩
    let other : PageVersion := { draft with slots := ⟨[none, some ⟨"menu", some .null⟩]⟩ }
    let added := Environment.sample.edit r .epoch (.addPage page)
    let rewritten := added.2.edit r .epoch (.updatePage { page with draft := other })
    added.1 = .ok (.page (page.answered 1 .epoch)) ∧
      added.2.committed.loadedUnder r "home" = .ok [page.answered 1 .epoch] ∧
      rewritten.1 = .ok (.version (other.stamped .epoch)) ∧
      ∃ loaded, rewritten.2.committed.loadedUnder r "home" = .ok [loaded] ∧
        loaded.draft.slots = ⟨[none, some ⟨"menu", none⟩]⟩ := by
  intro r draft page other added rewritten
  have hreached : Environment.sample.IsReached := .vacant rfl
  have hadded : added.1 = .ok (.page (page.answered 1 .epoch)) := by decide +kernel
  have hrewritten : rewritten.1 = .ok (.version (other.stamped .epoch)) := by decide +kernel
  have hframes : ∀ e v, page.version e = some v →
      r.frameCount v.model = some v.slots.frameCount := by
    intro e v hv
    cases e <;> cases hv
    rfl
  obtain ⟨hadds, -⟩ := answers_load_iff_keepsConfigs hreached r .epoch page
  obtain ⟨position, hanswer, -, hkept⟩ := hadds hframes _ added.2 (Prod.ext hadded rfl)
  cases hanswer
  have hedited : added.2.IsReached := hreached.shared [] [.edit r .epoch (.addPage page)]
  obtain ⟨-, hupdates⟩ :=
    answers_load_iff_keepsConfigs hedited r .epoch { page with draft := other }
  obtain ⟨-, loaded, hloaded, hdraft, -⟩ :=
    hupdates rfl _ rewritten.2 (Prod.ext hrewritten rfl)
  refine ⟨hadded, hkept.2 (Page.asStored_eq_self_iff.1 (by decide +kernel)), hrewritten, loaded,
    hloaded, ?_⟩
  rw [hdraft]
  decide +kernel

/-- A page is added to an environment without pages, then its draft is rewritten as it is. Both
    succeed, and what they answer is not what is loaded: the logic widget has lost its
    configuration, and the other widget its `null`. -/
theorem answers_not_loaded :
    let r := (Registry.empty.withModel "home" 2).withType "logic" ⟨true, none, false⟩
    let draft : PageVersion := { PageVersion.empty "home" 2 with
      slots := ⟨[some ⟨"menu", some .null⟩, some ⟨"logic", some ⟨.bool true, trivial⟩⟩]⟩ }
    let page : Page := ⟨⟨"home", none, 0⟩, "free", draft, none⟩
    let added := Environment.sample.edit r .epoch (.addPage page)
    let rewritten := added.2.edit r .epoch (.updatePage page)
    Environment.sample.IsReached ∧ added.2.IsReached ∧
      (∀ e v, page.version e = some v → r.frameCount v.model = some v.slots.frameCount) ∧
      (∃ stored loaded, added.1 = .ok (.page stored) ∧
        added.2.committed.loadedUnder r "home" = .ok [loaded] ∧ loaded ≠ stored) ∧
      ∃ stored loaded, rewritten.1 = .ok (.version stored) ∧
        rewritten.2.committed.loadedUnder r "home" = .ok [loaded] ∧ loaded.draft ≠ stored := by
  intro r draft page added rewritten
  have hreached : Environment.sample.IsReached := .vacant rfl
  have hedited : added.2.IsReached := hreached.shared [] [.edit r .epoch (.addPage page)]
  have hadded : added.1 = .ok (.page (page.answered 1 .epoch)) := by decide +kernel
  have hrewritten : rewritten.1 = .ok (.version (draft.stamped .epoch)) := by decide +kernel
  have hframes : ∀ e v, page.version e = some v →
      r.frameCount v.model = some v.slots.frameCount := by
    intro e v hv
    cases e <;> cases hv
    rfl
  obtain ⟨position, hanswer, hloaded⟩ := Environment.loadedUnder_of_addPage
    hreached.isSound hframes (Prod.ext hadded rfl : added = (_, added.2))
  cases hanswer
  obtain ⟨-, loaded, hloaded', hdraft⟩ := Environment.loadedUnder_of_updatePage hedited.isSound
    (hframes .draft draft rfl) (Prod.ext hrewritten rfl : rewritten = (_, rewritten.2))
  refine ⟨hreached, hedited, hframes, ⟨_, _, hadded, hloaded, by decide +kernel⟩,
    _, loaded, hrewritten, hloaded', ?_⟩
  rw [hdraft]
  decide +kernel

end Sitemap
