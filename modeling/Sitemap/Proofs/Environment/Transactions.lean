import Sitemap.Environment.Transactions
import Sitemap.Proofs.Environment.Outcome
import Sitemap.Proofs.Rows.Filing

/-!
# Transactions by hand, observed

Statements may leave the tables of a transaction in any state, with parents that are not
stored or publications that stopped half-way. What is committed is sound nevertheless.

## Main definitions

- `Tables.IsSound` — references lead to stored pages, and keys are codes

## Main results

- `Environment.step_cases` — a step commits the tables that statements lead to, or it
  publishes nothing
- `Environment.isSound_run` — committed tables stay sound
- `Environment.lastTransaction_run`, `Environment.numbers_eq_range'` — commits are counted
- `Environment.committed_tables_load` — what everyone sees of an environment that was empty
-/

namespace Sitemap

/-- Every reference leads to a stored page, and every row is filed under its code. -/
structure Tables.IsSound (t : Tables) : Prop where
  /-- References lead to stored pages, and stored pages have drafts. -/
  linked : t.IsLinked
  /-- Rows are filed under their codes. -/
  filed : t.IsKeyed

theorem Tables.isSound_empty : Tables.empty.IsSound where
  linked := checkReferences_eq_ok.1 (by decide)
  filed code row hrow := by cases hrow

/-- Sound tables can be loaded, and the loaded pages present their rows. -/
theorem Tables.IsSound.exists_presents {t : Tables} (h : t.IsSound) (r : Registry) :
    ∃ pages, t.loadPages r = .ok pages ∧ t.Presents pages := by
  obtain ⟨pages, hload⟩ := exists_loadPages h.linked r
  exact ⟨pages, hload, presents_of_loadPages h.filed hload⟩

namespace Environment

variable {env env' : Environment}

-- ════════════════════════════════════════════════════════════════════════
-- Steps
-- ════════════════════════════════════════════════════════════════════════

theorem number_of_commit {txn : Transaction} {number : Nat}
    (h : env.commit txn = (.ok number, env')) : number = txn.number := by
  unfold commit at h
  split at h
  · cases h
  · split at h
    · cases h
    · cases h
      rfl

/-- A step commits the tables that its statements lead to, with the next number, or nothing
    of it is published. -/
theorem step_cases (env : Environment) (step : Step) :
    (∃ statements, env.number? step = some (env.lastTransaction + 1) ∧
        env.Commits (Statement.runAll statements env.committed) (env.step step)) ∨
      env.number? step = none ∧ (env.step step).committed = env.committed ∧
        (env.step step).lastTransaction = env.lastTransaction := by
  cases step with
  | commit statements =>
    generalize hcommit : env.commitAll statements = result
    obtain ⟨outcome, env'⟩ := result
    have hnumber : env.number? (.commit statements) = outcome.toOption :=
      congrArg (fun result => result.1.toOption) hcommit
    have hstep : env.step (.commit statements) = env' := congrArg Prod.snd hcommit
    rw [hnumber, hstep]
    cases outcome with
    | ok number =>
      obtain rfl := number_of_commit hcommit
      exact .inl ⟨statements, rfl, commits_of_commit hcommit⟩
    | error e =>
      have hrefuses := refuses_of_commit hcommit
      exact .inr ⟨rfl, hrefuses.committed, hrefuses.lastTransaction⟩
  | abort | failNextCommit => exact .inr ⟨rfl, rfl, rfl⟩
  | replaceDisk disk =>
    refine .inr ⟨rfl, ?_⟩
    show (env.replaceDisk disk).committed = _ ∧ (env.replaceDisk disk).lastTransaction = _
    unfold replaceDisk
    split <;> exact ⟨rfl, rfl⟩

/-- The reference check and the filing of the rows keep committed tables sound. -/
theorem isSound_step (h : env.committed.IsSound) (step : Step) :
    (env.step step).committed.IsSound := by
  obtain ⟨statements, -, hcommits⟩ | ⟨-, hkept, -⟩ := env.step_cases step
  · rw [hcommits.committed]
    exact ⟨Tables.checkReferences_eq_ok.1 hcommits.checked,
      Statement.isKeyed_runAll h.filed statements⟩
  · rw [hkept]
    exact h

/-- A step is counted when it was committed. -/
theorem lastTransaction_step (env : Environment) (step : Step) :
    (env.step step).lastTransaction = env.lastTransaction + (env.number? step).toList.length := by
  obtain ⟨statements, hnumber, hcommits⟩ | ⟨hnone, -, hkept⟩ := env.step_cases step
  · rw [hcommits.lastTransaction, hnumber]
    rfl
  · rw [hkept, hnone]
    rfl

-- ════════════════════════════════════════════════════════════════════════
-- Runs
-- ════════════════════════════════════════════════════════════════════════

theorem isSound_run (h : env.committed.IsSound) (steps : List Step) :
    (env.run steps).committed.IsSound := by
  induction steps generalizing env with
  | nil => exact h
  | cons step steps ih => exact ih (isSound_step h step)

theorem lastTransaction_run (env : Environment) (steps : List Step) :
    (env.run steps).lastTransaction = env.lastTransaction + (env.numbers steps).length := by
  induction steps generalizing env with
  | nil => rfl
  | cons step steps ih =>
    show ((env.step step).run steps).lastTransaction = _
    rw [ih, lastTransaction_step, numbers, List.length_append, Nat.add_assoc]

/-- Commits are numbered one after the other, whatever failed in between. -/
theorem numbers_eq_range' (env : Environment) (steps : List Step) :
    env.numbers steps = List.range' (env.lastTransaction + 1) (env.numbers steps).length := by
  induction steps generalizing env with
  | nil => rfl
  | cons step steps ih =>
    have hrest := ih (env.step step)
    rw [lastTransaction_step] at hrest
    rw [numbers, hrest]
    obtain ⟨statements, hnumber, -⟩ | ⟨hnone, -⟩ := env.step_cases step
    · rw [hnumber]
      simp [List.range'_succ]
    · rw [hnone]
      simp

theorem lastTransaction_of_openWith {parkingFrame : Int} {storage storage' : Storage}
    (h : openWith parkingFrame storage = (.ok env, storage')) : env.lastTransaction = 0 := by
  have hbuild : ∀ {storage : Storage} {t : Tables}, build parkingFrame storage t = .ok env →
      env.lastTransaction = 0 := by
    intro storage t h
    unfold build at h
    split at h
    · cases h
    · cases h
      rfl
  unfold openWith at h
  split at h
  · exact hbuild (Prod.mk.inj h).1
  · split at h
    · cases h
    · split at h
      · cases h
      · exact hbuild (Prod.mk.inj h).1

/-- What everyone sees of an environment that was opened empty: whatever statements its write
    transactions ran, refused ones included, and however they ended, every reference in the
    committed tables leads to a stored page, every row is filed under its code, the pages can
    be loaded, one for each row in strictly ascending order, and the number of the last
    transaction is the number of commits that succeeded. -/
theorem committed_tables_load {parkingFrame : Int} {storage storage' : Storage}
    (hopen : openWith parkingFrame storage = (.ok env, storage'))
    (hempty : env.committed = .empty) (steps : List Step) (r : Registry) :
    (env.run steps).committed.IsLinked ∧ (env.run steps).committed.IsKeyed ∧
      (∃ pages, (env.run steps).committed.loadPages r = .ok pages ∧
        (env.run steps).committed.Presents pages) ∧
      (env.run steps).lastTransaction = (env.numbers steps).length := by
  have hsound : (env.run steps).committed.IsSound :=
    isSound_run (hempty ▸ Tables.isSound_empty) steps
  refine ⟨hsound.linked, hsound.filed, hsound.exists_presents r, ?_⟩
  rw [lastTransaction_run, lastTransaction_of_openWith hopen, Nat.zero_add]

/-- Two pages are stored with duplicates in between, a transaction that drops one of them is
    given up, and commits fail for a parent that is not stored, on request and for want of a
    directory. Three commits are left, the last one with a publication that stopped half-way. -/
theorem committed_tables_load_sample :
    let draft := (PageVersion.empty "home" 2).toMetadata
    let steps : List Step :=
      [.commit [.insertPage ⟨⟨"home", none, 1⟩, "free"⟩, .insertPage ⟨⟨"home", none, 9⟩, "free"⟩,
          .insertMetadata .draft "home" draft, .deletePage "nowhere"],
        .abort [.deletePage "home"],
        .commit [.insertPage ⟨⟨"a", some "nowhere", 1⟩, "free"⟩, .insertMetadata .draft "a" draft],
        .failNextCommit, .commit [],
        .commit [.insertPage ⟨⟨"a", some "home", 1⟩, "free"⟩, .insertMetadata .draft "a" draft,
          .insertWidget .draft "a" 1 ⟨"menu", none⟩, .insertWidget .online "a" 1 ⟨"logo", none⟩],
        .replaceDisk .missing, .commit [.deletePage "a"], .replaceDisk .emptyDirectory,
        .commit [.copyDraftToOnline "a", .copyDraftToOnline "nowhere"]]
    let env : Environment := ⟨.empty, 0, -9999, false, .disk .emptyDirectory⟩
    let t := (env.run steps).committed
    env.numbers steps = [1, 2, 3] ∧ (env.run steps).lastTransaction = 3 ∧ t.IsLinked ∧ t.IsKeyed ∧
      ∃ pages, t.loadPages (Registry.empty.withModel "home" 2) = .ok pages ∧ t.Presents pages ∧
        pages.length = 2 := by
  intro draft steps env t
  have hopen : openWith (-9999) (.disk .missing) = (.ok env, .disk .emptyDirectory) := rfl
  obtain ⟨hlinked, hfiled, ⟨pages, hload, hpresents⟩, hcount⟩ :=
    committed_tables_load hopen rfl steps (Registry.empty.withModel "home" 2)
  have hnumbers : env.numbers steps = [1, 2, 3] := by decide +kernel
  have hrows : t.pages.values.length = 2 := by decide +kernel
  have hlength := hpresents.rows.length_eq
  rw [hnumbers] at hcount
  rw [List.length_map] at hlength
  exact ⟨hnumbers, hcount, hlinked, hfiled, pages, hload, hpresents, hlength.trans hrows⟩

end Environment

end Sitemap
