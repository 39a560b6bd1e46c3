import Sitemap.Edit

/-!
# Outcomes of a write

A write either publishes the tables that its statements lead to, or it publishes nothing.

## Main definitions

- `Storage.snapshot` — what stands under the name of the snapshot file
- `Environment.Commits` — one environment is another one after a commit
- `Environment.Refuses` — one environment is another one after a refused write
- `Environment.FailsWith` — why tables that are in order may not be stored
- `Environment.CanStore` — there is no reason why they may not

## Main results

- `Environment.commits_of_write` — a write that succeeds has committed checked tables
- `Environment.refuses_of_write` — a write that fails has published nothing
- `Environment.failsWith_of_write` — a write of linked tables fails for want of storage only
- `Environment.canStore_of_write` — after a write that succeeds, tables can be stored
-/

namespace Sitemap

/-- What stands under the name of the snapshot file. -/
def Storage.snapshot : Storage → DiskEntry
  | .memory => .absent
  | .disk d => d.snapshot

namespace Environment

/-- `after` is `before` once the tables `t` were committed. -/
structure Commits (before : Environment) (t : Tables) (after : Environment) : Prop where
  /-- The tables are those that everyone sees from now on. -/
  committed : after.committed = t
  /-- Their references lead somewhere. -/
  checked : t.checkReferences = .ok ()
  /-- The commit has the next number. -/
  lastTransaction : after.lastTransaction = before.lastTransaction + 1
  /-- The parking frame stays. -/
  parkingFrame : after.parkingFrame = before.parkingFrame
  /-- No commit was ordered to fail. -/
  armed : before.failNext = false
  /-- None is after the commit. -/
  failNext : after.failNext = false

/-- `after` is `before` once a write was refused for the reason `e`. The order that a
    commit fails may be spent, and nothing else is changed that can be read. -/
structure Refuses (before : Environment) (e : Error) (after : Environment) : Prop where
  /-- Everyone sees the same tables as before. -/
  committed : after.committed = before.committed
  /-- No commit was counted. -/
  lastTransaction : after.lastTransaction = before.lastTransaction
  /-- The parking frame stays. -/
  parkingFrame : after.parkingFrame = before.parkingFrame
  /-- The snapshot file stays. -/
  snapshot : after.storage.snapshot = before.storage.snapshot
  /-- Where the file system did not refuse, the other files stay as well. -/
  storage : e ≠ .store .fileSystem → after.storage = before.storage
  /-- An order that a commit fails stays, or it is spent by the failure that it asks for. -/
  failNext : after.failNext = before.failNext ∨
    before.failNext = true ∧ after.failNext = false ∧ e = .store .requestedFailure

end Environment

/-- Saving fails only where the file system refuses, and then the snapshot file stays. -/
theorem Disk.snapshot_save_of_error {d d' : Disk} {t : Tables} {e : StoreError}
    (h : d.save t = (.error e, d')) : d'.snapshot = d.snapshot ∧ e = .fileSystem := by
  unfold Disk.save at h
  split at h
  all_goals
    simp only [Prod.mk.injEq, Except.error.injEq, reduceCtorEq, false_and] at h
  all_goals
    obtain ⟨rfl, rfl⟩ := h
    exact ⟨rfl, rfl⟩

/-- A directory in which tables were saved stands in the way of nothing. -/
theorem Disk.save_of_save {d d' : Disk} {t : Tables} (h : d.save t = (.ok (), d'))
    (u : Tables) : (d'.save u).1 = .ok () := by
  unfold Disk.save at h
  split at h
  all_goals
    cases h
  rfl

namespace Environment

variable {env env' : Environment} {t : Tables} {e : StoreError}

-- ════════════════════════════════════════════════════════════════════════
-- Commits
-- ════════════════════════════════════════════════════════════════════════

/-- A write that ends before anything is stored leaves the environment as it is. -/
theorem refuses_self (env : Environment) (cause : Error) : env.Refuses cause env :=
  ⟨rfl, rfl, rfl, rfl, fun _ => rfl, .inl rfl⟩

/-- Storing tables fails on request or because the file system refuses. -/
theorem refuses_of_persist (h : env.persist t = (.error e, env')) :
    env.Refuses (.store e) env' := by
  unfold persist at h
  split at h
  · next harmed =>
    cases h
    exact ⟨rfl, rfl, rfl, rfl, fun _ => rfl, .inr ⟨harmed, rfl, rfl⟩⟩
  · split at h
    · cases h
    · next disk hdisk =>
      generalize hsave : disk.save t = saved at h
      obtain ⟨outcome, disk'⟩ := saved
      cases h
      obtain ⟨hsnapshot, rfl⟩ := Disk.snapshot_save_of_error hsave
      refine ⟨rfl, rfl, rfl, ?_, fun hne => absurd rfl hne, .inl rfl⟩
      rw [hdisk]
      exact hsnapshot

/-- Storing tables changes nothing but the files. -/
theorem exists_storage_of_persist (h : env.persist t = (.ok (), env')) :
    env.failNext = false ∧ ∃ storage, env' = { env with storage } := by
  unfold persist at h
  split at h
  · cases h
  · next harmed =>
    refine ⟨by simpa using harmed, ?_⟩
    split at h
    · cases h
      exact ⟨_, rfl⟩
    · obtain ⟨-, rfl⟩ := Prod.mk.inj h
      exact ⟨_, rfl⟩

/-- A commit that fails has published nothing. -/
theorem refuses_of_commit {txn : Transaction} (h : env.commit txn = (.error e, env')) :
    env.Refuses (.store e) env' := by
  unfold commit at h
  split at h
  · cases h
    exact refuses_self env _
  · split at h
    · next hpersist =>
      cases h
      exact refuses_of_persist hpersist
    · cases h

/-- A commit that succeeds has published the tables of its transaction. -/
theorem commits_of_commit {number : Nat}
    (h : env.commit ⟨env.lastTransaction + 1, t⟩ = (.ok number, env')) :
    env.Commits t env' := by
  unfold commit at h
  split at h
  · cases h
  · next hcheck =>
    split at h
    · cases h
    · next hpersist =>
      cases h
      obtain ⟨harmed, storage, rfl⟩ := exists_storage_of_persist hpersist
      exact ⟨rfl, hcheck, rfl, rfl, harmed, harmed⟩

variable {α : Type} {statements : Tables → Except Error (α × Tables)}

/-- A write that succeeds has committed the tables that its statements lead to. -/
theorem commits_of_write {a : α} (h : env.write statements = (.ok a, env')) :
    ∃ t, statements env.committed = .ok (a, t) ∧ env.Commits t env' := by
  simp only [write, beginWrite] at h
  split at h
  · cases h
  · next hrun =>
    split at h
    · cases h
    · next hcommit =>
      cases h
      exact ⟨_, hrun, commits_of_commit hcommit⟩

/-- A write that fails has published nothing, whether a statement was refused half-way, a
    reference leads nowhere or the tables could not be stored. -/
theorem refuses_of_write {cause : Error} (h : env.write statements = (.error cause, env')) :
    env.Refuses cause env' := by
  simp only [write, beginWrite] at h
  split at h
  · cases h
    exact refuses_self env _
  · split at h
    · next hcommit =>
      cases h
      exact refuses_of_commit hcommit
    · cases h

-- ════════════════════════════════════════════════════════════════════════
-- Failures of the storage
-- ════════════════════════════════════════════════════════════════════════

/-- Why an environment may not store tables that are in order. -/
inductive FailsWith (env : Environment) : StoreError → Prop where
  /-- The next commit was ordered to fail. -/
  | requested (harmed : env.failNext = true) : FailsWith env .requestedFailure
  /-- The file system refuses to save them. -/
  | refused {disk : Disk} {t : Tables} (hstorage : env.storage = .disk disk)
    (hsave : (disk.save t).1 = .error .fileSystem) : FailsWith env .fileSystem

/-- No commit is ordered to fail, and the file system saves all tables. -/
structure CanStore (env : Environment) : Prop where
  /-- No commit is ordered to fail. -/
  unarmed : env.failNext = false
  /-- All tables are saved. -/
  saves : ∀ disk t, env.storage = .disk disk → (disk.save t).1 = .ok ()

theorem CanStore.of_memory (hmemory : env.storage = .memory) (hunarmed : env.failNext = false) :
    env.CanStore where
  unarmed := hunarmed
  saves disk t hdisk := by
    rw [hmemory] at hdisk
    cases hdisk

theorem CanStore.not_failsWith (h : env.CanStore) : ¬ env.FailsWith e := by
  intro hfails
  cases hfails with
  | requested harmed =>
    rw [h.unarmed] at harmed
    cases harmed
  | refused hstorage hsave =>
    rw [h.saves _ _ hstorage] at hsave
    cases hsave

theorem failsWith_of_persist (h : env.persist t = (.error e, env')) : env.FailsWith e := by
  unfold persist at h
  split at h
  · next harmed =>
    cases h
    exact .requested harmed
  · split at h
    · cases h
    · next disk hdisk =>
      generalize hsave : disk.save t = saved at h
      obtain ⟨outcome, disk'⟩ := saved
      cases h
      obtain ⟨-, rfl⟩ := Disk.snapshot_save_of_error hsave
      exact .refused hdisk (congrArg Prod.fst hsave)

/-- Where tables were stored once, tables can be stored. -/
theorem canStore_of_persist (h : env.persist t = (.ok (), env')) : env'.CanStore := by
  have hunarmed := (exists_storage_of_persist h).1
  unfold persist at h
  rw [hunarmed, if_neg Bool.false_ne_true] at h
  split at h
  · next hmemory =>
    cases h
    exact .of_memory hmemory hunarmed
  · next disk hdisk =>
    obtain ⟨hsave, rfl⟩ := Prod.mk.inj h
    refine ⟨rfl, fun saved u hsaved => ?_⟩
    cases hsaved
    exact Disk.save_of_save (Prod.ext hsave rfl) u

/-- After a write that succeeded, tables can be stored. -/
theorem canStore_of_write {a : α} (h : env.write statements = (.ok a, env')) :
    env'.CanStore := by
  simp only [write, beginWrite] at h
  split at h
  · cases h
  · split at h
    · cases h
    · next hcommit =>
      cases h
      unfold commit at hcommit
      split at hcommit
      · cases hcommit
      · split at hcommit
        · cases hcommit
        · next hpersist =>
          cases hcommit
          obtain ⟨hunarmed, hsaves⟩ := canStore_of_persist hpersist
          exact ⟨hunarmed, hsaves⟩

/-- A write whose statements lead to tables in order fails for want of storage only. -/
theorem failsWith_of_write {a : α} {cause : Error} (hrun : statements env.committed = .ok (a, t))
    (hchecked : t.checkReferences = .ok ()) (h : env.write statements = (.error cause, env')) :
    ∃ e, cause = .store e ∧ env.FailsWith e := by
  simp only [write, beginWrite, hrun] at h
  split at h
  · next hcommit =>
    cases h
    simp only [commit, hchecked] at hcommit
    split at hcommit
    · next hpersist =>
      cases hcommit
      exact ⟨_, rfl, failsWith_of_persist hpersist⟩
    · cases hcommit
  · cases h

end Environment

end Sitemap
