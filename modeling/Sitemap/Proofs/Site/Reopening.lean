import Sitemap.Proofs.Site.Writes
import Sitemap.Proofs.Snapshot.RoundTrip

/-!
# Environments that are opened again

An environment in a directory encodes its tables at every commit, whatever they hold. Whether
the file can be read again shows when the directory is opened the next time. With integers of
64 bits only it can, and gives the same tables, exactly when these are in the ranges that are
read and are shallow.

## Main definitions

- `Environment.IsWritten`, `Environment.IsFiled` — the snapshot file belongs to the committed
  tables
- `Environment.CanReopen` — opening the environment again leads to the committed tables
- `Shared.Step.IsIntegral`, `Shared.Step.IsShallow` — conditions on the data of a step

## Main results

- `Environment.IsFiled.of_write` — every write keeps the snapshot file in step with the tables
- `Environment.IsFiled.canReopen_iff` — when an environment can be opened again
- `reopens_iff_isShallow` — the same along the runs of sites and direct edits
- `committed_tables_lost` — commits that succeed although their tables cannot be read again

## Design notes

A commit does not look at what reading is strict about. One configuration that nests too deep
bars the way to all pages. A number that is no integer of 64 bits is rounded when it is read, and
reading its shortest text rounds again, so it may come back as another number.
-/

namespace Sitemap

/-- The data of a step hold integers only. -/
def Shared.Step.IsIntegral (step : Shared.Step) : Prop :=
  step.AllData (fun v => v.tree.isIntegral) fun w => ∀ v ∈ w.config, v.tree.isIntegral

/-- The data of a step nest no deeper than they are read. -/
def Shared.Step.IsShallow (step : Shared.Step) : Prop :=
  step.AllData (fun v => v.tree.nesting ≤ Tables.extraDepth)
    fun w => ∀ v ∈ w.config, v.tree.nesting ≤ Tables.configDepth

-- ════════════════════════════════════════════════════════════════════════
-- The directory
-- ════════════════════════════════════════════════════════════════════════

namespace Disk

/-- Saving in a directory writes the snapshot file or leaves it. -/
theorem save_directory (t : Tables) (snapshot scratch : DiskEntry) : ∃ scratch',
    save t (directory snapshot scratch) =
        (.error .fileSystem, directory snapshot scratch') ∨
      save t (directory snapshot scratch) =
        (.ok (), directory (.file (SnapshotFile.write t)) scratch') := by
  cases scratch with
  | directory =>
    refine ⟨.directory, .inl ?_⟩
    cases snapshot with
    | absent | file | directory => rfl
  | absent | file =>
    cases snapshot with
    | directory => exact ⟨_, .inl rfl⟩
    | absent | file => exact ⟨_, .inr rfl⟩

theorem of_load {d : Disk} {t : Tables} (h : d.load = .ok t) :
    t.IsRepresentable ∧ t.OmitsNull ∧ t.IsShallow := by
  unfold load at h
  split at h
  · cases h
    decide
  · exact SnapshotFile.of_read h
  · cases h

end Disk

namespace Environment

/-- The tables are kept in a directory, whose snapshot file was written for them. -/
def IsWritten (env : Environment) : Prop :=
  ∃ scratch, env.storage = .disk (.directory (.file (SnapshotFile.write env.committed)) scratch)

/-- The tables are kept in a directory, whose snapshot file was written for them or was read as
    these tables. -/
def IsFiled (env : Environment) : Prop :=
  env.IsWritten ∨ ∃ snapshot scratch, env.storage = .disk (.directory snapshot scratch) ∧
    (Disk.directory snapshot scratch).load = .ok env.committed

/-- Opening the environment again, with a parking frame `q`, leads to the committed tables. -/
def CanReopen (env : Environment) (q : Int) : Prop :=
  ∃ reopened, (openWith q env.storage).1 = .ok reopened ∧ reopened.committed = env.committed

variable {env env' : Environment} {p q : Int} {t : Tables}

-- ════════════════════════════════════════════════════════════════════════
-- Writing
-- ════════════════════════════════════════════════════════════════════════

theorem IsFiled.exists_directory (h : env.IsFiled) :
    ∃ snapshot scratch, env.storage = .disk (.directory snapshot scratch) := by
  obtain ⟨scratch, hstorage⟩ | ⟨snapshot, scratch, hstorage, -⟩ := h
  · exact ⟨_, scratch, hstorage⟩
  · exact ⟨snapshot, scratch, hstorage⟩

/-- The scratch file and the count of commits do not matter. -/
theorem IsFiled.congr {snapshot scratch scratch' : DiskEntry} (h : env.IsFiled)
    (hcommitted : env'.committed = env.committed)
    (hbefore : env.storage = .disk (.directory snapshot scratch))
    (hafter : env'.storage = .disk (.directory snapshot scratch')) : env'.IsFiled := by
  obtain ⟨_, hstorage⟩ | ⟨_, _, hstorage, hload⟩ := h
  · cases hbefore.symm.trans hstorage
    rw [← hcommitted] at hafter
    exact .inl ⟨scratch', hafter⟩
  · cases hbefore.symm.trans hstorage
    rw [← hcommitted] at hload
    exact .inr ⟨snapshot, scratch', hafter, hload⟩

/-- Storing tables in a directory replaces the snapshot file, or it fails and leaves the file
    as it was. -/
theorem directory_of_persist {snapshot scratch : DiskEntry}
    (hstorage : env.storage = .disk (.directory snapshot scratch))
    {outcome : Except StoreError Unit} (h : env.persist t = (outcome, env')) :
    ∃ scratch', match outcome with
      | .ok () =>
        env'.storage = .disk (.directory (.file (SnapshotFile.write t)) scratch')
      | .error _ => env'.committed = env.committed ∧
        env'.storage = .disk (.directory snapshot scratch') := by
  unfold persist at h
  split at h
  · cases h
    exact ⟨scratch, rfl, hstorage⟩
  · rw [hstorage] at h
    dsimp only at h
    obtain ⟨scratch', hsave | hsave⟩ := Disk.save_directory t snapshot scratch
    · rw [hsave] at h
      cases h
      exact ⟨scratch', rfl, rfl⟩
    · rw [hsave] at h
      cases h
      exact ⟨scratch', rfl⟩

/-- A commit writes the snapshot file for the tables that it publishes, or it fails and leaves
    file and tables as they were. -/
theorem IsFiled.of_commit (h : env.IsFiled) {txn : Transaction}
    {outcome : Except StoreError Nat} (hcommit : env.commit txn = (outcome, env')) :
    match outcome with
    | .ok _ => env'.IsWritten
    | .error _ => env'.IsFiled := by
  obtain ⟨snapshot, scratch, hstorage⟩ := h.exists_directory
  unfold commit at hcommit
  split at hcommit
  · cases hcommit
    exact h
  · split at hcommit
    · next hpersist =>
      cases hcommit
      obtain ⟨scratch', hcommitted, hafter⟩ := directory_of_persist hstorage hpersist
      exact h.congr hcommitted hstorage hafter
    · next hpersist =>
      cases hcommit
      obtain ⟨scratch', hafter⟩ := directory_of_persist hstorage hpersist
      exact ⟨scratch', hafter⟩

variable {α : Type} {statements : Tables → Except Error (α × Tables)}

/-- A write that succeeds leaves a snapshot file that was written for the tables, and one that
    fails leaves file and tables as they were. -/
theorem IsFiled.of_write (h : env.IsFiled) {outcome : Except Error α}
    (hwrite : env.write statements = (outcome, env')) :
    match outcome with
    | .ok _ => env'.IsWritten
    | .error _ => env'.IsFiled := by
  simp only [write] at hwrite
  split at hwrite
  · cases hwrite
    exact h
  · split at hwrite
    · next hcommit =>
      cases hwrite
      exact h.of_commit hcommit
    · next hcommit =>
      cases hwrite
      exact h.of_commit hcommit

/-- Every write keeps the snapshot file in step with the tables. -/
theorem IsFiled.write (h : env.IsFiled) : (env.write statements).2.IsFiled := by
  generalize hwrite : env.write statements = written
  obtain ⟨outcome, env'⟩ := written
  cases outcome with
  | error e => exact h.of_write hwrite
  | ok a => exact .inl (h.of_write hwrite)

-- ════════════════════════════════════════════════════════════════════════
-- Opening again
-- ════════════════════════════════════════════════════════════════════════

/-- An environment that was opened on a directory has the tables of the snapshot file. -/
theorem isFiled_of_openWith {disk : Disk} {storage : Storage}
    (h : openWith p (.disk disk) = (.ok env, storage)) :
    env.IsFiled ∧ env.committed.OmitsNull ∧ env.committed.IsShallow := by
  unfold openWith at h
  dsimp only at h
  split at h
  · cases h
  · next prepared hprepared =>
    split at h
    · cases h
    · next tables hload =>
      obtain ⟨hbuild, -⟩ := Prod.mk.inj h
      unfold build at hbuild
      split at hbuild
      · cases hbuild
      · cases hbuild
        obtain ⟨-, hnull, hshallow⟩ := Disk.of_load hload
        refine ⟨?_, hnull, hshallow⟩
        cases disk with
        | missing =>
          cases hprepared
          exact .inr ⟨_, _, rfl, hload⟩
        | barred => cases hprepared
        | directory snapshot scratch =>
          cases hprepared
          exact .inr ⟨_, _, rfl, hload⟩

/-- An environment in a directory can be opened again when its snapshot file is read as its
    tables. -/
theorem canReopen_iff_load {snapshot scratch : DiskEntry}
    (hstorage : env.storage = .disk (.directory snapshot scratch)) (hq : q < 0) :
    env.CanReopen q ↔ (Disk.directory snapshot scratch).load = .ok env.committed := by
  unfold CanReopen openWith
  rw [hstorage]
  dsimp only [Disk.prepare]
  cases (Disk.directory snapshot scratch).load with
  | error e => simp
  | ok t => simp [build, Int.not_le.2 hq]

/-- An environment whose snapshot file was written for its tables can be opened again when these
    are decoded from their encoded form. -/
theorem IsWritten.canReopen_iff (h : env.IsWritten) (hq : q < 0) : env.CanReopen q ↔
    Decoding.tables Decoding.maxDepth (Encoding.tables env.committed) = some env.committed := by
  obtain ⟨scratch, hstorage⟩ := h
  exact (canReopen_iff_load hstorage hq).trans SnapshotFile.read_write_eq_ok_iff

/-- An environment with integers only, and without configurations `null`, can be opened again
    when its tables are in the ranges that are read, and are shallow. -/
theorem IsFiled.canReopen_iff (h : env.IsFiled) (hq : q < 0)
    (hintegral : env.committed.IsIntegral) (hnull : env.committed.OmitsNull) :
    env.CanReopen q ↔ env.committed.IsRepresentable ∧ env.committed.IsShallow := by
  constructor
  · intro hreopens
    obtain ⟨snapshot, scratch, hstorage⟩ := h.exists_directory
    obtain ⟨hrepresentable, -, hshallow⟩ :=
      Disk.of_load ((canReopen_iff_load hstorage hq).1 hreopens)
    exact ⟨hrepresentable, hshallow⟩
  · rintro ⟨hrepresentable, hshallow⟩
    obtain hwritten | ⟨snapshot, scratch, hstorage, hload⟩ := h
    · exact (hwritten.canReopen_iff hq).2
        (Tables.decoded_encoded hrepresentable hintegral hnull hshallow)
    · exact (canReopen_iff_load hstorage hq).2 hload

end Environment

-- ════════════════════════════════════════════════════════════════════════
-- Runs
-- ════════════════════════════════════════════════════════════════════════

theorem Widget.config_normalize_ne_null (isLogic : Bool) (w : Widget) :
    (w.normalize isLogic).config ≠ some .null := by
  unfold normalize
  cases isLogic with
  | true => simp
  | false =>
    intro hnull
    obtain ⟨-, hkept⟩ := Option.filter_eq_some_iff.1 hnull
    exact absurd hkept (by decide)

theorem Widget.mem_config_of_mem_normalize {isLogic : Bool} {w : Widget} {v : JsonValue}
    (h : v ∈ (w.normalize isLogic).config) : v ∈ w.config := by
  unfold normalize at h
  cases isLogic with
  | true => cases h
  | false => exact (Option.filter_eq_some_iff.1 h).1

namespace Shared

variable {s : Shared}

/-- A step stores no configuration `null`, whatever its widgets come with. -/
theorem Step.omitsNull (step : Step) :
    step.AllData (fun _ => True) fun w => w.config ≠ some .null :=
  step.allData_of_stored (fun _ => trivial) fun r w => w.config_normalize_ne_null (r.isLogic w)

/-- Every run keeps the snapshot file in step with the tables. -/
theorem isFiled_run (h : s.env.IsFiled) (steps : List Step) : (s.run steps).env.IsFiled :=
  run_induction (P := Environment.IsFiled) trivial (fun _ hold => hold)
    (fun _ _ _ _ _ hold => hold.write) (fun step _ => step.omitsNull) h

end Shared

/-- After any run of sites and direct edits whose data hold integers only, an environment that
    was opened on a directory can be opened again, with the tables that are committed, exactly
    when these are in the ranges that are read and are shallow. They are shallow as long as
    nothing nests too deep that is to be stored. -/
theorem reopens_iff_isShallow {p q : Int} {disk : Disk} {env : Environment} {storage : Storage}
    (hopen : Environment.openWith p (.disk disk) = (.ok env, storage)) (hq : q < 0)
    (hintegral : env.committed.IsIntegral) (steps : List Shared.Step)
    (hsteps : ∀ step ∈ steps, step.IsIntegral) :
    let after := (Shared.run ⟨env, []⟩ steps).env
    (after.CanReopen q ↔ after.committed.IsRepresentable ∧ after.committed.IsShallow) ∧
      ((∀ step ∈ steps, step.IsShallow) → after.committed.IsShallow) := by
  intro after
  obtain ⟨hfiled, hnull, hshallow⟩ := Environment.isFiled_of_openWith hopen
  have hfiled : after.IsFiled := Shared.isFiled_run hfiled steps
  have hintegral : after.committed.IsIntegral := Shared.allData_run rfl hsteps hintegral
  have hnull : after.committed.OmitsNull :=
    Shared.allData_run trivial (fun step _ => step.omitsNull) hnull
  exact ⟨hfiled.canReopen_iff hq hintegral hnull,
    fun hdata => Shared.allData_run (Nat.zero_le _) hdata hshallow⟩

-- ════════════════════════════════════════════════════════════════════════
-- Configurations that nest
-- ════════════════════════════════════════════════════════════════════════

/-- A number in `depth` arrays, one in another. -/
def Json.stacked : Nat → Json
  | 0 => .int 0
  | depth + 1 => .array [stacked depth]

theorem Json.isCanonical_stacked : (depth : Nat) → (stacked depth).IsCanonical
  | 0 => by decide
  | depth + 1 => ⟨isCanonical_stacked depth, trivial⟩

/-- A number in `depth` arrays, one in another, as a configuration. -/
def JsonValue.stacked (depth : Nat) : JsonValue :=
  ⟨.stacked depth, Json.isCanonical_stacked depth⟩

/-- An environment that was opened where nothing was. -/
def Environment.filed : Environment :=
  ⟨.empty, 0, Environment.defaultParkingFrame, false, .disk .emptyDirectory⟩

theorem Environment.openWith_filed :
    Environment.openWith Environment.defaultParkingFrame (.disk .missing) =
      (.ok .filed, .disk .emptyDirectory) :=
  rfl

/-- A site is given a widget whose configuration nests as deep as it may: the environment can
    be opened again. -/
theorem reopens_iff_isShallow_sample :
    let after := (Shared.run ⟨.filed, []⟩
      [.join .standard .sample .epoch,
        .request 0 .epoch (.joinWidget "homepage" 0 ⟨"menu", some (.stacked 123)⟩)]).env
    (after.committed.widgetsOf .draft "homepage").get? 0 = some ⟨"menu", some (.stacked 123)⟩ ∧
      after.CanReopen Environment.defaultParkingFrame := by
  have hsteps : ∀ step ∈ [Shared.Step.join .standard .sample .epoch,
      .request 0 .epoch (.joinWidget "homepage" 0 ⟨"menu", some (.stacked 123)⟩)],
      step.IsIntegral := by
    simp only [List.mem_cons, List.not_mem_nil, or_false, forall_eq_or_imp, forall_eq]
    refine ⟨trivial, fun r v hv => ?_⟩
    obtain rfl := Option.some.inj (Widget.mem_config_of_mem_normalize hv)
    decide +kernel
  exact ⟨by decide +kernel,
    (reopens_iff_isShallow Environment.openWith_filed (by decide) (by decide) _ hsteps).1.2
      ⟨by decide +kernel, by decide +kernel⟩⟩

/-- What an integer of 24 digits is read as: a three and zeros, rounded. -/
def JsonValue.long : JsonValue :=
  ⟨.fraction ⟨4958396687196483698⟩, trivial⟩

/-- Two widgets are placed directly, each with success, and the environment cannot be opened
    again with the committed tables: one has a configuration that nests one array deeper, the
    other one an integer of more than 64 bits, which is rounded once more. -/
theorem committed_tables_lost :
    let opened := (Shared.run ⟨.filed, []⟩ [.join .standard .sample .epoch]).env
    (Written.read? (Written.asciiOctets "300000000000000000000000".toList)).bind
        (Written.value? Decoding.maxDepth) = some .long ∧
      ∀ config ∈ [JsonValue.stacked 124, JsonValue.long],
        let edited := opened.edit .sample .epoch (.joinWidget "homepage" 0 ⟨"menu", some config⟩)
        edited.1 = .ok (.stamped .epoch) ∧
          ¬ edited.2.CanReopen Environment.defaultParkingFrame := by
  intro opened
  refine ⟨by decide +kernel, fun config hconfig => ?_⟩
  intro edited
  obtain ⟨hfiled, -⟩ := Environment.isFiled_of_openWith Environment.openWith_filed
  have hopened : opened.IsFiled := Shared.isFiled_run (s := ⟨.filed, []⟩) hfiled _
  have hdone : edited.1 = .ok (.stamped .epoch) := by
    revert config
    decide +kernel
  have hlost : Decoding.tables Decoding.maxDepth (Encoding.tables edited.2.committed) ≠
      some edited.2.committed := by
    revert config
    decide +kernel
  refine ⟨hdone, fun hreopens => hlost ?_⟩
  have hwritten : edited.2.IsWritten := hopened.of_write (Prod.ext hdone rfl)
  exact (hwritten.canReopen_iff (by decide)).1 hreopens

end Sitemap
