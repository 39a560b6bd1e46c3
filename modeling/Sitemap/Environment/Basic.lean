import Sitemap.Environment.Disk

/-!
# Environments

An environment owns the committed row tables and hands out transactions. A transaction
works on a copy; its changes become visible all together when it commits, or not at all.

## Main definitions

- `Environment` — the committed tables and how they are kept
- `Environment.openWith` — an environment on a storage
- `Environment.beginRead`, `Environment.beginWrite` — begin a transaction
- `Environment.commit` — check, store and publish the tables of a transaction
- `Environment.write` — run statements in one transaction

## Design notes

Write transactions are numbered from 1 in the order of their commits, anew each time an
environment is opened. There is one writer at a time, so the number of a write
transaction is known when it begins.

Commits can be made to fail on request. The request is spent by the next transaction
that gets as far as being stored.
-/

namespace Sitemap

/-- How an environment keeps its tables between runs. -/
inductive Storage where
  /-- Not at all. -/
  | memory
  /-- In a directory. -/
  | disk (disk : Disk)
  deriving DecidableEq

/-- A transaction on the row tables. -/
structure Transaction where
  /-- Its number: of the last commit for a reader, of its own commit for a writer. -/
  number : Nat
  /-- The tables that it sees. -/
  tables : Tables

/-- The committed row tables and how they are kept. -/
structure Environment where
  /-- The committed tables. -/
  committed : Tables
  /-- The number of the last commit; 0 before the first one. -/
  lastTransaction : Nat
  /-- The frame in which a widget is parked while two frames are exchanged. -/
  parkingFrame : Int
  /-- Whether the next commit must fail. -/
  failNext : Bool
  /-- Where the tables are kept. -/
  storage : Storage
  deriving DecidableEq

namespace Environment

/-- The frame in which widgets are parked unless another one is chosen. -/
def defaultParkingFrame : Int := -9999

/-- The environment with the given tables, before its first commit. The parking frame
    must lie outside every page model. -/
def build (parkingFrame : Int) (storage : Storage) (tables : Tables) :
    Except Error Environment :=
  if 0 ≤ parkingFrame then .error (.misuse .parkingFrameNotNegative)
  else
    .ok
      { committed := tables
        lastTransaction := 0
        parkingFrame
        failNext := false
        storage }

/-- Open an environment on a storage, with the tables kept there. The storage is
    returned as well, since opening makes a missing directory even when it fails later. -/
def openWith (parkingFrame : Int) : Storage → Except Error Environment × Storage
  | .memory => (build parkingFrame .memory .empty, .memory)
  | .disk disk =>
    match disk.prepare with
    | .error e => (.error (.store e), .disk disk)
    | .ok disk =>
      match disk.load with
      | .error e => (.error (.store e), .disk disk)
      | .ok tables => (build parkingFrame (.disk disk) tables, .disk disk)

/-- Make the next commit fail. -/
def failNextCommit (env : Environment) : Environment :=
  { env with failNext := true }

/-- Begin a transaction that only reads. -/
def beginRead (env : Environment) : Transaction :=
  ⟨env.lastTransaction, env.committed⟩

/-- Begin a transaction that writes. -/
def beginWrite (env : Environment) : Transaction :=
  ⟨env.lastTransaction + 1, env.committed⟩

/-- Store tables where the environment keeps them. -/
def persist (env : Environment) (tables : Tables) : Except StoreError Unit × Environment :=
  if env.failNext then (.error .requestedFailure, { env with failNext := false })
  else
    match env.storage with
    | .memory => (.ok (), env)
    | .disk disk =>
      let (outcome, disk) := disk.save tables
      (outcome, { env with storage := .disk disk })

/-- Check, store and publish the tables of a write transaction. On an error nothing is
    published. -/
def commit (env : Environment) (txn : Transaction) : Except StoreError Nat × Environment :=
  match txn.tables.checkReferences with
  | .error e => (.error e, env)
  | .ok () =>
    match env.persist txn.tables with
    | (.error e, env) => (.error e, env)
    | (.ok (), env) =>
      (.ok txn.number, { env with committed := txn.tables, lastTransaction := txn.number })

/-- Run statements in one write transaction and commit it; a refused statement discards
    the transaction. -/
def write {α : Type} (env : Environment) (statements : Tables → Except Error (α × Tables)) :
    Except Error α × Environment :=
  let txn := env.beginWrite
  match statements txn.tables with
  | .error e => (.error e, env)
  | .ok (a, tables) =>
    match env.commit { txn with tables } with
    | (.error e, env) => (.error (.store e), env)
    | (.ok _, env) => (.ok a, env)

end Environment

end Sitemap
