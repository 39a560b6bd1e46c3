import Sitemap.Environment.Basic
import Sitemap.Rows.Statement

/-!
# Transactions by hand

An environment whose tables are written statement by statement. Each write transaction
runs some statements, whatever they answer, and is then committed or given up. In between,
commits are made to fail and the directory is tampered with.

## Main definitions

- `Environment.commitAll` — run statements in one write transaction and commit it
- `Environment.Step` — a transaction, or something that makes a later one fail
- `Environment.step`, `Environment.run` — the environment after one step, after some
- `Environment.numbers` — the numbers of the commits of a run that succeeded

## Design notes

There is one writer at a time, so a write transaction ends before the next one begins. A
transaction works on a copy of the tables, and giving it up is to forget the copy.
-/

namespace Sitemap

namespace Environment

/-- Run statements in one write transaction and commit it, even where a statement was
    refused. -/
def commitAll (env : Environment) (statements : List Statement) :
    Except StoreError Nat × Environment :=
  let txn := env.beginWrite
  env.commit { txn with tables := Statement.runAll statements txn.tables }

/-- Put something else in the place of the directory, where there is one. -/
def replaceDisk (env : Environment) (disk : Disk) : Environment :=
  match env.storage with
  | .memory => env
  | .disk _ => { env with storage := .disk disk }

/-- What can happen to an environment whose tables are written by hand. -/
inductive Step where
  /-- A write transaction runs statements and is committed. -/
  | commit (statements : List Statement)
  /-- A write transaction runs statements and is given up. -/
  | abort (statements : List Statement)
  /-- The next commit is made to fail. -/
  | failNextCommit
  /-- Others change what stands where the directory belongs. -/
  | replaceDisk (disk : Disk)

/-- The environment after a step. -/
def step (env : Environment) : Step → Environment
  | .commit statements => (env.commitAll statements).2
  | .abort _ => env
  | .failNextCommit => env.failNextCommit
  | .replaceDisk disk => env.replaceDisk disk

/-- The environment after some steps. -/
def run (env : Environment) (steps : List Step) : Environment :=
  steps.foldl step env

/-- The number that a step was committed under, if it was. -/
def number? (env : Environment) : Step → Option Nat
  | .commit statements => (env.commitAll statements).1.toOption
  | .abort _ | .failNextCommit | .replaceDisk _ => none

/-- The numbers of the commits that succeeded, oldest first. -/
def numbers (env : Environment) : List Step → List Nat
  | [] => []
  | step :: steps => (env.number? step).toList ++ (env.step step).numbers steps

end Environment

end Sitemap
