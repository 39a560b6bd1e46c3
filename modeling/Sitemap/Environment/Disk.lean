import Sitemap.Snapshot.File

/-!
# The directory of an environment

An environment can keep its tables in a directory of its own: the snapshot file, and a
scratch file that a new snapshot is written to before it takes the place of the old one.

## Main definitions

- `Disk` — what stands where the directory belongs
- `Disk.prepare` — make the directory if it is missing
- `Disk.load` — the tables of the snapshot file
- `Disk.save` — replace the snapshot file
- `Disk.overwrite`, `Disk.removeDirectory?`, `Disk.removeSnapshot?`,
  `Disk.obstructSnapshot?` — what others may do to the files in the meantime

## Design notes

A file can only be created in a directory that exists, and neither file can take the
place of a directory of the same name. When the last step of `save` fails the scratch
file stays behind, and the snapshot file is what it was.
-/

namespace Sitemap

/-- What stands under a file name. -/
inductive DiskEntry where
  /-- Nothing. -/
  | absent
  /-- A file. -/
  | file (content : Octets)
  /-- A directory. -/
  | directory
  deriving DecidableEq

/-- What stands where the directory of an environment belongs. -/
inductive Disk where
  /-- Nothing. -/
  | missing
  /-- A file, which bars the way. -/
  | barred
  /-- The directory with its snapshot file and its scratch file. -/
  | directory (snapshot scratch : DiskEntry)
  deriving DecidableEq

namespace Disk

/-- An empty directory. -/
def emptyDirectory : Disk := directory .absent .absent

/-- What stands under the name of the snapshot file. -/
def snapshot : Disk → DiskEntry
  | directory snapshot _ => snapshot
  | missing | barred => .absent

/-- What stands under the name of the scratch file. -/
def scratch : Disk → DiskEntry
  | directory _ scratch => scratch
  | missing | barred => .absent

/-- Make the directory if it is missing. -/
def prepare : Disk → Except StoreError Disk
  | missing => .ok emptyDirectory
  | barred => .error .fileSystem
  | directory snapshot scratch => .ok (directory snapshot scratch)

/-- The tables of the snapshot file; without one the tables are empty. -/
def load (d : Disk) : Except StoreError Tables :=
  match d.snapshot with
  | .absent => .ok .empty
  | .file content => SnapshotFile.read content
  | .directory => .error .fileSystem

/-- Write tables to the scratch file and let it take the place of the snapshot file. -/
def save (t : Tables) : Disk → Except StoreError Unit × Disk
  | missing => (.error .fileSystem, missing)
  | barred => (.error .fileSystem, barred)
  | directory snapshot .directory => (.error .fileSystem, directory snapshot .directory)
  | directory .directory _ =>
    (.error .fileSystem, directory .directory (.file (SnapshotFile.write t)))
  | directory _ _ => (.ok (), directory (.file (SnapshotFile.write t)) .absent)

/-- Put a file in the place of the snapshot file, where that is possible. A missing
    directory is made. -/
def overwrite (content : Octets) : Disk → Disk
  | directory .directory scratch => directory .directory scratch
  | directory _ scratch => directory (.file content) scratch
  | missing => directory (.file content) .absent
  | barred => barred

/-- Remove the directory with all it holds, if there is one. -/
def removeDirectory? : Disk → Option Disk
  | directory _ _ => some missing
  | missing | barred => none

/-- Remove the snapshot file, if there is one. -/
def removeSnapshot? : Disk → Option Disk
  | directory (.file _) scratch => some (directory .absent scratch)
  | directory .absent _ | directory .directory _ | missing | barred => none

/-- Put a directory in the place of the snapshot file, where no file stands. A missing
    directory around it is made. -/
def obstructSnapshot? : Disk → Option Disk
  | directory .absent scratch | directory .directory scratch =>
    some (directory .directory scratch)
  | missing => some (directory .directory .absent)
  | directory (.file _) _ | barred => none

end Disk

end Sitemap
