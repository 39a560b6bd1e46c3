import Sitemap.Snapshot.Decoding

/-!
# Snapshot files

The file that keeps the row tables between runs: a line with the name of the format and
the checksum of the rest, then the tables as compact JSON.

## Main definitions

- `SnapshotFile.write` — the octets that store tables
- `SnapshotFile.read` — the tables that octets store

## Design notes

The first line is judged before the body is looked at: first the name, then the form of
the checksum, then its value. Parts of the line after the checksum are passed over, and
so are the case and the leading zeros of its digits.
-/

namespace Sitemap

namespace SnapshotFile

/-- The name of the format, at the start of the file. -/
def magic : List Char := "PAGETREE1".toList

/-- The octet that ends the first line. -/
def lineFeed : UInt8 := 10

/-- The first line for a body with the given checksum, without its end. -/
def header (checksum : UInt32) : List Char :=
  magic ++ ' ' :: Checksum.hexadecimal checksum

/-- The tables as the body of the file. -/
def body (t : Tables) : Octets :=
  (Encoding.tables t).render

/-- The octets that store tables. -/
def write (t : Tables) : Octets :=
  let body := body t
  Written.asciiOctets (header (Checksum.crc32 body)) ++ lineFeed :: body

/-- The value of a hexadecimal digit, of either case. -/
def hexValue? (c : Char) : Option Nat :=
  Quoted.hexDigit? (Quoted.ascii c) |>.filter fun _ => c.toNat < 128

/-- The number that hexadecimal digits denote. -/
def hexNumber? (digits : List Char) : Option Nat :=
  if digits = [] then none
  else digits.foldlM (fun n c => (hexValue? c).map (16 * n + ·)) 0

/-- The octets that pairs of hexadecimal digits denote. -/
def octetsOfHex? : List Char → Option Octets
  | [] => some []
  | [_] => none
  | a :: b :: rest => do
    let n ← hexNumber? [a, b]
    return .ofNat n :: (← octetsOfHex? rest)

/-- The checksum that a part of the first line shows: hexadecimal digits, perhaps after
    a plus sign, of a number of 32 bits. -/
def checksum? (part : List Char) : Option UInt32 := do
  let digits :=
    match part with
    | '+' :: digits => digits
    | digits => digits
  let n ← hexNumber? digits
  if n < 4294967296 then some (UInt32.ofNat n) else none

/-- The second part of a line, between its first space and the next one. -/
def secondPart? (line : List Char) : Option (List Char) :=
  match line.dropWhile (· ≠ ' ') with
  | [] => none
  | _ :: rest => some (rest.takeWhile (· ≠ ' '))

/-- The tables that octets store. -/
def read (file : Octets) : Except StoreError Tables :=
  match file.dropWhile (· ≠ lineFeed) with
  | [] => .error (.corrupted .missingHeader)
  | _ :: body =>
    match Octets.text? (file.takeWhile (· ≠ lineFeed)) with
    | none => .error (.corrupted .undecodableHeader)
    | some line =>
      if line.toList.takeWhile (· ≠ ' ') ≠ magic then
        .error (.corrupted (.unexpectedHeader line))
      else
        match (secondPart? line.toList).bind checksum? with
        | none => .error (.corrupted .missingChecksum)
        | some expected =>
          let found := Checksum.crc32 body
          if found ≠ expected then .error (.corrupted (.checksumMismatch expected found))
          else
            match Decoding.ofText? Decoding.tables body with
            | some t => .ok t
            | none => .error .malformedBody

end SnapshotFile

end Sitemap
