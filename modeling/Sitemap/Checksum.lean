import Sitemap.Text.Octets

/-!
# Checksums

The cyclic redundancy check of 32 bits that guards the snapshot file, with the
reflected polynomial of the IEEE standard.

## Main definitions

- `Checksum.shift` — one bit of polynomial division
- `Checksum.absorb` — one octet of polynomial division
- `Checksum.crc32` — the checksum of a sequence of octets
- `Checksum.hexadecimal` — eight hexadecimal digits, as the file shows a checksum
-/

namespace Sitemap

namespace Checksum

/-- The polynomial of the check, lowest power in the highest bit. -/
def polynomial : UInt32 := 0xEDB88320

/-- Divide one bit out of the remainder. -/
def shift (remainder : UInt32) : UInt32 :=
  if remainder &&& 1 = 1 then (remainder >>> 1) ^^^ polynomial else remainder >>> 1

/-- Divide one octet out of the remainder. -/
def absorb (remainder : UInt32) (octet : UInt8) : UInt32 :=
  let r := remainder ^^^ octet.toUInt32
  shift (shift (shift (shift (shift (shift (shift (shift r)))))))

/-- The checksum of a sequence of octets. -/
def crc32 (octets : Octets) : UInt32 :=
  octets.foldl absorb 0xFFFFFFFF ^^^ 0xFFFFFFFF

/-- A checksum as eight hexadecimal digits in lower case. -/
def hexadecimal (checksum : UInt32) : List Char :=
  let digits := Nat.toDigits 16 checksum.toNat
  List.replicate (8 - digits.length) '0' ++ digits

end Checksum

end Sitemap
