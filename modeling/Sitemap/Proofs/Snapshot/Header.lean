import Sitemap.Snapshot.File
import Sitemap.Proofs.Json.Quoting
import Mathlib.Data.List.TakeWhile
import Mathlib.Data.Bool.AllAny

/-!
# The first line of a snapshot file

Reading a snapshot file judges its first line before it looks at the rest. The judgement is
that the line vouches for the checksum of the rest; everything that is known about lines,
written or damaged, is said in these terms.

## Main definitions

- `SnapshotFile.Vouches` — a line begins with the name of the format and shows a checksum

## Main results

- `SnapshotFile.vouches_header` — a written line vouches for the checksum it was written for
- `SnapshotFile.read_of_vouches`, `SnapshotFile.read_of_not_vouches`,
  `SnapshotFile.read_of_unended` — reading a file, by what its first line is
- `SnapshotFile.Vouches.isPrefix` — how a line that vouches begins
-/

namespace Sitemap

open Written (asciiOctets)
open Quoted (ascii)

variable {cs : List Char} {n : Nat}

-- ════════════════════════════════════════════════════════════════════════
-- ASCII text
-- ════════════════════════════════════════════════════════════════════════

namespace Octets

theorem ofString_append (first second : List Char) :
    ofString (String.ofList (first ++ second)) =
      ofString (String.ofList first) ++ ofString (String.ofList second) := by
  unfold ofString
  rw [String.ofList_append]
  simp [String.toUTF8]

theorem ofString_singleton {c : Char} (h : c.toNat < 128) :
    ofString (String.ofList [c]) = [ascii c] := by
  have hsize : c.utf8Size = 1 := by
    have hlow : c.val ≤ 127 := UInt32.le_iff_toNat_le.2 (Nat.le_of_lt_succ h)
    simp [Char.utf8Size, hlow]
  show (List.utf8Encode [c]).data.toList = _
  rw [List.utf8Encode_singleton, String.utf8EncodeChar_eq_singleton hsize]
  rfl

/-- The octets of an ASCII text are those of its characters. -/
theorem ofString_ofList (h : ∀ c ∈ cs, c.toNat < 128) :
    ofString (String.ofList cs) = asciiOctets cs := by
  induction cs with
  | nil => rfl
  | cons c rest ih =>
    show ofString (String.ofList ([c] ++ rest)) = ascii c :: asciiOctets rest
    rw [ofString_append, ofString_singleton (h c List.mem_cons_self),
      ih fun d hd => h d (List.mem_cons_of_mem _ hd)]
    rfl

end Octets

namespace SnapshotFile

-- ════════════════════════════════════════════════════════════════════════
-- Checksums
-- ════════════════════════════════════════════════════════════════════════

/-- The hexadecimal digits that checksums are written with. -/
def hexChars : List Char :=
  ['0', '1', '2', '3', '4', '5', '6', '7', '8', '9', 'a', 'b', 'c', 'd', 'e', 'f']

theorem digitChar_spec (h : n < 16) :
    hexValue? (Nat.digitChar n) = some n ∧ Nat.digitChar n ∈ hexChars := by
  revert n
  decide

/-- The digits of a number denote it, and are digits. -/
theorem foldlM_toDigits (n : Nat) :
    (Nat.toDigits 16 n).foldlM (fun n c => (hexValue? c).map (16 * n + ·)) 0 = some n ∧
      ∀ c ∈ Nat.toDigits 16 n, c ∈ hexChars := by
  induction n using Nat.strongRecOn with
  | ind n ih =>
    by_cases hn : n < 16
    · obtain ⟨hvalue, hmem⟩ := digitChar_spec hn
      rw [Nat.toDigits_of_lt_base hn]
      refine ⟨?_, fun c hc => List.mem_singleton.1 hc ▸ hmem⟩
      simp [List.foldlM_cons, hvalue]
    · obtain ⟨hvalue, hmem⟩ := digitChar_spec (Nat.mod_lt n (by decide : 0 < 16))
      obtain ⟨hrest, hchars⟩ := ih (n / 16) (by omega)
      rw [Nat.toDigits_of_base_le (by decide) (by omega)]
      constructor
      · rw [List.foldlM_append, hrest]
        simp only [List.foldlM_cons, List.foldlM_nil, hvalue, Option.map_some,
          Option.bind_eq_bind, Option.bind_some, Option.pure_def, Option.some.injEq]
        omega
      · intro c hc
        rcases List.mem_append.1 hc with hc | hc
        · exact hchars c hc
        · exact List.mem_singleton.1 hc ▸ hmem

theorem mem_hexChars_of_mem_hexadecimal {checksum : UInt32} {c : Char}
    (h : c ∈ Checksum.hexadecimal checksum) : c ∈ hexChars := by
  rcases List.mem_append.1 h with h | h
  · obtain rfl := (List.mem_replicate.1 h).2
    decide
  · exact (foldlM_toDigits checksum.toNat).2 c h

theorem length_hexadecimal (checksum : UInt32) : (Checksum.hexadecimal checksum).length = 8 := by
  have hbound : checksum.toNat < 16 ^ 8 := checksum.toNat_lt
  have hdigits := (Nat.length_toDigits_le_iff (by decide : 1 < 16) (by decide : 0 < 8)).2 hbound
  show (List.replicate _ '0' ++ Nat.toDigits 16 checksum.toNat).length = 8
  rw [List.length_append, List.length_replicate]
  omega

theorem hexNumber?_hexadecimal (checksum : UInt32) :
    hexNumber? (Checksum.hexadecimal checksum) = some checksum.toNat := by
  have hzeros : ∀ k, (List.replicate k '0').foldlM
      (fun n c => (hexValue? c).map (16 * n + ·)) 0 = some 0 := by
    intro k
    induction k with
    | zero => rfl
    | succ k ih => exact ih
  have hne : Checksum.hexadecimal checksum ≠ [] := by
    intro hnil
    have hlength := length_hexadecimal checksum
    rw [hnil] at hlength
    cases hlength
  rw [hexNumber?, if_neg hne]
  show List.foldlM _ 0 (List.replicate _ '0' ++ Nat.toDigits 16 checksum.toNat) = _
  rw [List.foldlM_append, hzeros]
  exact (foldlM_toDigits checksum.toNat).1

theorem checksum?_hexadecimal (checksum : UInt32) :
    checksum? (Checksum.hexadecimal checksum) = some checksum := by
  have hplain : ∀ digits, Checksum.hexadecimal checksum ≠ '+' :: digits := by
    intro digits hplus
    have hmem : '+' ∈ Checksum.hexadecimal checksum := hplus ▸ List.mem_cons_self
    have hhex : '+' ∈ hexChars := mem_hexChars_of_mem_hexadecimal hmem
    revert hhex
    decide
  unfold checksum?
  split
  · next hplus => exact absurd hplus (hplain _)
  · dsimp only
    rw [hexNumber?_hexadecimal, Option.bind_eq_bind, Option.bind_some, if_pos checksum.toNat_lt,
      UInt32.ofNat_toNat]

-- ════════════════════════════════════════════════════════════════════════
-- Lines that vouch for a checksum
-- ════════════════════════════════════════════════════════════════════════

/-- A line begins with the name of the format and shows a checksum. -/
def Vouches (line : Octets) (checksum : UInt32) : Prop :=
  ∃ text, Octets.text? line = some text ∧ text.toList.takeWhile (· ≠ ' ') = magic ∧
    (secondPart? text.toList).bind checksum? = some checksum

variable {line body file : Octets} {checksum other : UInt32}

/-- A line vouches for one checksum at most. -/
theorem Vouches.unique (h : Vouches line checksum) (h' : Vouches line other) :
    checksum = other := by
  obtain ⟨text, htext, -, hchecksum⟩ := h
  obtain ⟨text', htext', -, hother⟩ := h'
  obtain rfl := Option.some.inj (htext.symm.trans htext')
  exact Option.some.inj (hchecksum.symm.trans hother)

/-- The octets that a line begins with when it vouches for a checksum. -/
def preamble : Octets :=
  asciiOctets (magic ++ [' '])

/-- A line that vouches for a checksum begins with the name of the format and a space. -/
theorem Vouches.isPrefix (h : Vouches line checksum) : preamble <+: line := by
  obtain ⟨text, htext, hmagic, hchecksum⟩ := h
  obtain ⟨part, hpart, -⟩ := Option.bind_eq_some_iff.1 hchecksum
  have hspace : ∃ rest, text.toList.dropWhile (· ≠ ' ') = ' ' :: rest := by
    unfold secondPart? at hpart
    split at hpart
    · cases hpart
    · next c rest hrest =>
      have hc : ¬ (decide (c ≠ ' ')) = true := by
        have hhead := List.head?_dropWhile_not (fun c => decide (c ≠ ' ')) text.toList
        rw [hrest] at hhead
        simpa using hhead
      obtain rfl : c = ' ' := by simpa using hc
      exact ⟨rest, hrest⟩
  obtain ⟨rest, hrest⟩ := hspace
  have hchars : text.toList = magic ++ [' '] ++ rest := by
    rw [← List.takeWhile_append_dropWhile (p := fun c => decide (c ≠ ' ')) (l := text.toList),
      hmagic, hrest, List.append_assoc]
    rfl
  have hoctets : line = Octets.ofString (String.ofList (magic ++ [' '] ++ rest)) := by
    rw [Octets.eq_ofString_of_text? htext, ← hchars, String.ofList_toList]
  rw [hoctets, Octets.ofString_append, Octets.ofString_ofList (List.all_iff_forall_prop.1 (by decide))]
  exact List.prefix_append _ _

/-- A written line vouches for the checksum that it was written for. -/
theorem vouches_header (checksum : UInt32) : Vouches (asciiOctets (header checksum)) checksum := by
  have hascii : ∀ c ∈ header checksum, c.toNat < 128 := by
    have hhex : ∀ c ∈ hexChars, c.toNat < 128 := List.all_iff_forall_prop.1 (by decide)
    have hmagic : ∀ c ∈ magic ++ [' '], c.toNat < 128 :=
      List.all_iff_forall_prop.1 (by decide)
    intro c hc
    have hc : c ∈ magic ++ [' '] ++ Checksum.hexadecimal checksum := by
      rw [List.append_assoc]
      exact hc
    rcases List.mem_append.1 hc with hc | hc
    · exact hmagic c hc
    · exact hhex c (mem_hexChars_of_mem_hexadecimal hc)
  have hnospace : ∀ c ∈ Checksum.hexadecimal checksum, decide (c ≠ ' ') = true := by
    have hhex : ∀ c ∈ hexChars, decide (c ≠ ' ') = true :=
      List.all_eq_true.1 (by decide)
    exact fun c hc => hhex c (mem_hexChars_of_mem_hexadecimal hc)
  have hmagic : ∀ c ∈ magic, decide (c ≠ ' ') = true := List.all_eq_true.1 (by decide)
  refine ⟨String.ofList (header checksum), ?_, ?_, ?_⟩
  · rw [← Octets.ofString_ofList hascii, Octets.text?_ofString]
  · rw [String.toList_ofList, header, List.takeWhile_append_of_pos hmagic]
    simp
  · rw [String.toList_ofList, header, secondPart?, List.dropWhile_append_of_pos hmagic]
    show (some ((Checksum.hexadecimal checksum).takeWhile (· ≠ ' '))).bind checksum? = _
    rw [Option.bind_some, List.takeWhile_eq_self_iff.2 hnospace, checksum?_hexadecimal]

-- ════════════════════════════════════════════════════════════════════════
-- Reading, by the first line
-- ════════════════════════════════════════════════════════════════════════

/-- A line ends at the first line feed. -/
theorem split_lineFeed (h : lineFeed ∉ line) (body : Octets) :
    (line ++ lineFeed :: body).takeWhile (· ≠ lineFeed) = line ∧
      (line ++ lineFeed :: body).dropWhile (· ≠ lineFeed) = lineFeed :: body := by
  have hline : ∀ b ∈ line, decide (b ≠ lineFeed) = true :=
    fun b hb => decide_eq_true fun heq => h (heq ▸ hb)
  rw [List.takeWhile_append_of_pos hline, List.dropWhile_append_of_pos hline]
  simp

/-- A file whose first line does not end is refused. -/
theorem read_of_unended (h : lineFeed ∉ file) : read file = .error (.corrupted .missingHeader) := by
  have hall : ∀ b ∈ file, decide (b ≠ lineFeed) = true :=
    fun b hb => decide_eq_true fun heq => h (heq ▸ hb)
  have hnil : file.dropWhile (· ≠ lineFeed) = [] := List.dropWhile_eq_nil_iff.2 hall
  unfold read
  rw [hnil]

/-- When the first line vouches for the rest, the rest decides. -/
theorem read_of_vouches (hline : lineFeed ∉ line) (h : Vouches line (Checksum.crc32 body)) :
    read (line ++ lineFeed :: body) =
      match Decoding.ofText? Decoding.tables body with
      | some t => .ok t
      | none => .error .malformedBody := by
  obtain ⟨text, htext, hmagic, hchecksum⟩ := h
  obtain ⟨htake, hdrop⟩ := split_lineFeed hline body
  unfold read
  rw [htake, hdrop]
  dsimp only
  rw [htext]
  dsimp only
  rw [if_neg (not_not.2 hmagic), hchecksum]
  exact if_neg (not_not.2 rfl)

/-- When the first line does not vouch for the rest, the file is corrupted. -/
theorem read_of_not_vouches (hline : lineFeed ∉ line)
    (h : ¬ Vouches line (Checksum.crc32 body)) :
    ∃ fault, read (line ++ lineFeed :: body) = .error (.corrupted fault) := by
  obtain ⟨htake, hdrop⟩ := split_lineFeed hline body
  unfold read
  rw [htake, hdrop]
  dsimp only
  split
  · exact ⟨_, rfl⟩
  · next text htext =>
    split
    · exact ⟨_, rfl⟩
    · next hmagic =>
      split
      · exact ⟨_, rfl⟩
      · next expected hexpected =>
        split
        · exact ⟨_, rfl⟩
        · next hfound =>
          have hfound := not_not.1 hfound
          exact absurd ⟨text, htext, not_not.1 hmagic, hfound ▸ hexpected⟩ h

end SnapshotFile

end Sitemap
