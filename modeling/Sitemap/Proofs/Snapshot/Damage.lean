import Sitemap.Proofs.Checksum
import Sitemap.Proofs.Snapshot.RoundTrip

/-!
# Damaged snapshot files

What reading makes of a file that was written and then cut short, or in which one octet was
replaced. The first line is the weak part, since its checksum does not guard the line
itself: its digits may be in either case, fewer, or followed by more. So there the argument
goes by what the line vouches for, and by what can be text when the line ends too early.

## Main results

- `SnapshotFile.torn_file_refused` — no proper beginning of a written file is accepted
- `SnapshotFile.damaged_file_read` — with one octet replaced, a written file is refused or read
  as before, and it is refused when the octet is behind the first line
-/

namespace Sitemap

namespace SnapshotFile

open Quoted (ascii)
open Written (asciiOctets)

variable {t : Tables} {file line rest : Octets} {b old : UInt8} {i : Nat}

-- ════════════════════════════════════════════════════════════════════════
-- Parts of a written file
-- ════════════════════════════════════════════════════════════════════════

/-- The checksum of a body as the first line shows it. -/
def checksumDigits (t : Tables) : Octets :=
  asciiOctets (Checksum.hexadecimal (Checksum.crc32 (body t)))

/-- A written file: the name of the format and a space, eight digits, a line feed and the
    body. -/
theorem write_eq (t : Tables) :
    write t = preamble ++ (checksumDigits t ++ lineFeed :: body t) := by
  simp [write, header, preamble, checksumDigits, asciiOctets]

theorem length_checksumDigits (t : Tables) : (checksumDigits t).length = 8 := by
  rw [checksumDigits, asciiOctets, List.length_map, length_hexadecimal]

/-- The first line and its line feed take nineteen octets. -/
theorem length_write (t : Tables) : (write t).length = 19 + (body t).length := by
  have hpreamble : preamble.length = 10 := rfl
  rw [write_eq, List.length_append, List.length_append, length_checksumDigits, List.length_cons]
  omega

theorem getElem?_write (t : Tables) (i : Nat) : (write t)[19 + i]? = (body t)[i]? := by
  have hfirst : (preamble ++ checksumDigits t ++ [lineFeed]).length = 19 := by
    rw [List.length_append, List.length_append, length_checksumDigits]
    rfl
  have hwrite : write t = (preamble ++ checksumDigits t ++ [lineFeed]) ++ body t := by
    simp [write_eq]
  rw [hwrite, ← hfirst, List.getElem?_append_right (Nat.le_add_right _ _), Nat.add_sub_cancel_left]

/-- A digit of the checksum belongs to a bare word, and does not end a line. -/
theorem of_mem_checksumDigits (h : b ∈ checksumDigits t) :
    Reader.endsWord b = false ∧ b ≠ lineFeed := by
  obtain ⟨c, hc, rfl⟩ := List.mem_map.1 h
  have hhex : ∀ c ∈ hexChars, Reader.endsWord (ascii c) = false ∧ ascii c ≠ lineFeed :=
    List.all_iff_forall_prop.1 (by decide)
  exact hhex c (mem_hexChars_of_mem_hexadecimal hc)

theorem lineFeed_not_mem_preamble : lineFeed ∉ preamble := by decide

theorem lineFeed_not_mem_checksumDigits (t : Tables) : lineFeed ∉ checksumDigits t :=
  fun h => (of_mem_checksumDigits h).2 rfl

theorem lineFeed_not_mem_firstLine (t : Tables) : lineFeed ∉ preamble ++ checksumDigits t := by
  intro hmem
  rcases List.mem_append.1 hmem with hmem | hmem
  · exact lineFeed_not_mem_preamble hmem
  · exact lineFeed_not_mem_checksumDigits t hmem

/-- The body is one line. -/
theorem lineFeed_not_mem_body (t : Tables) : lineFeed ∉ body t := by
  intro h
  have hprinted := Written.le_of_mem_render _ (Encoding.isSpelled_tables t) h
  revert hprinted
  decide

theorem exists_body_eq (t : Tables) : ∃ inner, body t = inner ++ [ascii '\x7d'] :=
  ⟨_, rfl⟩

theorem isSome_read?_body (t : Tables) : (Written.read? (body t)).isSome := by
  rw [body, Written.read?_render (Encoding.isSpelled_tables t)]
  rfl

theorem vouches_body (t : Tables) :
    Vouches (preamble ++ checksumDigits t) (Checksum.crc32 (body t)) := by
  have hline : asciiOctets (header (Checksum.crc32 (body t))) = preamble ++ checksumDigits t := by
    simp [header, preamble, checksumDigits, asciiOctets]
  exact hline ▸ vouches_header _

-- ════════════════════════════════════════════════════════════════════════
-- Files that are cut short
-- ════════════════════════════════════════════════════════════════════════

/-- A proper beginning of a body is not a text. -/
theorem ofText?_eq_none_of_append (h : body t = file ++ rest) (hrest : rest ≠ []) :
    Decoding.ofText? Decoding.tables file = none := by
  obtain ⟨inner, hinner⟩ := exists_body_eq t
  obtain ⟨middle, last, rfl⟩ := (List.eq_nil_or_concat' rest).resolve_left hrest
  have hsplit : file ++ middle ++ [last] = inner ++ [ascii '\x7d'] := by
    rw [List.append_assoc, ← h, hinner]
  obtain ⟨-, hlast⟩ := List.append_inj' hsplit rfl
  cases hlast
  have hsome := isSome_read?_body t
  rw [h, ← List.append_assoc] at hsome
  rw [Decoding.ofText?, Written.read?_eq_none_of_append hsome, Option.bind_none]

/-- **Torn files.** A proper beginning of a written file is refused, as corrupted or for its
    body. -/
theorem torn_file_refused (hbegins : file <+: write t) (hne : file ≠ write t) :
    ∃ e, read file = .error e ∧ (e = .malformedBody ∨ ∃ fault, e = .corrupted fault) := by
  obtain ⟨rest, hrest⟩ := hbegins
  rw [write_eq, ← List.append_assoc] at hrest
  rcases List.append_eq_append_iff.1 hrest with ⟨left, hline, -⟩ | ⟨torn, rfl, htorn⟩
  · -- The cut is in the first line.
    refine ⟨_, read_of_unended fun hmem => ?_, .inr ⟨_, rfl⟩⟩
    exact lineFeed_not_mem_firstLine t (hline ▸ List.mem_append_left _ hmem)
  · cases torn with
    | nil =>
      -- The cut is behind the first line, before the line feed.
      rw [List.append_nil]
      exact ⟨_, read_of_unended (lineFeed_not_mem_firstLine t), .inr ⟨_, rfl⟩⟩
    | cons feed torn =>
      -- The cut is in the body, which cannot be read without its closing brace.
      obtain ⟨rfl, hbody⟩ : lineFeed = feed ∧ body t = torn ++ rest := List.cons.inj htorn
      have hleft : rest ≠ [] := by
        rintro rfl
        rw [List.append_nil] at hbody
        exact hne (by rw [write_eq, hbody, List.append_assoc])
      by_cases hvouches : Vouches (preamble ++ checksumDigits t) (Checksum.crc32 torn)
      · have hread := read_of_vouches (lineFeed_not_mem_firstLine t) hvouches
        rw [ofText?_eq_none_of_append hbody hleft] at hread
        exact ⟨_, hread, .inl rfl⟩
      · obtain ⟨fault, hread⟩ := read_of_not_vouches (lineFeed_not_mem_firstLine t) hvouches
        exact ⟨_, hread, .inr ⟨fault, rfl⟩⟩

/-- The written sample, cut in the middle of a nested value. -/
theorem torn_file_refused_sample :
    let file := (write sampleTables).take 300
    (file <+: write sampleTables ∧ file ≠ write sampleTables) ∧
      ∃ e, read file = .error e ∧ (e = .malformedBody ∨ ∃ fault, e = .corrupted fault) := by
  have hbegins := List.take_prefix 300 (write sampleTables)
  have hlong : 300 < 19 + (body sampleTables).length := by decide +kernel
  have hne : (write sampleTables).take 300 ≠ write sampleTables := by
    intro heq
    have hlength := congrArg List.length heq
    rw [List.length_take, length_write] at hlength
    omega
  exact ⟨⟨hbegins, hne⟩, torn_file_refused hbegins hne⟩

-- ════════════════════════════════════════════════════════════════════════
-- Files with one octet replaced
-- ════════════════════════════════════════════════════════════════════════

/-- A file that does not begin as written files do is corrupted. -/
theorem read_of_not_preamble (h : ¬ preamble <+: file) :
    ∃ fault, read file = .error (.corrupted fault) := by
  by_cases hfeed : lineFeed ∈ file
  · obtain ⟨line, rest, rfl, hline⟩ := List.eq_append_cons_of_mem hfeed
    exact read_of_not_vouches hline fun hvouches =>
      h (hvouches.isPrefix.trans (List.prefix_append _ _))
  · exact ⟨_, read_of_unended hfeed⟩

/-- Damage to the name of the format or the space after it. -/
theorem read_of_damaged_preamble (hold : preamble[i]? = some old) (hb : b ≠ old)
    (rest : Octets) : ∃ fault, read (preamble.set i b ++ rest) = .error (.corrupted fault) := by
  refine read_of_not_preamble fun hbegins => hb ?_
  have hsame : preamble = preamble.set i b :=
    List.IsPrefix.eq_of_length (List.prefix_of_prefix_length_le hbegins
      (List.prefix_append _ _) (by simp)) (by simp)
  have hi : i < preamble.length := (List.getElem?_eq_some_iff.1 hold).1
  have hnew : (preamble.set i b)[i]? = some b := List.getElem?_set_self hi
  rw [← hsame, hold] at hnew
  exact (Option.some.inj hnew).symm

/-- Damage to the body: the checksum shows it. -/
theorem read_of_damaged_body (hold : (body t)[i]? = some old) (hb : b ≠ old) :
    ∃ fault, read (preamble ++ (checksumDigits t ++ lineFeed :: (body t).set i b)) =
      .error (.corrupted fault) := by
  obtain ⟨hi, rfl⟩ := List.getElem?_eq_some_iff.1 hold
  rw [← List.append_assoc]
  refine read_of_not_vouches (lineFeed_not_mem_firstLine t) fun hvouches => hb ?_
  have hcrc := hvouches.unique (vouches_body t)
  rw [List.set_eq_take_append_cons_drop, if_pos hi] at hcrc
  have hsplit : body t = (body t).take i ++ (body t)[i] :: (body t).drop (i + 1) := by
    rw [← List.drop_eq_getElem_cons hi, List.take_append_drop]
  exact Checksum.eq_of_crc32 (hcrc.trans (congrArg Checksum.crc32 hsplit))

/-- Damage to the line feed: the first line does not end. -/
theorem read_of_damaged_lineFeed (hb : b ≠ lineFeed) :
    ∃ fault, read (preamble ++ (checksumDigits t ++ b :: body t)) = .error (.corrupted fault) := by
  refine ⟨_, read_of_unended fun hmem => ?_⟩
  rw [← List.append_assoc] at hmem
  rcases List.mem_append.1 hmem with hmem | hmem
  · exact lineFeed_not_mem_firstLine t hmem
  · rcases List.mem_cons.1 hmem with heq | hmem
    · exact hb heq.symm
    · exact lineFeed_not_mem_body t hmem

/-- What reading makes of a body that follows a digit or nothing, and a line feed. -/
theorem ofText?_of_late_body {digits : Octets}
    (hdigits : ∀ b ∈ digits, Reader.endsWord b = false) :
    Decoding.ofText? Decoding.tables (digits ++ lineFeed :: body t) = none ∨
      Decoding.ofText? Decoding.tables (digits ++ lineFeed :: body t) =
        Decoding.ofText? Decoding.tables (body t) := by
  cases digits with
  | nil =>
    -- An end of line before the body is passed over.
    exact .inr (congrArg (Option.bind · _) (Written.read?_lineFeed (body t)))
  | cons digit digits =>
    -- A text that begins with a digit does not end in a brace.
    left
    obtain ⟨inner, hinner⟩ := exists_body_eq t
    have hnone := Written.read?_eq_none_of_word (hdigits digit List.mem_cons_self)
      (digits ++ lineFeed :: inner)
    rw [List.append_assoc, List.cons_append, ← hinner] at hnone
    rw [Decoding.ofText?, List.cons_append, hnone, Option.bind_none]

/-- When a line that ends early or late vouches for what follows, that is refused or read as
    the body is. -/
theorem read_of_line (hread : read (write t) = .ok t) (hline : lineFeed ∉ line)
    (hrest : Decoding.ofText? Decoding.tables rest = none ∨
      Decoding.ofText? Decoding.tables rest = Decoding.ofText? Decoding.tables (body t)) :
    (∃ e, read (line ++ lineFeed :: rest) = .error e) ∨
      read (line ++ lineFeed :: rest) = .ok t := by
  by_cases hvouches : Vouches line (Checksum.crc32 rest)
  · rw [read_of_vouches hline hvouches]
    rcases hrest with hnone | hsame
    · rw [hnone]
      exact .inl ⟨_, rfl⟩
    · rw [hsame, ofText?_body, read_write_eq_ok_iff.1 hread]
      exact .inr rfl
  · obtain ⟨fault, hfault⟩ := read_of_not_vouches hline hvouches
    exact .inl ⟨_, hfault⟩

/-- Damage to the checksum. A digit may become a line feed, so that the line ends early and
    the body begins with the digits that follow. -/
theorem read_of_damaged_checksum (hread : read (write t) = .ok t)
    (hi : i < (checksumDigits t).length) (b : UInt8) :
    (∃ e, read (preamble ++ ((checksumDigits t).set i b ++ lineFeed :: body t)) = .error e) ∨
      read (preamble ++ ((checksumDigits t).set i b ++ lineFeed :: body t)) = .ok t := by
  by_cases hb : b = lineFeed
  · subst hb
    rw [List.set_eq_take_append_cons_drop, if_pos hi, List.append_assoc, List.cons_append,
      ← List.append_assoc]
    refine read_of_line hread (fun hmem => ?_) (ofText?_of_late_body fun b hb => ?_)
    · exact lineFeed_not_mem_firstLine t
        (List.IsPrefix.subset ((List.prefix_append_right_inj _).2 (List.take_prefix _ _)) hmem)
    · exact (of_mem_checksumDigits (List.mem_of_mem_drop hb)).1
  · rw [← List.append_assoc]
    refine read_of_line hread (fun hmem => ?_) (.inr rfl)
    rcases List.mem_append.1 hmem with hmem | hmem
    · exact lineFeed_not_mem_preamble hmem
    · rcases List.mem_or_eq_of_mem_set hmem with hmem | heq
      · exact lineFeed_not_mem_checksumDigits t hmem
      · exact hb heq.symm

/-- **Damaged files.** When one octet of a written file is replaced by another one, reading
    refuses the file or finds the tables that were written. When the octet is in the body, the
    file is refused as corrupted. -/
theorem damaged_file_read (hread : read (write t) = .ok t)
    (hold : (write t)[i]? = some old) (hb : b ≠ old) :
    ((∃ e, read ((write t).set i b) = .error e) ∨ read ((write t).set i b) = .ok t) ∧
      ((write t).length - (body t).length ≤ i →
        ∃ fault, read ((write t).set i b) = .error (.corrupted fault)) := by
  have hpreamble : preamble.length = 10 := rfl
  have hdigits := length_checksumDigits t
  rw [length_write, Nat.add_sub_cancel]
  rw [write_eq] at hold ⊢
  rw [List.getElem?_append] at hold
  rw [List.set_append]
  split at hold
  · -- the name of the format, or the space
    next hi =>
    rw [if_pos hi]
    obtain ⟨fault, hfault⟩ := read_of_damaged_preamble hold hb
      (checksumDigits t ++ lineFeed :: body t)
    exact ⟨.inl ⟨_, hfault⟩, fun _ => ⟨fault, hfault⟩⟩
  · next hi =>
    rw [if_neg hi]
    rw [List.getElem?_append] at hold
    rw [List.set_append]
    split at hold
    · -- the checksum
      next hj =>
      rw [if_pos hj]
      exact ⟨read_of_damaged_checksum hread hj b, fun hbody => by omega⟩
    · next hj =>
      rw [if_neg hj]
      cases hk : i - preamble.length - (checksumDigits t).length with
      | zero =>
        -- the line feed
        rw [hk] at hold
        obtain rfl : lineFeed = old := Option.some.inj hold
        obtain ⟨fault, hfault⟩ := read_of_damaged_lineFeed (t := t) hb
        exact ⟨.inl ⟨_, hfault⟩, fun hbody => by omega⟩
      | succ k =>
        -- the body
        rw [hk, List.getElem?_cons_succ] at hold
        obtain ⟨fault, hfault⟩ := read_of_damaged_body hold hb
        exact ⟨.inl ⟨_, hfault⟩, fun _ => ⟨fault, hfault⟩⟩

/-- A quotation mark in the written sample becomes a brace. -/
theorem damaged_file_read_sample :
    ((write sampleTables)[20]? = some (ascii '"') ∧ ascii '\x7b' ≠ ascii '"') ∧
      ∃ fault, read ((write sampleTables).set 20 (ascii '\x7b')) = .error (.corrupted fault) := by
  have hread : read (write sampleTables) = .ok sampleTables :=
    read_write_eq_ok_iff.2 (Tables.decoded_encoded (by decide) (by decide) (by decide +kernel)
      (by decide))
  have hold : (write sampleTables)[20]? = some (ascii '"') :=
    (getElem?_write sampleTables 1).trans (by decide +kernel)
  have hb : ascii '\x7b' ≠ ascii '"' := by decide
  have hbody : (write sampleTables).length - (body sampleTables).length ≤ 20 := by
    rw [length_write]
    omega
  exact ⟨⟨hold, hb⟩, (damaged_file_read hread hold hb).2 hbody⟩

end SnapshotFile

end Sitemap
