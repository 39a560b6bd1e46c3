import Sitemap.Proofs.Rows.Data
import Sitemap.Proofs.Snapshot.Header
import Sitemap.Proofs.Snapshot.Records

/-!
# Snapshot files, written and read

Reading what was written for row tables gives the tables. Three conditions on the tables are
needed for that, and no more when their numbers are integers: their numbers, frames and times
are in the ranges that are read, no widget has the configuration `null`, and no extra data
and no configuration nests too deep.

## Main definitions

- `Tables.IsRepresentable` — positions, frames and times are in the ranges that are read
- `Tables.IsIntegral` — extra data and configurations hold integers only
- `Tables.OmitsNull` — no widget has the configuration `null`
- `Tables.IsShallow` — the file nests no deeper than it is read

## Main results

- `SnapshotFile.read_write` — the round trip
- `Tables.of_decoded` — the conditions hold of every table that is read

## Design notes

Of the nesting that a whole text may have, the tables, their entries and the records in them
take a fixed part. What is left is `Tables.extraDepth` for extra data, and for a
configuration, which lies one collection deeper, `Tables.configDepth`.
-/

namespace Sitemap

namespace Tables

/-- Positions, frames and times are in the ranges that are read. -/
structure IsRepresentable (t : Tables) : Prop where
  /-- Positions fit in 32 bits. -/
  positions : ∀ code row, t.pages.get? code = some row → IsInt32 row.position
  /-- Frames fit in 32 bits. -/
  frames : ∀ edition code frame w,
    (t.widgetsOf edition code).get? frame = some w → IsInt32 frame
  /-- Rows were last written in readable years. -/
  times : ∀ edition code row, t.metadataOf edition code = some row →
    ∀ time ∈ row.updatedAt, Timestamp.isReadableYear time.date.year

/-- Extra data and configurations hold integers only. -/
def IsIntegral (t : Tables) : Prop :=
  t.AllData (fun v => v.tree.isIntegral) fun w => ∀ v ∈ w.config, v.tree.isIntegral

/-- No widget has the configuration `null`. -/
def OmitsNull (t : Tables) : Prop :=
  t.AllData (fun _ => True) fun w => w.config ≠ some .null

/-- How deep the extra data of a stored page may nest. -/
def extraDepth : Nat := 124

/-- How deep the configuration of a stored widget may nest. -/
def configDepth : Nat := 123

/-- No extra data and no configuration nests too deep to be read. -/
def IsShallow (t : Tables) : Prop :=
  t.AllData (fun v => v.tree.nesting ≤ extraDepth)
    fun w => ∀ v ∈ w.config, v.tree.nesting ≤ configDepth

variable {t : Tables} {edition : Edition} {code : String} {frame : Int} {w : Widget}

/-- The ranges, told by the entries of the tables. -/
theorem isRepresentable_iff : t.IsRepresentable ↔
    (∀ e ∈ t.pages.entries, IsInt32 e.2.position) ∧
      ∀ edition ∈ Edition.all,
        (∀ e ∈ (t.widgets.get edition).entries, ∀ f ∈ e.2.entries, IsInt32 f.1) ∧
          ∀ e ∈ (t.metadata.get edition).entries,
            ∀ time ∈ e.2.updatedAt, Timestamp.isReadableYear time.date.year := by
  constructor
  · intro h
    refine ⟨fun e he => h.positions e.1 e.2 (Keyed.get?_eq_some_iff.2 he), fun edition _ =>
      ⟨fun e he f hf => ?_, fun e he => h.times edition e.1 e.2 (Keyed.get?_eq_some_iff.2 he)⟩⟩
    exact h.frames edition e.1 f.1 f.2 (get?_widgetsOf.2
      ⟨e.2, Keyed.get?_eq_some_iff.2 he, Keyed.get?_eq_some_iff.2 hf⟩)
  · rintro ⟨hpages, heditions⟩
    refine ⟨fun code row hrow => hpages _ (Keyed.get?_eq_some_iff.1 hrow),
      fun edition code frame w hw => ?_, fun edition code row hrow => ?_⟩
    · obtain ⟨frames, hframes, hplaced⟩ := get?_widgetsOf.1 hw
      exact (heditions edition edition.mem_all).1 _ (Keyed.get?_eq_some_iff.1 hframes) _
        (Keyed.get?_eq_some_iff.1 hplaced)
    · exact (heditions edition edition.mem_all).2 _ (Keyed.get?_eq_some_iff.1 hrow)

instance : Decidable t.IsRepresentable :=
  decidable_of_iff _ isRepresentable_iff.symm

instance : Decidable t.IsIntegral :=
  inferInstanceAs (Decidable (t.AllData _ _))

instance : Decidable t.OmitsNull :=
  inferInstanceAs (Decidable (t.AllData _ _))

instance : Decidable t.IsShallow :=
  inferInstanceAs (Decidable (t.AllData _ _))

-- ════════════════════════════════════════════════════════════════════════
-- Tables, encoded and decoded
-- ════════════════════════════════════════════════════════════════════════

/-- Tables are decoded from their encoded form. -/
theorem decoded_encoded (hrepresentable : t.IsRepresentable) (hintegral : t.IsIntegral)
    (hnull : t.OmitsNull) (hshallow : t.IsShallow) :
    Decoding.tables Decoding.maxDepth (Encoding.tables t) = some t := by
  refine Decoding.tables_encoded ?_ (fun edition => ?_) fun edition => ?_
  · exact Decoding.keyed_encoded fun code row hrow =>
      Decoding.pageRow_encoded (hrepresentable.positions code row hrow) 124
  · exact Decoding.keyed_encoded fun code row hrow =>
      Decoding.metadata_encoded (by decide)
        (Decoding.value_encoded (hintegral.metadata edition code row hrow)
          (hshallow.metadata edition code row hrow))
        (hrepresentable.times edition code row hrow)
  · refine Decoding.keyed_encoded fun code frames hframes =>
      Decoding.frames_encoded fun frame w hw => ?_
    have hplaced := get?_widgetsOf.2 ⟨frames, hframes, hw⟩
    refine ⟨hrepresentable.frames edition code frame w hplaced,
      Decoding.widgetNamed_encoded (by decide) fun v hv => ⟨?_, ?_⟩⟩
    · rintro rfl
      exact hnull.widgets edition code frame w hplaced hv
    · exact Decoding.value_encoded (hintegral.widgets edition code frame w hplaced v hv)
        (hshallow.widgets edition code frame w hplaced v hv)

theorem metadata_of_decoded {m : Keyed String Metadata} {written : Written}
    (h : Decoding.keyed Decoding.metadata 126 written = some m) {row : Metadata}
    (hrow : m.get? code = some row) :
    row.extra.tree.nesting ≤ extraDepth ∧
      ∀ time ∈ row.updatedAt, Timestamp.isReadableYear time.date.year := by
  obtain ⟨inner, hinner, hrows⟩ := Decoding.of_keyed h
  obtain rfl : 125 = inner := Nat.succ_inj.1 hinner
  obtain ⟨_, -, hwritten⟩ := hrows code row hrow
  obtain ⟨inner, hinner, -, ⟨_, -, hextra⟩, htimes⟩ := Decoding.of_metadata hwritten
  obtain rfl : 124 = inner := Nat.succ_inj.1 hinner
  exact ⟨(Decoding.of_value hextra).2, htimes⟩

theorem widgets_of_decoded {m : Keyed String (Keyed Int Widget)} {written : Written}
    (h : Decoding.keyed (Decoding.frames Decoding.storedWidget) 126 written = some m)
    {frames : Keyed Int Widget} (hframes : m.get? code = some frames)
    (hw : frames.get? frame = some w) :
    IsInt32 frame ∧ w.config ≠ some .null ∧ ∀ v ∈ w.config, v.tree.nesting ≤ configDepth := by
  obtain ⟨inner, hinner, hpages⟩ := Decoding.of_keyed h
  obtain rfl : 125 = inner := Nat.succ_inj.1 hinner
  obtain ⟨_, -, hwritten⟩ := hpages code frames hframes
  obtain ⟨inner, hinner, hwidgets⟩ := Decoding.of_frames hwritten
  obtain rfl : 124 = inner := Nat.succ_inj.1 hinner
  obtain ⟨hframe, _, -, hwritten⟩ := hwidgets frame w hw
  obtain ⟨inner, hinner, hconfig⟩ := Decoding.of_widgetNamed hwritten
  obtain rfl : 123 = inner := Nat.succ_inj.1 hinner
  refine ⟨hframe, fun heq => (hconfig _ heq).1 rfl, fun v hv => ?_⟩
  obtain ⟨-, _, -, hvalue⟩ := hconfig v hv
  exact (Decoding.of_value hvalue).2

/-- Tables that are decoded are in the ranges that are read, have no configuration `null`,
    and are shallow. -/
theorem of_decoded {written : Written}
    (h : Decoding.tables Decoding.maxDepth written = some t) :
    t.IsRepresentable ∧ t.OmitsNull ∧ t.IsShallow := by
  obtain ⟨inner, hinner, ⟨_, -, hpages⟩, heditions⟩ := Decoding.of_tables h
  obtain rfl : 126 = inner := Nat.succ_inj.1 hinner
  have hpositions : ∀ code row, t.pages.get? code = some row → IsInt32 row.position := by
    intro code row hrow
    obtain ⟨inner, -, hrows⟩ := Decoding.of_keyed hpages
    obtain ⟨_, -, hwritten⟩ := hrows code row hrow
    obtain ⟨_, -, hposition⟩ := Decoding.of_pageRow hwritten
    exact hposition
  have hmetadata : ∀ edition code row, t.metadataOf edition code = some row →
      row.extra.tree.nesting ≤ extraDepth ∧
        ∀ time ∈ row.updatedAt, Timestamp.isReadableYear time.date.year := by
    intro edition code row hrow
    obtain ⟨⟨_, -, hkeyed⟩, -⟩ := heditions edition
    exact metadata_of_decoded hkeyed hrow
  have hwidgets : ∀ edition code frame w, (t.widgetsOf edition code).get? frame = some w →
      IsInt32 frame ∧ w.config ≠ some .null ∧ ∀ v ∈ w.config, v.tree.nesting ≤ configDepth := by
    intro edition code frame w hw
    obtain ⟨frames, hframes, hplaced⟩ := get?_widgetsOf.1 hw
    obtain ⟨-, _, -, hkeyed⟩ := heditions edition
    exact widgets_of_decoded hkeyed hframes hplaced
  refine ⟨⟨hpositions, fun e c f w hw => (hwidgets e c f w hw).1,
    fun e c row hrow => (hmetadata e c row hrow).2⟩, ?_, ?_⟩
  · exact ⟨fun _ _ _ _ => trivial, fun e c f w hw => (hwidgets e c f w hw).2.1⟩
  · exact ⟨fun e c row hrow => (hmetadata e c row hrow).1,
      fun e c f w hw => (hwidgets e c f w hw).2.2⟩

end Tables

-- ════════════════════════════════════════════════════════════════════════
-- Encoded tables as text
-- ════════════════════════════════════════════════════════════════════════

namespace Encoding

theorem isSpelled_string (s : String) : (string s).IsSpelled :=
  fun _ hp => Quoted.isSpelled_of_mem_ofString hp

theorem isSpelled_int (n : Int) : (int n).IsSpelled :=
  Json.isSpelled_written (.int n)

theorem isSpelled_value (v : JsonValue) : (value v).IsSpelled :=
  Json.isSpelled_written v.tree

theorem isSpelled_timestamp (t : Timestamp) : (timestamp t).IsSpelled :=
  isSpelled_string t.text

theorem isSpelled_option {α : Type} {encode : α → Written} (h : ∀ a, (encode a).IsSpelled)
    (o : Option α) : (option encode o).IsSpelled := by
  cases o with
  | none => trivial
  | some a => exact h a

/-- A record can be written when its fields can. -/
theorem isSpelled_record {entries : List (String × Written)}
    (h : ∀ e ∈ entries, e.2.IsSpelled) : (record entries).IsSpelled := by
  refine Written.membersSpelled_iff.2 fun m hm => ?_
  obtain ⟨e, he, rfl⟩ := List.mem_map.1 hm
  exact ⟨fun _ hp => Quoted.isSpelled_of_mem_ofString hp, h e he⟩

theorem isSpelled_keyed {α : Type} {encode : α → Written} (h : ∀ a, (encode a).IsSpelled)
    (m : Keyed String α) : (keyed encode m).IsSpelled := by
  refine Written.membersSpelled_iff.2 fun member hm => ?_
  obtain ⟨e, -, rfl⟩ := List.mem_map.1 hm
  exact ⟨fun _ hp => Quoted.isSpelled_of_mem_ofString hp, h e.2⟩

theorem isSpelled_frames {α : Type} {encode : α → Written} (h : ∀ a, (encode a).IsSpelled)
    (m : Keyed Int α) : (frames encode m).IsSpelled := by
  refine Written.membersSpelled_iff.2 fun member hm => ?_
  obtain ⟨e, -, rfl⟩ := List.mem_map.1 hm
  refine ⟨fun p hp => ?_, h e.2⟩
  obtain ⟨c, -, rfl⟩ := List.mem_map.1 hp
  trivial

theorem isSpelled_pageRow (row : PageRow) : (pageRow row).IsSpelled := by
  refine isSpelled_record fun e he => ?_
  simp only [List.mem_cons, List.not_mem_nil, or_false] at he
  rcases he with rfl | rfl | rfl | rfl
  · exact isSpelled_string _
  · exact isSpelled_option isSpelled_string _
  · exact isSpelled_int _
  · exact isSpelled_string _

theorem isSpelled_metadata (m : Metadata) : (metadata m).IsSpelled := by
  refine isSpelled_record fun e he => ?_
  simp only [List.mem_cons, List.not_mem_nil, or_false] at he
  rcases he with rfl | rfl | rfl | rfl | rfl
  · exact isSpelled_keyed isSpelled_string _
  · exact isSpelled_string _
  · trivial
  · exact isSpelled_value _
  · exact isSpelled_option isSpelled_timestamp _

/-- A widget can be written under any name of its type. -/
theorem isSpelled_widgetNamed (name : String) (w : Widget) :
    (record [(name, string w.typeCode), ("config", option value w.config)]).IsSpelled := by
  refine isSpelled_record fun e he => ?_
  simp only [List.mem_cons, List.not_mem_nil, or_false] at he
  rcases he with rfl | rfl
  · exact isSpelled_string _
  · exact isSpelled_option isSpelled_value _

theorem isSpelled_widget (w : Widget) : (widget w).IsSpelled :=
  isSpelled_widgetNamed _ w

theorem isSpelled_storedWidget (w : Widget) : (storedWidget w).IsSpelled :=
  isSpelled_widgetNamed _ w

theorem isSpelled_edition (e : Edition) : (edition e).IsSpelled := by
  cases e with
  | draft | online => exact isSpelled_string _

theorem isSpelled_tables (t : Tables) : (tables t).IsSpelled := by
  refine isSpelled_record fun e he => ?_
  simp only [List.mem_cons, List.not_mem_nil, or_false] at he
  rcases he with rfl | rfl | rfl | rfl | rfl
  · exact isSpelled_keyed isSpelled_pageRow _
  · exact isSpelled_keyed isSpelled_metadata _
  · exact isSpelled_keyed isSpelled_metadata _
  · exact isSpelled_keyed (isSpelled_frames isSpelled_storedWidget) _
  · exact isSpelled_keyed (isSpelled_frames isSpelled_storedWidget) _

end Encoding

-- ════════════════════════════════════════════════════════════════════════
-- Files
-- ════════════════════════════════════════════════════════════════════════

namespace SnapshotFile

variable {t t' : Tables} {file : Octets}

theorem lineFeed_not_mem_header (checksum : UInt32) :
    lineFeed ∉ Written.asciiOctets (header checksum) := by
  intro hmem
  obtain ⟨c, hc, heq⟩ := List.mem_map.1 hmem
  have hhex : ∀ c ∈ hexChars, Quoted.ascii c ≠ lineFeed :=
    List.all_iff_forall_prop.1 (by decide)
  have hmagic : ∀ c ∈ magic ++ [' '], Quoted.ascii c ≠ lineFeed :=
    List.all_iff_forall_prop.1 (by decide)
  have hc : c ∈ magic ++ [' '] ++ Checksum.hexadecimal checksum := by
    rw [List.append_assoc]
    exact hc
  rcases List.mem_append.1 hc with hc | hc
  · exact hmagic c hc heq
  · exact hhex c (mem_hexChars_of_mem_hexadecimal hc) heq

/-- Behind a written first line, the rest decides when it has the checksum of the line. -/
theorem read_header (body : Octets) :
    read (Written.asciiOctets (header (Checksum.crc32 body)) ++ lineFeed :: body) =
      match Decoding.ofText? Decoding.tables body with
      | some t => .ok t
      | none => .error .malformedBody :=
  read_of_vouches (lineFeed_not_mem_header _) (vouches_header _)

/-- The body of a written file is the text of the encoded tables. -/
theorem ofText?_body (t : Tables) : Decoding.ofText? Decoding.tables (body t) =
    Decoding.tables Decoding.maxDepth (Encoding.tables t) := by
  rw [Decoding.ofText?, body, Written.read?_render (Encoding.isSpelled_tables t),
    Option.bind_some]

/-- A written file is read as the tables that are decoded from the encoded ones. -/
theorem read_write_eq_ok_iff : read (write t) = .ok t' ↔
    Decoding.tables Decoding.maxDepth (Encoding.tables t) = some t' := by
  rw [write, read_header, ofText?_body]
  cases Decoding.tables Decoding.maxDepth (Encoding.tables t) with
  | none => simp
  | some decoded => simp

/-- Tables that are read from a file satisfy the conditions for writing them. -/
theorem of_read (h : read file = .ok t) : t.IsRepresentable ∧ t.OmitsNull ∧ t.IsShallow := by
  unfold read at h
  split at h
  · cases h
  · split at h
    · cases h
    · split at h
      · cases h
      · split at h
        · cases h
        · dsimp only at h
          split at h
          · cases h
          · split at h
            · next hdecoded =>
              cases h
              obtain ⟨written, -, hwritten⟩ := Option.bind_eq_some_iff.1 hdecoded
              exact Tables.of_decoded hwritten
            · cases h

/-- **Round trip.** Tables that hold integers only, are in the ranges that are read, have no
    configuration `null` and are shallow are read from the file that was written for them. -/
theorem read_write (hintegral : t.IsIntegral) (hrepresentable : t.IsRepresentable)
    (hnull : t.OmitsNull) (hshallow : t.IsShallow) : read (write t) = .ok t :=
  read_write_eq_ok_iff.2 (Tables.decoded_encoded hrepresentable hintegral hnull hshallow)

/-- Nested data with extreme integers, and a key that needs every kind of escape. -/
def sampleValue : JsonValue :=
  ⟨.object
    [("", .array [.int (-9223372036854775808), .int 18446744073709551615, .array []]),
      ("\"\\\n\x01é", .object [("deep", .array [.null, .bool false, .string "𝄞"])])],
    by decide⟩

/-- Tables with a page that is published in a leap second and has a widget in a negative
    frame. -/
def sampleTables : Tables :=
  let published : Metadata :=
    { titles := .ofList [("en", "Home"), ("fr", "Été")]
      model := "home"
      shown := true
      extra := sampleValue
      updatedAt := some
        ⟨⟨2016, 12, 31, by decide, by decide⟩, 86399, 1250000000, by decide, by decide⟩ }
  { pages := .ofList [("home", ⟨⟨"home", none, 1⟩, "admin"⟩)]
    metadata := ⟨.ofList [("home", published)], .ofList [("home", published)]⟩
    widgets :=
      ⟨.ofList [("home", .ofList [(-1, ⟨"menu", some sampleValue⟩), (0, ⟨"text", none⟩)])],
        ∅⟩ }

/-- The sample has everything that is hard to keep, and is read as it was written. -/
theorem read_write_sample :
    (sampleTables.widgetsOf .draft "home").get? (-1) = some ⟨"menu", some sampleValue⟩ ∧
      read (write sampleTables) = .ok sampleTables :=
  ⟨rfl, read_write (by decide) (by decide) (by decide +kernel) (by decide)⟩

end SnapshotFile

end Sitemap
