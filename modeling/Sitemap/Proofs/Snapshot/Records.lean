import Sitemap.Number.Int32
import Sitemap.Snapshot.Decoding
import Sitemap.Proofs.Json.Integers
import Sitemap.Proofs.Timestamp

/-!
# Records, encoded and decoded

For each kind of stored data: what is decoded from its encoded form, and what holds of it
whenever it is decoded, whatever the text.

## Main results

- `Decoding.keyed_encoded`, `Decoding.frames_encoded` — collections come back when their
  values do
- `Decoding.fields?_record` — the fields of an encoded record
- `Decoding.pageRow_encoded`, `Decoding.metadata_encoded`, `Decoding.widgetNamed_encoded`,
  `Decoding.tables_encoded` — the records come back when their fields do
- `Decoding.of_pageRow`, `Decoding.of_metadata`, `Decoding.of_widgetNamed`,
  `Decoding.of_tables` — what holds of every decoded record

## Design notes

A decoder that is given `depth` opens at most `depth` arrays and objects. So an inversion
lemma tells how much is left for the parts of a collection or record, and which parts of the
text they were decoded from.
-/

namespace Sitemap

theorem mapM_eq_some_iff {α β : Type} {f : α → Option β} {l : List α} {r : List β} :
    l.mapM f = some r ↔ l.map f = r.map some := by
  induction l generalizing r with
  | nil => cases r <;> simp
  | cons a l ih =>
    rw [List.mapM_cons]
    cases hf : f a with
    | none => cases r <;> simp [hf]
    | some b =>
      simp only [Option.bind_eq_bind, Option.bind_some, Option.bind_eq_some_iff, Option.pure_def,
        Option.some.injEq, ih, List.map_cons, hf]
      constructor
      · rintro ⟨r', hr', rfl⟩
        rw [List.map_cons, hr']
      · intro heq
        cases r with
        | nil => cases heq
        | cons b' r' =>
          obtain ⟨hb, hr'⟩ := List.cons.inj heq
          cases hb
          exact ⟨r', hr', rfl⟩

namespace Decoding

variable {α : Type} {decode : Decoder α} {encode : α → Written} {depth : Nat} {w : Written}

-- ════════════════════════════════════════════════════════════════════════
-- Plain values
-- ════════════════════════════════════════════════════════════════════════

theorem string_encoded (depth : Nat) (s : String) :
    string depth (Encoding.string s) = some s :=
  Quoted.text?_ofString s

theorem int32Of?_ofInt {n : Int} (h : IsInt32 n) : int32Of? (Numeral.ofInt n) = some n := by
  have hcanonical : (Json.int n).IsCanonical := by
    obtain ⟨hlow, hhigh⟩ := h
    exact ⟨by omega, by omega⟩
  obtain ⟨numeral, hnumeral, hint⟩ := Option.bind_eq_some_iff.1 (Numeral.int?_ofInt hcanonical)
  simp only [int32Of?, hnumeral, hint, Option.bind_eq_bind, Option.bind_some]
  exact if_pos h

theorem isInt32_of_int32Of? {cs : List Char} {n : Int} (h : int32Of? cs = some n) :
    IsInt32 n := by
  simp only [int32Of?, Option.bind_eq_bind, Option.bind_eq_some_iff] at h
  obtain ⟨numeral, -, m, -, h⟩ := h
  split at h
  · next hfits =>
    cases h
    exact hfits
  · cases h

theorem int_encoded {n : Int} (h : IsInt32 n) (depth : Nat) :
    int depth (Encoding.int n) = some n :=
  int32Of?_ofInt h

theorem isInt32_of_int {n : Int} (h : int depth w = some n) : IsInt32 n := by
  unfold int at h
  split at h
  · exact isInt32_of_int32Of? h
  · cases h

theorem timestamp_encoded {t : Timestamp} (h : Timestamp.isReadableYear t.date.year)
    (depth : Nat) : timestamp depth (Encoding.timestamp t) = some t := by
  show (string depth (Encoding.string t.text)).bind Timestamp.ofText? = _
  rw [string_encoded, Option.bind_some, Timestamp.ofText?_text_iff.2 h]

theorem isReadableYear_of_timestamp {t : Timestamp} (h : timestamp depth w = some t) :
    Timestamp.isReadableYear t.date.year := by
  obtain ⟨s, -, hs⟩ := Option.bind_eq_some_iff.1 h
  exact Timestamp.isReadableYear_of_ofChars? hs

theorem value_encoded {v : JsonValue} (hintegral : v.tree.isIntegral)
    (hdepth : v.tree.nesting ≤ depth) : value depth (Encoding.value v) = some v :=
  (Written.value?_written_iff hintegral).2 hdepth

/-- A value that was not written as `null` is not `null`, and nests within the bound. -/
theorem of_value {v : JsonValue} (h : value depth w = some v) :
    (w ≠ .null → v ≠ .null) ∧ v.tree.nesting ≤ depth := by
  have hjson := Written.value?_eq_some_iff.1 h
  exact ⟨fun hw hv => hw (Written.eq_null_of_json? (hv ▸ hjson)),
    Written.nesting_of_json? w hjson⟩

/-- What may be absent comes back when it comes back as such and is not mistaken for what is
    absent. -/
theorem option_encoded {o : Option α}
    (h : ∀ a ∈ o, encode a ≠ .null ∧ decode depth (encode a) = some a) :
    option decode depth (Encoding.option encode o) = some o := by
  cases o with
  | none => rfl
  | some a =>
    obtain ⟨hnull, ha⟩ := h a rfl
    show option decode depth (encode a) = _
    unfold option
    split
    · next heq => exact absurd heq hnull
    · rw [ha, Option.map_some]

theorem of_option {a : α} (h : option decode depth w = some (some a)) :
    w ≠ .null ∧ decode depth w = some a := by
  unfold option at h
  split at h
  · cases h
  · next hnull =>
    obtain ⟨b, hb, heq⟩ := Option.map_eq_some_iff.1 h
    cases heq
    exact ⟨hnull, hb⟩

-- ════════════════════════════════════════════════════════════════════════
-- Collections
-- ════════════════════════════════════════════════════════════════════════

theorem members?_encoded (encode : α → Written) (entries : List (String × α)) :
    members? (entries.map fun (key, a) => (Quoted.ofString key, encode a)) =
      some (entries.map fun (key, a) => (key, encode a)) := by
  rw [members?, mapM_eq_some_iff, List.map_map, List.map_map]
  refine List.map_congr_left fun e _ => ?_
  show (Quoted.text? (Quoted.ofString e.1)).map (·, encode e.2) = some (e.1, encode e.2)
  rw [Quoted.text?_ofString, Option.map_some]

/-- A collection comes back when all of its values do. -/
theorem keyed_encoded {m : Keyed String α}
    (h : ∀ key a, m.get? key = some a → decode depth (encode a) = some a) :
    keyed decode (depth + 1) (Encoding.keyed encode m) = some m := by
  refine Option.bind_eq_some_iff.2 ⟨_, members?_encoded encode m.entries, ?_⟩
  refine Option.bind_eq_some_iff.2 ⟨m.entries, ?_, congrArg some (Keyed.ofList_entries m)⟩
  rw [mapM_eq_some_iff, List.map_map]
  refine List.map_congr_left fun e he => ?_
  show (decode depth (encode e.2)).map (e.1, ·) = some e
  rw [h e.1 e.2 (Keyed.get?_eq_some_iff.2 he), Option.map_some]

/-- The members of an object under their texts are parts of it. -/
theorem isPart_of_members? {members : List (List Quoted.Piece × Written)}
    {texts : List (String × Written)} (h : members? members = some texts) {text : String}
    {part : Written} (hmem : (text, part) ∈ texts) : part.IsPart (.object members) := by
  have htext : some (text, part) ∈ texts.map some := List.mem_map_of_mem hmem
  rw [← mapM_eq_some_iff.1 h] at htext
  obtain ⟨⟨key, v⟩, hkey, hmap⟩ := List.mem_map.1 htext
  obtain ⟨_, -, heq⟩ := Option.map_eq_some_iff.1 hmap
  cases heq
  exact .member hkey

/-- The values of a decoded collection were decoded from parts, with one level less. -/
theorem of_keyed {m : Keyed String α} (h : keyed decode depth w = some m) :
    ∃ inner, depth = inner + 1 ∧ ∀ key a, m.get? key = some a →
      ∃ part : Written, part.IsPart w ∧ decode inner part = some a := by
  unfold keyed at h
  split at h
  · next inner members =>
    simp only [Option.bind_eq_bind, Option.bind_eq_some_iff, Option.pure_def,
      Option.some.injEq] at h
    obtain ⟨texts, htexts, entries, hentries, rfl⟩ := h
    refine ⟨inner, rfl, fun key a hfound => ?_⟩
    have hentry : (key, a) ∈ entries :=
      Keyed.mem_of_mem_ofList (Keyed.get?_eq_some_iff.1 hfound)
    have hdecoded : some (key, a) ∈ entries.map some := List.mem_map_of_mem hentry
    rw [← mapM_eq_some_iff.1 hentries] at hdecoded
    obtain ⟨⟨text, part⟩, hmem, hpart⟩ := List.mem_map.1 hdecoded
    obtain ⟨b, hb, heq⟩ := Option.map_eq_some_iff.1 hpart
    cases heq
    exact ⟨part, isPart_of_members? htexts hmem, hb⟩
  · cases h

theorem frameOf?_frameKey {frame : Int} (h : IsInt32 frame) :
    frameOf? (Encoding.frameKey frame) = some frame := by
  refine Option.bind_eq_some_iff.2 ⟨Numeral.ofInt frame, ?_, int32Of?_ofInt h⟩
  rw [mapM_eq_some_iff, Encoding.frameKey, List.map_map]
  refine List.map_congr_left fun c hc => ?_
  have hpart : Numeral.IsPart c := Numeral.isPart_of_ofChars? (Numeral.ofChars?_ofInt frame) c hc
  exact congrArg some hpart.ascii_spec.1

/-- A collection filed under frames comes back when all of its frames and values do. -/
theorem frames_encoded {m : Keyed Int α}
    (h : ∀ frame a, m.get? frame = some a →
      IsInt32 frame ∧ decode depth (encode a) = some a) :
    frames decode (depth + 1) (Encoding.frames encode m) = some m := by
  refine Option.bind_eq_some_iff.2 ⟨m.entries, ?_, congrArg some (Keyed.ofList_entries m)⟩
  rw [mapM_eq_some_iff, List.map_map]
  refine List.map_congr_left fun e he => ?_
  obtain ⟨hframe, ha⟩ := h e.1 e.2 (Keyed.get?_eq_some_iff.2 he)
  show (frameOf? (Encoding.frameKey e.1)).bind _ = some e
  simp only [frameOf?_frameKey hframe, ha, Option.bind_eq_bind, Option.bind_some, Option.pure_def]

/-- The frames of a decoded collection fit in 32 bits, and its values were decoded from parts,
    with one level less. -/
theorem of_frames {m : Keyed Int α} (h : frames decode depth w = some m) :
    ∃ inner, depth = inner + 1 ∧ ∀ frame a, m.get? frame = some a →
      IsInt32 frame ∧ ∃ part : Written, part.IsPart w ∧ decode inner part = some a := by
  unfold frames at h
  split at h
  · next inner members =>
    simp only [Option.bind_eq_bind, Option.bind_eq_some_iff, Option.pure_def,
      Option.some.injEq] at h
    obtain ⟨entries, hentries, rfl⟩ := h
    refine ⟨inner, rfl, fun frame a hfound => ?_⟩
    have hentry : (frame, a) ∈ entries :=
      Keyed.mem_of_mem_ofList (Keyed.get?_eq_some_iff.1 hfound)
    have hdecoded : some (frame, a) ∈ entries.map some := List.mem_map_of_mem hentry
    rw [← mapM_eq_some_iff.1 hentries] at hdecoded
    obtain ⟨⟨key, part⟩, hmem, hpart⟩ := List.mem_map.1 hdecoded
    simp only [Option.bind_eq_some_iff, Option.some.injEq, Prod.mk.injEq] at hpart
    obtain ⟨n, hn, b, hb, rfl, rfl⟩ := hpart
    obtain ⟨cs, -, hcs⟩ := Option.bind_eq_some_iff.1 hn
    exact ⟨isInt32_of_int32Of? hcs, part, .member hmem, hb⟩
  · cases h

-- ════════════════════════════════════════════════════════════════════════
-- Records
-- ════════════════════════════════════════════════════════════════════════

/-- A member that is written once is found. -/
theorem memberOf?_of_mem {entries : List (String × Written)} {name : String}
    (hnodup : (entries.map Prod.fst).Nodup) (h : (name, w) ∈ entries) :
    memberOf? name entries = some (some w) := by
  have honly : entries.filter (fun m => m.1 = name) = [(name, w)] := by
    induction entries with
    | nil => exact absurd h List.not_mem_nil
    | cons e rest ih =>
      obtain ⟨hfresh, hrest⟩ := List.nodup_cons.1 hnodup
      rcases List.mem_cons.1 h with rfl | hmem
      · rw [List.filter_cons_of_pos (by simp), List.filter_eq_nil_iff.2 fun m hm => ?_]
        intro hname
        exact hfresh (List.mem_map.2 ⟨m, hm, of_decide_eq_true hname⟩)
      · have hne : e.1 ≠ name := fun heq => hfresh (heq ▸ List.mem_map_of_mem hmem)
        rw [List.filter_cons_of_neg (by simpa using hne), ih hrest hmem]
  unfold memberOf?
  rw [honly]

/-- The fields of an encoded record, with one level less. -/
theorem fields?_record {entries : List (String × Written)} {names : List String}
    (hnames : entries.map Prod.fst = names) (hnodup : names.Nodup) (depth : Nat) :
    fields? names (depth + 1) (Encoding.record entries) =
      some (entries.map fun e => some e.2, depth) := by
  subst hnames
  have hfields : (entries.map Prod.fst).mapM (fun name => memberOf? name entries) =
      some (entries.map fun e => some e.2) := by
    rw [mapM_eq_some_iff, List.map_map, List.map_map]
    exact List.map_congr_left fun e he => memberOf?_of_mem hnodup he
  have hmembers : members? (entries.map fun e => (Quoted.ofString e.1, e.2)) =
      some entries := by
    rw [members?_encoded (fun w => w) entries, List.map_id']
  refine Option.bind_eq_some_iff.2 ⟨entries, hmembers, ?_⟩
  simp only [hfields, Option.bind_eq_bind, Option.bind_some, Option.pure_def]

theorem mem_of_memberOf? {entries : List (String × Written)} {name : String} {part : Written}
    (h : memberOf? name entries = some (some part)) : (name, part) ∈ entries := by
  unfold memberOf? at h
  split at h
  · cases h
  · next m heq =>
    cases h
    have hmem : m ∈ entries.filter fun m => m.1 = name := heq ▸ List.mem_singleton_self m
    obtain ⟨hentry, hname⟩ := List.mem_filter.1 hmem
    rw [← of_decide_eq_true hname]
    exact hentry
  · cases h

/-- The fields of a record are parts of it, with one level less. -/
theorem of_fields? {names : List String} {fields : List (Option Written)} {inner : Nat}
    (h : fields? names depth w = some (fields, inner)) :
    depth = inner + 1 ∧ ∀ part : Written, some part ∈ fields → part.IsPart w := by
  unfold fields? at h
  split at h
  · split at h
    · cases h
      refine ⟨rfl, fun part hpart => ?_⟩
      obtain ⟨item, hitem, heq⟩ := List.mem_map.1 hpart
      cases heq
      exact .item hitem
    · cases h
  · simp only [Option.bind_eq_bind, Option.bind_eq_some_iff, Option.pure_def, Option.some.injEq,
      Prod.mk.injEq] at h
    obtain ⟨texts, htexts, _, hfields, rfl, rfl⟩ := h
    refine ⟨rfl, fun part hpart => ?_⟩
    have hfound := List.mem_map_of_mem (f := some) hpart
    rw [← mapM_eq_some_iff.1 hfields] at hfound
    obtain ⟨name, -, hname⟩ := List.mem_map.1 hfound
    exact isPart_of_members? htexts (mem_of_memberOf? hname)
  · cases h

theorem of_required {a : α} {field : Option Written} (h : required decode depth field = some a) :
    ∃ part, field = some part ∧ decode depth part = some a := by
  cases field with
  | none => cases h
  | some part => exact ⟨part, rfl, h⟩

theorem of_optional {a : α} {field : Option Written}
    (h : optional decode depth field = some (some a)) :
    ∃ part, field = some part ∧ part ≠ .null ∧ decode depth part = some a := by
  cases field with
  | none => cases h
  | some part => exact ⟨part, rfl, of_option h⟩

-- ════════════════════════════════════════════════════════════════════════
-- The kinds of records
-- ════════════════════════════════════════════════════════════════════════

theorem pageRow_encoded {row : PageRow} (h : IsInt32 row.position) (depth : Nat) :
    pageRow (depth + 1) (Encoding.pageRow row) = some row := by
  have hfields : fields? ["code", "parent_code", "pos", "group_code"] (depth + 1)
      (Encoding.pageRow row) = some ([some (Encoding.string row.code),
        some (Encoding.option Encoding.string row.parent), some (Encoding.int row.position),
        some (Encoding.string row.group)], depth) :=
    fields?_record (by rfl) (by decide) depth
  have hparent : option string depth (Encoding.option Encoding.string row.parent) =
      some row.parent :=
    option_encoded fun s _ => ⟨(fun heq => nomatch heq), string_encoded depth s⟩
  simp only [pageRow, hfields, required, optional, string_encoded, int_encoded h, hparent,
    Option.bind_eq_bind, Option.bind_some, Option.pure_def]

theorem of_pageRow {row : PageRow} (h : pageRow depth w = some row) :
    ∃ inner, depth = inner + 1 ∧ IsInt32 row.position := by
  simp only [pageRow, Option.bind_eq_bind, Option.bind_eq_some_iff, Prod.exists] at h
  obtain ⟨fields, inner, hfields, h⟩ := h
  refine ⟨inner, (of_fields? hfields).1, ?_⟩
  split at h
  · simp only [Option.bind_eq_some_iff, Option.pure_def, Option.some.injEq] at h
    obtain ⟨_, -, _, -, position, hposition, _, -, rfl⟩ := h
    obtain ⟨_, -, hpart⟩ := of_required hposition
    exact isInt32_of_int hpart
  · cases h

/-- Metadata comes back when its extra data does and its time is in a readable year. -/
theorem metadata_encoded {m : Metadata} (hpositive : 0 < depth)
    (hextra : value depth (Encoding.value m.extra) = some m.extra)
    (htime : ∀ time ∈ m.updatedAt, Timestamp.isReadableYear time.date.year) :
    metadata (depth + 1) (Encoding.metadata m) = some m := by
  have hfields : fields? ["titles", "model_code", "show_in_menu", "extra_config", "updated_at"]
      (depth + 1) (Encoding.metadata m) = some ([some (Encoding.keyed Encoding.string m.titles),
        some (Encoding.string m.model), some (.bool m.shown), some (Encoding.value m.extra),
        some (Encoding.option Encoding.timestamp m.updatedAt)], depth) :=
    fields?_record (by rfl) (by decide) depth
  have htitles : keyed string depth (Encoding.keyed Encoding.string m.titles) =
      some m.titles := by
    obtain ⟨inner, rfl⟩ := Nat.exists_eq_succ_of_ne_zero (Nat.ne_of_gt hpositive)
    exact keyed_encoded fun _ s _ => string_encoded inner s
  have hupdated : option timestamp depth (Encoding.option Encoding.timestamp m.updatedAt) =
      some m.updatedAt :=
    option_encoded fun time h =>
      ⟨(fun heq => nomatch heq), timestamp_encoded (htime time h) depth⟩
  simp only [metadata, hfields, required, optional, htitles, string_encoded, bool, hextra,
    hupdated, Option.bind_eq_bind, Option.bind_some, Option.pure_def]

/-- The extra data of decoded metadata was decoded from a part, and its time is in a readable
    year. -/
theorem of_metadata {m : Metadata} (h : metadata depth w = some m) :
    ∃ inner, depth = inner + 1 ∧ 0 < inner ∧
      (∃ part : Written, part.IsPart w ∧ value inner part = some m.extra) ∧
      ∀ time ∈ m.updatedAt, Timestamp.isReadableYear time.date.year := by
  simp only [metadata, Option.bind_eq_bind, Option.bind_eq_some_iff, Prod.exists] at h
  obtain ⟨fields, inner, hfields, h⟩ := h
  obtain ⟨rfl, hparts⟩ := of_fields? hfields
  split at h
  · next heq =>
    cases heq
    simp only [Option.bind_eq_some_iff, Option.pure_def, Option.some.injEq] at h
    obtain ⟨titles, htitles, _, -, _, -, extra, hextra, updatedAt, hupdated, rfl⟩ := h
    obtain ⟨_, -, htitles⟩ := of_required htitles
    obtain ⟨rest, rfl, -⟩ := of_keyed htitles
    obtain ⟨part, rfl, hvalue⟩ := of_required hextra
    refine ⟨_, rfl, Nat.succ_pos _, ⟨part, hparts part (by simp), hvalue⟩, fun time htime => ?_⟩
    obtain rfl : updatedAt = some time := htime
    obtain ⟨_, -, -, htime⟩ := of_optional hupdated
    exact isReadableYear_of_timestamp htime
  · cases h

/-- A widget comes back when its configuration does and is not `null`. -/
theorem widgetNamed_encoded {name : String} (hname : name ≠ "config") {x : Widget}
    (hconfig : ∀ v ∈ x.config, v ≠ .null ∧ value depth (Encoding.value v) = some v) :
    widgetNamed name (depth + 1) (Encoding.record [(name, Encoding.string x.typeCode),
      ("config", Encoding.option Encoding.value x.config)]) = some x := by
  have hfields : fields? [name, "config"] (depth + 1) (Encoding.record
      [(name, Encoding.string x.typeCode),
        ("config", Encoding.option Encoding.value x.config)]) =
      some ([some (Encoding.string x.typeCode),
        some (Encoding.option Encoding.value x.config)], depth) :=
    fields?_record (by rfl) (by simpa using hname) depth
  have hback : option value depth (Encoding.option Encoding.value x.config) =
      some x.config := by
    refine option_encoded fun v hv => ⟨fun heq => (hconfig v hv).1 ?_, (hconfig v hv).2⟩
    cases v
    cases Json.written_eq_null heq
    rfl
  simp only [widgetNamed, hfields, required, optional, string_encoded, hback,
    Option.bind_eq_bind, Option.bind_some, Option.pure_def]

/-- The configuration of a decoded widget was decoded from a part that is not `null`. -/
theorem of_widgetNamed {name : String} {x : Widget} (h : widgetNamed name depth w = some x) :
    ∃ inner, depth = inner + 1 ∧ ∀ v ∈ x.config,
      v ≠ .null ∧ ∃ part : Written, part.IsPart w ∧ value inner part = some v := by
  simp only [widgetNamed, Option.bind_eq_bind, Option.bind_eq_some_iff, Prod.exists] at h
  obtain ⟨fields, inner, hfields, h⟩ := h
  obtain ⟨rfl, hparts⟩ := of_fields? hfields
  split at h
  · next heq =>
    cases heq
    simp only [Option.bind_eq_some_iff, Option.pure_def, Option.some.injEq] at h
    obtain ⟨_, -, config, hconfig, rfl⟩ := h
    refine ⟨_, rfl, fun v hv => ?_⟩
    obtain rfl : config = some v := hv
    obtain ⟨part, rfl, hnull, hvalue⟩ := of_optional hconfig
    exact ⟨(of_value hvalue).1 hnull, part, hparts part (by simp), hvalue⟩
  · cases h

/-- Tables come back when their collections do. -/
theorem tables_encoded {t : Tables}
    (hpages : keyed pageRow depth (Encoding.keyed Encoding.pageRow t.pages) = some t.pages)
    (hmetadata : ∀ edition, keyed metadata depth
      (Encoding.keyed Encoding.metadata (t.metadata.get edition)) = some (t.metadata.get edition))
    (hwidgets : ∀ edition, keyed (frames storedWidget) depth
      (Encoding.keyed (Encoding.frames Encoding.storedWidget) (t.widgets.get edition)) =
        some (t.widgets.get edition)) :
    tables (depth + 1) (Encoding.tables t) = some t := by
  have hfields : fields? ["pages", "metadata_draft", "metadata_online", "widgets_draft",
      "widgets_online"] (depth + 1) (Encoding.tables t) =
        some ([some (Encoding.keyed Encoding.pageRow t.pages),
          some (Encoding.keyed Encoding.metadata (t.metadata.get .draft)),
          some (Encoding.keyed Encoding.metadata (t.metadata.get .online)),
          some (Encoding.keyed (Encoding.frames Encoding.storedWidget) (t.widgets.get .draft)),
          some (Encoding.keyed (Encoding.frames Encoding.storedWidget)
            (t.widgets.get .online))], depth) :=
    fields?_record (by rfl) (by decide) depth
  simp only [tables, hfields, required, hpages, hmetadata, hwidgets, Option.bind_eq_bind,
    Option.bind_some, Option.pure_def]
  rfl

/-- The collections of decoded tables were decoded from parts. -/
theorem of_tables {t : Tables} (h : tables depth w = some t) :
    ∃ inner, depth = inner + 1 ∧
      (∃ part : Written, part.IsPart w ∧ keyed pageRow inner part = some t.pages) ∧
      ∀ edition,
        (∃ part : Written, part.IsPart w ∧
          keyed metadata inner part = some (t.metadata.get edition)) ∧
        ∃ part : Written, part.IsPart w ∧
          keyed (frames storedWidget) inner part = some (t.widgets.get edition) := by
  simp only [tables, Option.bind_eq_bind, Option.bind_eq_some_iff, Prod.exists] at h
  obtain ⟨fields, inner, hfields, h⟩ := h
  obtain ⟨rfl, hparts⟩ := of_fields? hfields
  split at h
  · next heq =>
    cases heq
    simp only [Option.bind_eq_some_iff, Option.pure_def, Option.some.injEq] at h
    obtain ⟨_, hpages, _, hmetadataDraft, _, hmetadataOnline, _, hwidgetsDraft, _,
      hwidgetsOnline, rfl⟩ := h
    obtain ⟨pages, rfl, hpages⟩ := of_required hpages
    obtain ⟨metadataDraft, rfl, hmetadataDraft⟩ := of_required hmetadataDraft
    obtain ⟨metadataOnline, rfl, hmetadataOnline⟩ := of_required hmetadataOnline
    obtain ⟨widgetsDraft, rfl, hwidgetsDraft⟩ := of_required hwidgetsDraft
    obtain ⟨widgetsOnline, rfl, hwidgetsOnline⟩ := of_required hwidgetsOnline
    refine ⟨_, rfl, ⟨pages, hparts _ (by simp), hpages⟩, fun edition => ?_⟩
    cases edition with
    | draft =>
      exact ⟨⟨metadataDraft, hparts _ (by simp), hmetadataDraft⟩,
        widgetsDraft, hparts _ (by simp), hwidgetsDraft⟩
    | online =>
      exact ⟨⟨metadataOnline, hparts _ (by simp), hmetadataOnline⟩,
        widgetsOnline, hparts _ (by simp), hwidgetsOnline⟩
  · cases h

end Decoding

end Sitemap
