import Sitemap.Keyed.Lemmas
import Sitemap.Page.Slots
import Mathlib.Tactic.ByContra
import Mathlib.Tactic.Lift

/-!
# Slots, read by frame

Slots are determined by their number and the widget in each frame, and every operation is
known by the widgets that are found after it. Rows of widgets fill slots and are read back
from them.

## Main definitions

- `Slots.map` — slots with each widget changed

## Main results

- `Slots.ext_widgetAt` — slots with the same widgets in the same frames are equal
- `Slots.widgetAt_put`, `Slots.widgetAt_exchange` — the operations, seen through `widgetAt`
- `Slots.widgetAt_ofRows` — stored rows fill the frames that exist
- `Slots.ofRows_insert`, `Slots.ofRows_erase`, `Slots.ofRows_exchange` — a change of the rows
  is a change of the slots
- `Slots.find_occupied` — the placed widgets, looked up by frame
-/

namespace Sitemap

/-- Rows with ascending keys are all found after they were filed one by one. -/
theorem Keyed.get?_foldl_insert {κ β : Type} [Ord κ] [DecidableEq κ] [Std.TransOrd κ]
    [Std.LawfulEqOrd κ] {rows : List (κ × β)} (h : KeysAscend rows) (m : Keyed κ β) (key : κ) :
    (rows.foldl (fun m e => m.insert e.1 e.2) m).get? key =
      (Keyed.find key rows).or (m.get? key) := by
  induction rows generalizing m with
  | nil => rfl
  | cons e rest ih =>
    obtain ⟨k, v⟩ := e
    obtain ⟨hhead, htail⟩ := List.pairwise_cons.1 h
    rw [List.foldl_cons, ih htail, Keyed.get?_insert]
    by_cases hk : key = k
    · subst hk
      rw [if_pos rfl, Keyed.find_eq_none_of_lt hhead]
      simp [Keyed.find]
    · have hne : compare key k ≠ .eq := fun heq => hk (Std.compare_eq_iff_eq.1 heq)
      rw [if_neg hk, Keyed.find, if_neg hne]

namespace Slots

variable {s a b : Slots} {frame other : Int} {content : Option Widget}

theorem containsFrame_iff : s.containsFrame frame = true ↔ 0 ≤ frame ∧ frame < s.frameCount := by
  simp [containsFrame]

@[simp]
theorem frameCount_empty (n : Nat) : (empty n).frameCount = n :=
  List.length_replicate

@[simp]
theorem frameCount_put : (s.put frame content).frameCount = s.frameCount := by
  unfold put
  split
  · exact List.length_set
  · rfl

@[simp]
theorem frameCount_exchange {source target : Int} :
    (s.exchange source target).frameCount = s.frameCount := by
  rw [exchange, frameCount_put, frameCount_put]

theorem containsFrame_congr (h : a.frameCount = b.frameCount) :
    a.containsFrame frame = b.containsFrame frame := by
  unfold containsFrame
  rw [h]

-- ════════════════════════════════════════════════════════════════════════
-- Frames
-- ════════════════════════════════════════════════════════════════════════

/-- A widget is found in a frame exactly when its slot holds it. -/
theorem widgetAt_natCast (i : Nat) : s.widgetAt i = (s.toList[i]?).join := by
  unfold widgetAt
  split
  · rfl
  · next hframe =>
    have hlen : s.toList.length ≤ i := by
      have := mt containsFrame_iff.2 hframe
      unfold frameCount at this
      omega
    rw [List.getElem?_eq_none hlen]
    rfl

/-- No widget is found in a frame that does not exist. -/
theorem widgetAt_eq_none_of_not (h : ¬ s.containsFrame frame = true) : s.widgetAt frame = none :=
  if_neg h

/-- A widget is found in frames that exist only. -/
theorem containsFrame_of_widgetAt {w : Widget} (h : s.widgetAt frame = some w) :
    s.containsFrame frame = true := by
  by_contra hframe
  rw [widgetAt_eq_none_of_not hframe] at h
  cases h

/-- Slots with the same widgets in the same frames are equal. -/
theorem ext_widgetAt (hcount : a.frameCount = b.frameCount)
    (h : ∀ frame, a.widgetAt frame = b.widgetAt frame) : a = b := by
  obtain ⟨l⟩ := a
  obtain ⟨m⟩ := b
  congr 1
  refine List.ext_getElem hcount fun i hi hj => ?_
  have hslot := h i
  rw [widgetAt_natCast, widgetAt_natCast, List.getElem?_eq_getElem hi,
    List.getElem?_eq_getElem hj] at hslot
  exact hslot

/-- Slots with each widget changed. -/
def map (f : Widget → Widget) (s : Slots) : Slots :=
  ⟨s.toList.map (Option.map f)⟩

@[simp]
theorem frameCount_map (f : Widget → Widget) (s : Slots) : (s.map f).frameCount = s.frameCount :=
  List.length_map _

theorem widgetAt_map (f : Widget → Widget) (s : Slots) (frame : Int) :
    (s.map f).widgetAt frame = (s.widgetAt frame).map f := by
  by_cases hframe : s.containsFrame frame = true
  · obtain ⟨hnonneg, -⟩ := containsFrame_iff.1 hframe
    lift frame to Nat using hnonneg
    rw [widgetAt_natCast, widgetAt_natCast, map, List.getElem?_map,
      Option.join_map_eq_map_join]
  · have hframe' : ¬ (s.map f).containsFrame frame = true := by
      rwa [containsFrame_congr (frameCount_map f s)]
    rw [widgetAt_eq_none_of_not hframe, widgetAt_eq_none_of_not hframe', Option.map_none]

/-- Changing the widgets changes nothing exactly when it leaves each of them. -/
theorem map_eq_self_iff {f : Widget → Widget} :
    s.map f = s ↔ ∀ frame w, s.widgetAt frame = some w → f w = w := by
  constructor
  · intro hmap frame w hw
    have hfound := widgetAt_map f s frame
    rw [hmap, hw] at hfound
    exact (Option.some.inj hfound).symm
  · intro hkept
    refine ext_widgetAt (frameCount_map f s) fun frame => ?_
    rw [widgetAt_map]
    cases hw : s.widgetAt frame with
    | none => rfl
    | some w => rw [Option.map_some, hkept frame w hw]

/-- Filling a frame that exists changes what is found in it, and nothing else. -/
theorem widgetAt_put (h : s.containsFrame frame = true) :
    (s.put frame content).widgetAt other =
      if other = frame then content else s.widgetAt other := by
  obtain ⟨hnonneg, hlt⟩ := containsFrame_iff.1 h
  have hput : s.put frame content = ⟨s.toList.set frame.toNat content⟩ := if_pos h
  by_cases hother : s.containsFrame other = true
  · obtain ⟨hnonneg', hlt'⟩ := containsFrame_iff.1 hother
    lift other to Nat using hnonneg'
    lift frame to Nat using hnonneg
    rw [hput, widgetAt_natCast, widgetAt_natCast, Int.toNat_natCast, List.getElem?_set]
    unfold frameCount at hlt
    by_cases heq : frame = other
    · subst heq
      rw [if_pos rfl, if_pos rfl, if_pos (by omega)]
      rfl
    · rw [if_neg heq, if_neg (by omega)]
  · have hne : other ≠ frame := by
      rintro rfl
      exact hother h
    rw [if_neg hne, widgetAt_eq_none_of_not hother, widgetAt_eq_none_of_not]
    rwa [containsFrame_congr frameCount_put]

/-- Filling a frame leaves what is found in the others. -/
theorem widgetAt_put_of_ne (hne : other ≠ frame) :
    (s.put frame content).widgetAt other = s.widgetAt other := by
  by_cases hframe : s.containsFrame frame = true
  · rw [widgetAt_put hframe, if_neg hne]
  · rw [put, if_neg hframe]

/-- Exchanging two frames leaves what is found in the others. -/
theorem widgetAt_exchange_of_ne {source target : Int} (hsource : other ≠ source)
    (htarget : other ≠ target) : (s.exchange source target).widgetAt other = s.widgetAt other := by
  rw [exchange, widgetAt_put_of_ne htarget, widgetAt_put_of_ne hsource]

/-- An exchange of frames that exist exchanges what is found in them. -/
theorem widgetAt_exchange {source target : Int} (hsource : s.containsFrame source = true)
    (htarget : s.containsFrame target = true) :
    (s.exchange source target).widgetAt other =
      if other = target then s.widgetAt source
      else if other = source then s.widgetAt target else s.widgetAt other := by
  have htarget' : (s.put source (s.widgetAt target)).containsFrame target = true := by
    rwa [containsFrame_congr frameCount_put]
  rw [exchange, widgetAt_put htarget', widgetAt_put hsource]

/-- Frames that are exchanged twice hold what they held before. -/
theorem exchange_exchange {source target : Int} (hsource : s.containsFrame source = true)
    (htarget : s.containsFrame target = true) :
    (s.exchange source target).exchange source target = s := by
  have hsource' : (s.exchange source target).containsFrame source = true := by
    rwa [containsFrame_congr frameCount_exchange]
  have htarget' : (s.exchange source target).containsFrame target = true := by
    rwa [containsFrame_congr frameCount_exchange]
  refine ext_widgetAt (by simp) fun frame => ?_
  simp only [widgetAt_exchange hsource' htarget', widgetAt_exchange hsource htarget]
  split
  · next hframe =>
    subst hframe
    split
    · next heq => rw [heq]
    · rfl
  · split
    · next hframe => rw [hframe]; rfl
    · rfl

-- ════════════════════════════════════════════════════════════════════════
-- Access to frames that exist
-- ════════════════════════════════════════════════════════════════════════

@[simp]
theorem checkFrame_eq_ok {u : Unit} :
    s.checkFrame frame = .ok u ↔ s.containsFrame frame = true := by
  unfold checkFrame
  split
  · next hframe => simp [hframe]
  · next hframe => simp [hframe]

theorem set_eq_ok (h : s.containsFrame frame = true) (w : Widget) :
    (s.set frame w).map Prod.snd = .ok (s.put frame (some w)) := by
  have hcheck : s.checkFrame frame = .ok () := checkFrame_eq_ok.2 h
  simp only [set, hcheck]
  rfl

theorem clear_eq_ok (h : s.containsFrame frame = true) :
    (s.clear frame).map Prod.snd = .ok (s.put frame none) := by
  have hcheck : s.checkFrame frame = .ok () := checkFrame_eq_ok.2 h
  simp only [clear, hcheck]
  rfl

theorem move_eq_ok {source target : Int} (hsource : s.containsFrame source = true)
    (htarget : s.containsFrame target = true) :
    s.move source target = .ok (s.exchange source target) := by
  have hfirst : s.checkFrame source = .ok () := checkFrame_eq_ok.2 hsource
  have hsecond : s.checkFrame target = .ok () := checkFrame_eq_ok.2 htarget
  simp only [move, hfirst, hsecond]
  rfl

-- ════════════════════════════════════════════════════════════════════════
-- Rows
-- ════════════════════════════════════════════════════════════════════════

@[simp]
theorem widgetAt_empty (n : Nat) : (empty n).widgetAt frame = none := by
  unfold widgetAt empty
  split
  · rw [List.getElem?_replicate]
    split <;> rfl
  · rfl

/-- Rows with ascending frames fill the frames that exist. -/
theorem widgetAt_foldl_put {rows : List (Int × Widget)} (h : KeysAscend rows) :
    (rows.foldl (fun s (e : Int × Widget) => s.put e.1 (some e.2)) s).frameCount =
        s.frameCount ∧
      (rows.foldl (fun s (e : Int × Widget) => s.put e.1 (some e.2)) s).widgetAt frame =
        if s.containsFrame frame then (Keyed.find frame rows).or (s.widgetAt frame) else none := by
  induction rows generalizing s with
  | nil =>
    refine ⟨rfl, ?_⟩
    split
    · rfl
    · next hframe => exact widgetAt_eq_none_of_not hframe
  | cons e rest ih =>
    obtain ⟨k, w⟩ := e
    obtain ⟨hhead, htail⟩ := List.pairwise_cons.1 h
    obtain ⟨hcount, hwidget⟩ := @ih (s.put k (some w)) htail
    rw [List.foldl_cons]
    refine ⟨hcount.trans frameCount_put, ?_⟩
    rw [hwidget, containsFrame_congr frameCount_put]
    split
    · next hframe =>
      by_cases hk : frame = k
      · subst hk
        rw [Keyed.find_eq_none_of_lt hhead, widgetAt_put hframe, if_pos rfl]
        simp [Keyed.find]
      · have hne : compare frame k ≠ .eq := fun heq => hk (Std.compare_eq_iff_eq.1 heq)
        rw [Keyed.find, if_neg hne]
        by_cases hcontains : s.containsFrame k = true
        · rw [widgetAt_put hcontains, if_neg hk]
        · rw [put, if_neg hcontains]
    · rfl

@[simp]
theorem frameCount_ofRows (n : Nat) (frames : Keyed Int Widget) :
    (ofRows n frames.entries).frameCount = n := by
  have h := (@widgetAt_foldl_put (empty n) 0 _ frames.ascending).1
  rwa [frameCount_empty] at h

/-- Stored rows fill the frames that exist. -/
theorem widgetAt_ofRows (n : Nat) (frames : Keyed Int Widget) :
    (ofRows n frames.entries).widgetAt frame =
      if 0 ≤ frame ∧ frame < n then frames.get? frame else none := by
  have h := (@widgetAt_foldl_put (empty n) frame _ frames.ascending).2
  have hframe : (empty n).containsFrame frame = true ↔ 0 ≤ frame ∧ frame < n := by
    rw [containsFrame_iff, frameCount_empty]
  simp only [widgetAt_empty, Option.or_none, hframe] at h
  exact h

/-- Only the rows of frames that exist matter. -/
theorem ofRows_congr {n : Nat} {m m' : Keyed Int Widget}
    (h : ∀ frame : Int, 0 ≤ frame → frame < n → m'.get? frame = m.get? frame) :
    ofRows n m'.entries = ofRows n m.entries := by
  refine ext_widgetAt (by simp) fun frame => ?_
  rw [widgetAt_ofRows, widgetAt_ofRows]
  split
  · next hframe => exact h frame hframe.1 hframe.2
  · rfl

/-- A row that is filed under a frame fills it. -/
theorem ofRows_insert (n : Nat) (m : Keyed Int Widget) (frame : Int) (w : Widget) :
    ofRows n (m.insert frame w).entries = (ofRows n m.entries).put frame (some w) := by
  by_cases hframe : (ofRows n m.entries).containsFrame frame = true
  · refine ext_widgetAt (by simp) fun other => ?_
    rw [widgetAt_put hframe, widgetAt_ofRows, widgetAt_ofRows, Keyed.get?_insert]
    rw [containsFrame_iff, frameCount_ofRows] at hframe
    by_cases hother : other = frame
    · rw [if_pos hother, if_pos hother, if_pos (by omega)]
    · rw [if_neg hother, if_neg hother]
  · rw [put, if_neg hframe]
    rw [containsFrame_iff, frameCount_ofRows] at hframe
    refine ofRows_congr fun other hnonneg hlt => ?_
    rw [Keyed.get?_insert, if_neg (by omega)]

/-- A row that is dropped empties its frame. -/
theorem ofRows_erase (n : Nat) (m : Keyed Int Widget) (frame : Int) :
    ofRows n (m.erase frame).entries = (ofRows n m.entries).put frame none := by
  by_cases hframe : (ofRows n m.entries).containsFrame frame = true
  · refine ext_widgetAt (by simp) fun other => ?_
    rw [widgetAt_put hframe, widgetAt_ofRows, widgetAt_ofRows, Keyed.get?_erase]
    by_cases hother : other = frame
    · rw [if_pos hother, if_pos hother, ite_self]
    · rw [if_neg hother, if_neg hother]
  · rw [put, if_neg hframe]
    rw [containsFrame_iff, frameCount_ofRows] at hframe
    refine ofRows_congr fun other hnonneg hlt => ?_
    rw [Keyed.get?_erase, if_neg (by omega)]

/-- Rows that are exchanged between frames that exist exchange what is found there. -/
theorem ofRows_exchange {n : Nat} {m m' : Keyed Int Widget} {source target : Int}
    (hsource : (ofRows n m.entries).containsFrame source = true)
    (htarget : (ofRows n m.entries).containsFrame target = true)
    (h : ∀ frame, 0 ≤ frame → m'.get? frame = if frame = target then m.get? source
      else if frame = source then m.get? target else m.get? frame) :
    ofRows n m'.entries = (ofRows n m.entries).exchange source target := by
  refine ext_widgetAt (by simp) fun frame => ?_
  rw [widgetAt_exchange hsource htarget]
  rw [containsFrame_iff, frameCount_ofRows] at hsource htarget
  simp only [widgetAt_ofRows, if_pos hsource, if_pos htarget]
  split
  · next hframe => exact h frame hframe.1
  · next hframe =>
    rw [if_neg (by rintro rfl; exact hframe htarget), if_neg (by rintro rfl; exact hframe hsource)]

/-- The placed widgets come in the order of their frames. -/
theorem keysAscend_occupied (s : Slots) : KeysAscend s.occupied := by
  have hidx : (s.toList.zipIdx).Pairwise fun a b => a.2 < b.2 := by
    have hrange : (s.toList.zipIdx.map Prod.snd).Pairwise (· < ·) := by
      rw [List.zipIdx_map_snd]
      exact List.pairwise_lt_range'
    exact List.pairwise_map.1 hrange
  unfold occupied KeysAscend
  refine List.Pairwise.filterMap _ (fun x y hlt e he e' he' => ?_) hidx
  obtain ⟨-, -, rfl⟩ := Option.map_eq_some_iff.1 he
  obtain ⟨-, -, rfl⟩ := Option.map_eq_some_iff.1 he'
  rw [Int.compare_eq_lt]
  omega

/-- The placed widgets, looked up by frame. -/
theorem find_occupied (s : Slots) (frame : Int) :
    Keyed.find frame s.occupied = s.widgetAt frame := by
  apply Option.ext
  intro w
  rw [Keyed.find_eq_some_iff s.keysAscend_occupied]
  unfold occupied
  rw [List.mem_filterMap]
  constructor
  · rintro ⟨⟨slot, i⟩, hmem, hslot⟩
    obtain ⟨w', hw', heq⟩ := Option.map_eq_some_iff.1 hslot
    obtain ⟨rfl, rfl⟩ := Prod.mk.inj heq
    rw [List.mem_zipIdx_iff_getElem?] at hmem
    dsimp only at hmem hw'
    rw [widgetAt_natCast, hmem, hw']
    rfl
  · intro hw
    obtain ⟨hnonneg, -⟩ := containsFrame_iff.1 (containsFrame_of_widgetAt hw)
    lift frame to Nat using hnonneg
    rw [widgetAt_natCast] at hw
    refine ⟨(some w, frame), ?_, rfl⟩
    rw [List.mem_zipIdx_iff_getElem?]
    exact Option.join_eq_some_iff.1 hw

/-- A widget is among the placed ones exactly when it is found in its frame. -/
theorem mem_occupied_iff {w : Widget} : (frame, w) ∈ s.occupied ↔ s.widgetAt frame = some w := by
  rw [← find_occupied, Keyed.find_eq_some_iff s.keysAscend_occupied]

end Slots

end Sitemap
