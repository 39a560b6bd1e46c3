import Sitemap.Proofs.Page.Slots
import Sitemap.Proofs.Rows.Statements

/-!
# Exchange of stored widgets

Two draft frames exchange their widgets in three statements, one of the widgets being parked
meanwhile in a frame that no page has. While the parking frame is free no statement is refused,
whichever of the two frames hold a widget, and also when they are one frame.

## Main definitions

- `Tables.RefilesDraft` — two tables differ in the draft widgets of one page at most
- `Tables.ExchangesFrames` — two tables differ by the exchange of two draft frames of a page

## Main results

- `RowEdit.exchangeFrames_spec` — the three statements succeed and exchange the frames
- `RowEdit.exchange_through_parking_frame` — an exchange of rows is an exchange of slots, and
  made twice it changes nothing

## Design notes

A statement that finds no widget to move does nothing, and is not refused. So each of the three
steps is told by what is found in every frame after it, which is the same rule for frames that
hold a widget and for empty ones.
-/

namespace Sitemap

-- ════════════════════════════════════════════════════════════════════════
-- One page
-- ════════════════════════════════════════════════════════════════════════

/-- `t'` differs from `t` in the draft widgets of one page at most, and the page is filed in
    both or in neither. -/
structure Tables.RefilesDraft (t t' : Tables) (code : String) : Prop where
  /-- The rows of pages stay. -/
  pages : t'.pages = t.pages
  /-- The metadata stays, of both editions. -/
  metadata : t'.metadata = t.metadata
  /-- The widgets that are online stay. -/
  online : t'.widgets.online = t.widgets.online
  /-- The draft widgets of other pages stay as they are filed. -/
  others : ∀ c, c ≠ code → t'.widgets.draft.get? c = t.widgets.draft.get? c
  /-- The page has filed widgets when it had some before. -/
  filed : (t'.widgets.draft.get? code).isSome = (t.widgets.draft.get? code).isSome

/-- `t'` is `t` with two draft frames of a page exchanged: each holds what the other one held,
    if only nothing, and no other row has changed. -/
structure Tables.ExchangesFrames (t t' : Tables) (code : String) (source target : Int) : Prop
    extends t.RefilesDraft t' code where
  /-- The two frames hold each other's widgets, every other frame holds its own. -/
  widgets : ∀ frame, (t'.widgetsOf .draft code).get? frame =
    if frame = target then (t.widgetsOf .draft code).get? source
    else if frame = source then (t.widgetsOf .draft code).get? target
    else (t.widgetsOf .draft code).get? frame

namespace Tables

variable {t t' t'' : Tables} {code : String} {source target : Int}

theorem RefilesDraft.refl (t : Tables) (code : String) : t.RefilesDraft t code :=
  ⟨rfl, rfl, rfl, fun _ _ => rfl, rfl⟩

theorem RefilesDraft.trans (h : t.RefilesDraft t' code) (h' : t'.RefilesDraft t'' code) :
    t.RefilesDraft t'' code where
  pages := h'.pages.trans h.pages
  metadata := h'.metadata.trans h.metadata
  online := h'.online.trans h.online
  others c hc := (h'.others c hc).trans (h.others c hc)
  filed := h'.filed.trans h.filed

/-- Widgets that are filed anew touch the draft of their page. -/
theorem RefilesDraft.touches (h : t.RefilesDraft t' code) : t.Touches t' .draft code where
  pages := h.pages
  metadata e c _ := by
    unfold metadataOf
    rw [h.metadata]
  filed e c hne := by
    cases e with
    | draft => exact h.others c fun hc => hne ⟨rfl, hc⟩
    | online => exact congrArg (fun table => table.get? c) h.online

/-- The metadata of the page itself stays as well. -/
theorem RefilesDraft.metadataOf_eq (h : t.RefilesDraft t' code) (e : Edition) :
    t'.metadataOf e code = t.metadataOf e code := by
  unfold metadataOf
  rw [h.metadata]

/-- Moving the widget of a frame to a free frame succeeds, also when there is no widget to move.
    It empties the one frame and fills the other. -/
theorem updateWidgetFrame_spec (source : Int)
    (hfree : (t.widgetsOf .draft code).get? target = none) :
    ∃ n t', t.updateWidgetFrame .draft code source target = .ok (n, t') ∧
      t.RefilesDraft t' code ∧
      ∀ frame, (t'.widgetsOf .draft code).get? frame =
        if frame = target then (t.widgetsOf .draft code).get? source
        else if frame = source then none else (t.widgetsOf .draft code).get? frame := by
  have htarget : ¬ (t.widgetsOf .draft code).contains target = true :=
    Option.not_isSome_iff_eq_none.2 hfree
  unfold updateWidgetFrame
  dsimp only
  split
  · next hnone =>
    refine ⟨0, t, rfl, .refl t code, fun frame => ?_⟩
    rw [hnone]
    split
    · next hf => rw [hf, hfree]
    · split
      · next hf => rw [hf, hnone]
      · rfl
  · next w hw =>
    rw [if_neg htarget]
    obtain ⟨htouches, hfiled⟩ := touches_setWidgets_insert t .draft code
      (((t.widgetsOf .draft code).erase source).insert target w)
    refine ⟨1, _, rfl, ⟨rfl, rfl, rfl, fun c hc => ?_, ?_⟩, fun frame => ?_⟩
    · exact htouches.filed .draft c fun h => hc h.2
    · -- a page with a widget to move has an entry, which is replaced
      have hsome : (t.widgets.draft.get? code).isSome := by
        by_contra hnone
        have hempty : t.widgetsOf .draft code = ∅ :=
          congrArg (Option.getD · ∅) (Option.not_isSome_iff_eq_none.1 hnone)
        rw [hempty, Keyed.get?_empty] at hw
        cases hw
      rw [hsome]
      exact congrArg Option.isSome (Keyed.get?_insert_self _ _ _)
    · rw [hfiled, Keyed.get?_insert, Keyed.get?_erase, hw]

end Tables

-- ════════════════════════════════════════════════════════════════════════
-- Three statements
-- ════════════════════════════════════════════════════════════════════════

namespace RowEdit

open Tables

variable {t : Tables} {code : String} {parkingFrame source target : Int}

/-- Parking one widget while two frames are exchanged succeeds when the parking frame is free:
    each statement finds its target free. It exchanges the frames, and the parking frame is free
    again. -/
theorem exchangeFrames_spec (hsource : source ≠ parkingFrame) (htarget : target ≠ parkingFrame)
    (hfree : (t.widgetsOf .draft code).get? parkingFrame = none) :
    ∃ t', exchangeFrames parkingFrame code source target t = .ok t' ∧
      t.ExchangesFrames t' code source target := by
  obtain ⟨_, u, hpark, hrefiles₁, hget₁⟩ := updateWidgetFrame_spec source hfree
  have hfree₁ : (u.widgetsOf .draft code).get? source = none := by
    rw [hget₁, if_neg hsource, if_pos rfl]
  obtain ⟨_, v, hmove, hrefiles₂, hget₂⟩ := updateWidgetFrame_spec target hfree₁
  have hfree₂ : (v.widgetsOf .draft code).get? target = none := by
    rw [hget₂]
    split
    · next heq => rw [heq, hfree₁]
    · rw [if_pos rfl]
  obtain ⟨_, w, hunpark, hrefiles₃, hget₃⟩ := updateWidgetFrame_spec parkingFrame hfree₂
  refine ⟨w, ?_, (hrefiles₁.trans hrefiles₂).trans hrefiles₃, fun frame => ?_⟩
  · simp only [exchangeFrames, bind_eq_ok]
    exact ⟨_, hpark, _, hmove, _, hunpark, rfl⟩
  rw [hget₃]
  by_cases hframe : frame = target
  · rw [if_pos hframe, if_pos hframe, hget₂, if_neg hsource.symm, if_neg htarget.symm, hget₁,
      if_pos rfl]
  · rw [if_neg hframe, if_neg hframe]
    by_cases hparked : frame = parkingFrame
    · rw [if_pos hparked, if_neg (by rw [hparked]; exact hsource.symm), hparked, hfree]
    · rw [if_neg hparked, hget₂]
      by_cases hframe' : frame = source
      · have hne : target ≠ source := by
          rw [← hframe']
          exact Ne.symm hframe
        rw [if_pos hframe', if_pos hframe', hget₁, if_neg htarget, if_neg hne]
      · rw [if_neg hframe', if_neg hframe', if_neg hframe, hget₁, if_neg hparked, if_neg hframe']

/-- Two frames of a draft are exchanged through a parking frame that is free. No statement is
    refused, the frames hold each other's widgets, no widget stays in the parking frame, and no
    other row changes. Slots that are filled from the rows are exchanged by that as they are in
    memory, whatever the rows hold in frames that do not exist, and slots that are exchanged
    twice are as they were. -/
theorem exchange_through_parking_frame (hsource : source ≠ parkingFrame)
    (htarget : target ≠ parkingFrame)
    (hfree : (t.widgetsOf .draft code).get? parkingFrame = none) :
    ∃ t', exchangeFrames parkingFrame code source target t = .ok t' ∧
      t.ExchangesFrames t' code source target ∧
      (t'.widgetsOf .draft code).get? parkingFrame = none ∧
      ∀ n : Nat, 0 ≤ source → source < n → 0 ≤ target → target < n →
        (Slots.ofRows n (t.widgetsOf .draft code).entries).move source target =
            .ok (.ofRows n (t'.widgetsOf .draft code).entries) ∧
          ∀ slots : Slots, slots.frameCount = n →
            (slots.move source target >>= fun moved => moved.move source target) =
              .ok slots := by
  obtain ⟨t', hexchange, hspec⟩ := exchangeFrames_spec hsource htarget hfree
  refine ⟨t', hexchange, hspec, ?_, fun n hnonneg hlt hnonneg' hlt' => ⟨?_, fun slots hcount => ?_⟩⟩
  · rw [hspec.widgets, if_neg htarget.symm, if_neg hsource.symm, hfree]
  · have hframes : (Slots.ofRows n (t.widgetsOf .draft code).entries).frameCount = n :=
      Slots.frameCount_ofRows n _
    have hfirst := Slots.containsFrame_iff.2 ⟨hnonneg, hframes ▸ hlt⟩
    have hsecond := Slots.containsFrame_iff.2 ⟨hnonneg', hframes ▸ hlt'⟩
    rw [Slots.move_eq_ok hfirst hsecond,
      Slots.ofRows_exchange hfirst hsecond fun frame _ => hspec.widgets frame]
  · have hfirst : slots.containsFrame source = true :=
      Slots.containsFrame_iff.2 ⟨hnonneg, hcount ▸ hlt⟩
    have hsecond : slots.containsFrame target = true :=
      Slots.containsFrame_iff.2 ⟨hnonneg', hcount ▸ hlt'⟩
    have hsame : (slots.exchange source target).frameCount = slots.frameCount :=
      Slots.frameCount_exchange
    rw [Slots.move_eq_ok hfirst hsecond]
    refine (Slots.move_eq_ok ?_ ?_).trans (congrArg _ (Slots.exchange_exchange hfirst hsecond))
    · rwa [Slots.containsFrame_congr hsame]
    · rwa [Slots.containsFrame_congr hsame]

/-- An empty frame and one that holds a widget are exchanged, on a page that has a widget left in
    a frame that its model does not have. -/
theorem exchange_through_parking_frame_sample :
    let t := Tables.empty.setWidgets .draft
      (.ofList [("a", .ofList [(1, ⟨"menu", none⟩), (7, ⟨"logo", none⟩)])])
    ∃ t', exchangeFrames (-9999) "a" 0 1 t = .ok t' ∧
      (t'.widgetsOf .draft "a").get? 0 = some ⟨"menu", none⟩ ∧
      (t'.widgetsOf .draft "a").get? 1 = none ∧
      (t'.widgetsOf .draft "a").get? 7 = some ⟨"logo", none⟩ ∧
      (Slots.ofRows 2 (t.widgetsOf .draft "a").entries).move 0 1 =
        .ok (.ofRows 2 (t'.widgetsOf .draft "a").entries) := by
  intro t
  have hfree : (t.widgetsOf .draft "a").get? (-9999) = none := by decide +kernel
  obtain ⟨t', hexchange, hspec, -, hslots⟩ :=
    @exchange_through_parking_frame t "a" (-9999) 0 1 (by decide) (by decide) hfree
  refine ⟨t', hexchange, ?_, ?_, ?_, (hslots 2 (by decide) (by decide) (by decide) (by decide)).1⟩
  all_goals
    rw [hspec.widgets]
    decide +kernel

end RowEdit

end Sitemap
