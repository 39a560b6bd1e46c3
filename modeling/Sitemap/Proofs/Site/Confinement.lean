import Sitemap.Proofs.Site.Pages

/-!
# What requests leave alone

The hierarchy and the contents of the pages are kept in different tables. A request that changes
the one leaves the other as it is, and a request about one page leaves the rows of all other
pages, down to the frames of the page itself.

## Main definitions

- `Tables.KeepsFrames` — a draft keeps its widgets in all frames but some
- `Command.Confines` — all that a request may change in the rows

## Main results

- `Hosted.IsMirrored.row_of_get?` — a mirror shows the row of each of its pages
- `Command.Effect.confined` — the step: what a request changes is confined to what it may change
- `request_is_confined` — the same at every state that a site comes to

## Design notes

A draft is rewritten together with the parent and the group of the page, which are taken from the
site map. That this changes nothing is no property of the statements: it holds because the site
map mirrors the rows.
-/

namespace Sitemap

/-- The draft of a page keeps its widgets in all frames but some. -/
def Tables.KeepsFrames (t t' : Tables) (code : String) (frames : List Int) : Prop :=
  ∀ frame, frame ∉ frames →
    (t'.widgetsOf .draft code).get? frame = (t.widgetsOf .draft code).get? frame

/-- All that a request may change in the rows. Where pages are added, deleted and moved, no
    edition of another page changes, and no row of another page but for the positions of siblings.
    All other requests keep the rows of pages, except that a group may be set, and change editions
    of one page only. -/
def Command.Confines (t t' : Tables) : Command → Prop
  | .addPage _ code _ _ | .deletePage code => t.Spares t' code ∧ t.ShiftsSiblings t' code
  | .movePage code _ | .movePageStep code _ =>
    t'.metadata = t.metadata ∧ t'.widgets = t.widgets ∧ t.ShiftsSiblings t' code ∧
      (t'.pages.get? code).map (·.group) = (t.pages.get? code).map (·.group)
  | .updatePageGroup code group =>
    t' = { t with pages := t.pages.modify code fun row => { row with group } }
  | .updatePage code _ => t.Touches t' .draft code
  | .setPageOnline code => t'.pages = t.pages ∧ t.Spares t' code
  | .setPageOffline code => t.Touches t' .online code
  | .joinWidget code frame _ | .removeWidget code frame =>
    t.Touches t' .draft code ∧ t.KeepsFrames t' code [frame]
  | .moveWidget code source target =>
    t.Touches t' .draft code ∧ t.KeepsFrames t' code [source, target]
  | .refresh => t' = t

/-- A mirror shows the row of each of its pages. -/
theorem Hosted.IsMirrored.row_of_get? {h : Hosted} (hmirrored : h.IsMirrored) {code : String}
    {page : Page} (hpage : h.site.tree.get? code = some page) :
    h.env.committed.pages.get? code = some ⟨page.toPlacement, page.group⟩ := by
  have hplace := Tree.places_of_get? hpage
  have hcontent := Tree.contents_of_get? hpage
  rw [hmirrored.mirrors.follows.places] at hplace
  rw [hmirrored.mirrors.contents] at hcontent
  obtain ⟨row, hrow, hgroup, -, -⟩ := Tables.contents_eq_some_iff.1 hcontent
  obtain ⟨row', hrow', hplace⟩ := Tables.places_eq_some_iff.1 hplace
  obtain rfl : row = row' := Option.some.inj (hrow.symm.trans hrow')
  rw [hrow]
  exact congrArg some (PageRow.ext_place hplace hgroup)

namespace Command

variable {h h' : Hosted} {time : Timestamp} {command : Command} {a : Answer}

/-- A request that finds everything as it asks for changes nothing. -/
theorem Idle.confines {site : Site} (hidle : Idle site command a) (t : Tables) :
    command.Confines t t := by
  cases hidle with
  | movePage => exact ⟨rfl, rfl, fun _ _ => .inl rfl, rfl⟩
  | setPageOffline => exact .refl t .online _
  | moveWidget | removeWidget => exact ⟨.refl t .draft _, fun _ _ => rfl⟩

/-- What a request changes is confined to what it may change. -/
theorem Effect.confined (heffect : Effect h h' time command (.ok a)) (hmirrored : h.IsMirrored) :
    command.Confines h.env.committed h'.env.committed := by
  have hordered := hmirrored.ordered
  cases heffect with
  | kept hkeeps hidle =>
    rw [hkeeps.committed]
    exact (hidle a rfl).confines _
  | refreshed hload henv => rw [henv, Confines]
  | @added parent code group draft page stored t haccepted hedit hcommits =>
    obtain ⟨-, -, rfl, -⟩ := Site.acceptNewPage_spec haccepted
    obtain ⟨-, hpages, -⟩ := RowEdit.pages_of_addPage hedit
    rw [hcommits.env.committed]
    refine ⟨RowEdit.spares_of_addPage hedit, fun c hc => .inl ?_⟩
    rw [hpages, Keyed.get?_insert, if_neg hc]
  | @updated code draft page stored t haccepted hedit hcommits =>
    obtain ⟨current, hcurrent, hpage, -⟩ := Site.acceptDraft_spec haccepted
    have hrow := hmirrored.row_of_get? hcurrent
    have hcurrentCode := hmirrored.mirrors.follows.code_eq hordered hcurrent
    have hplace : page.toPlacement = current.toPlacement := by rw [hpage]
    have hcode : page.code = code := by rw [hplace, hcurrentCode]
    obtain ⟨-, -, u, htouches, -, -, rfl⟩ := RowEdit.touches_of_updatePage hedit
    rw [hcode] at htouches
    rw [hcommits.env.committed]
    refine ⟨?_, htouches.metadata, htouches.filed⟩
    -- the parent and the group that are written are those of the row
    apply Keyed.ext_get?
    intro c
    dsimp only
    rw [Keyed.get?_modify, hcode]
    split
    · next hc =>
      rw [hc, hrow, hpage]
      rfl
    · rfl
  | @regrouped code group page t u hpage hedit hcommits =>
    obtain ⟨hstored, rfl⟩ := RowEdit.pages_of_updatePageGroup hedit
    obtain ⟨row, hrow⟩ := Option.isSome_iff_exists.1 hstored
    rw [hcommits.env.committed]
    show Tables.mk _ _ _ = Tables.mk _ _ _
    congr 1
    apply Keyed.ext_get?
    intro c
    rw [Keyed.get?_modify, Keyed.get?_modify]
    split
    · next hc =>
      rw [hc, hrow]
      rfl
    · rfl
  | @deleted code page t u haccepted hedit hcommits =>
    obtain ⟨parent, -, -, hfits, hplaces⟩ := hmirrored.isFollowed.fits_drop haccepted hedit
    rw [hcommits.env.committed]
    refine ⟨(RowEdit.spares_of_deletePage hedit).1, .of_places ?_ fun c hc => ?_⟩
    · rw [hplaces]
      exact hfits.shiftsSiblings rfl
    · rw [RowEdit.group_of_deletePage hedit, if_neg hc]
  | @stayed code newParent page t hpage hedit hcommits =>
    have hsame := RowEdit.places_of_movePage hordered hedit
    rw [hcommits.env.committed, hsame]
    exact ⟨rfl, rfl, fun _ _ => .inl rfl, rfl⟩
  | @moved code newParent plan page t hedit hcommits hpage =>
    obtain ⟨hcode, -, hfits, hplaces⟩ := RowEdit.places_of_movePage hordered hedit
    obtain ⟨hmetadata, hwidgets⟩ := RowEdit.editions_of_movePage hedit
    have hgroup := RowEdit.group_of_movePage hedit
    rw [hcommits.env.committed]
    refine ⟨hmetadata, hwidgets, .of_places ?_ fun c _ => hgroup c, hgroup code⟩
    rw [hplaces]
    exact hfits.shiftsSiblings hcode
  | @unswapped code up t hedit hcommits =>
    have hsame := RowEdit.places_of_swapPositions hordered hedit
    rw [hcommits.env.committed, hsame]
    exact ⟨rfl, rfl, fun _ _ => .inl rfl, rfl⟩
  | @swapped code up plan t hedit hcommits =>
    obtain ⟨hcode, hfits, hplaces⟩ := RowEdit.places_of_swapPositions hordered hedit
    obtain ⟨hmetadata, hwidgets⟩ := RowEdit.editions_of_swapPositions hedit
    have hgroup := RowEdit.group_of_swapPositions hedit
    rw [hcommits.env.committed]
    refine ⟨hmetadata, hwidgets, .of_places ?_ fun c _ => hgroup c, hgroup code⟩
    rw [hplaces]
    exact hfits.shiftsSiblings hcode
  | published hedit hcommits =>
    obtain ⟨-, hpages, hspares, -⟩ := RowEdit.touches_of_setPageOnline hedit
    rw [hcommits.env.committed]
    exact ⟨hpages, hspares⟩
  | unpublished hpage hedit hcommits =>
    rw [hcommits.env.committed]
    exact (RowEdit.touches_of_setPageOffline hedit).1
  | joined hpage haccepted hframe hedit hcommits =>
    obtain ⟨-, htouches, -, hwidgets⟩ := RowEdit.touches_of_joinWidget hedit
    rw [hcommits.env.committed]
    refine ⟨htouches, fun other hother => ?_⟩
    rw [hwidgets, Keyed.get?_insert, if_neg (by simpa using hother)]
  | exchanged hpage _ hsource htarget hedit hcommits =>
    have hhidden := hmirrored.hidden
    have hnonneg := (Slots.containsFrame_iff.1 hsource).1
    have hnonneg' := (Slots.containsFrame_iff.1 htarget).1
    obtain ⟨-, htouches, -, hwidgets⟩ := RowEdit.touches_of_moveWidget (by omega) (by omega)
      (hmirrored.unparked _) hedit
    rw [hcommits.env.committed]
    refine ⟨htouches, fun other hother => ?_⟩
    simp only [List.mem_cons, List.not_mem_nil, or_false, not_or] at hother
    rw [hwidgets, if_neg hother.2, if_neg hother.1]
  | removed hpage hframe hedit hcommits =>
    obtain ⟨-, htouches, -, hwidgets⟩ := RowEdit.touches_of_removeWidget hedit
    rw [hcommits.env.committed]
    refine ⟨htouches, fun other hother => ?_⟩
    rw [hwidgets, Keyed.get?_erase, if_neg (by simpa using hother)]

end Command

/-- Whatever a site has been asked for since it opened on an empty store, a request that it
    grants changes no rows but those that it may change. -/
theorem request_is_confined {config : SiteConfig} {r : Registry} {time : Timestamp}
    {env env' : Environment} {site : Site} {steps : List Hosted.Step} {h : Hosted}
    (hvacant : env.IsVacant) (hopen : Site.openOn config r time env = (.ok site, env'))
    (hrun : Hosted.run ⟨env', site⟩ steps = h) (now : Timestamp) (command : Command) {a : Answer}
    {after : Hosted} (hanswer : command.run now h = (.ok a, after)) :
    command.Confines h.env.committed after.env.committed := by
  subst hrun
  obtain ⟨hmirrored, -⟩ := Site.isMirrored_run_of_openOn hvacant hopen steps
  exact (Command.effect_of_run hanswer).confined hmirrored

/-- The first of three pages, which has been published and whose draft holds a widget, moves below
    the last one. The widget stays where it is, in both editions, and the pages behind it move
    up. -/
theorem request_is_confined_sample :
    let h := Hosted.planted.run
      [.request .epoch (.addPage "homepage" "a" "free" (.empty "home" 2)),
        .request .epoch (.addPage "homepage" "b" "free" (.empty "home" 2)),
        .request .epoch (.addPage "homepage" "c" "free" (.empty "home" 2)),
        .request .epoch (.joinWidget "a" 1 ⟨"menu", none⟩),
        .request .epoch (.setPageOnline "a")]
    let moved := (Command.movePage "a" "c").run .epoch h
    moved.1.isOk = true ∧
      (moved.2.env.committed.pages.get? "b").map (·.position) = some 1 ∧
      (moved.2.env.committed.widgetsOf .online "a").get? 1 = some ⟨"menu", none⟩ ∧
      (Command.movePage "a" "c").Confines h.env.committed moved.2.env.committed := by
  intro h moved
  have hmoved : moved.1.isOk = true := by decide +kernel
  obtain ⟨a, ha⟩ := isOk_iff.1 hmoved
  refine ⟨hmoved, by decide +kernel, by decide +kernel, ?_⟩
  exact request_is_confined Environment.isVacant_sample Site.openOn_sample rfl .epoch
    (.movePage "a" "c") (Prod.ext ha rfl)

end Sitemap
