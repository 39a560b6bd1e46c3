import Sitemap.Proofs.Site.Judgement

/-!
# Requests for nothing

A request may ask for what is there already. Most of these are recognized on the site map,
before a transaction is opened, and then nothing at all is written. A step of a page that has
no neighbour is not: it is recognized in the transaction, which is committed all the same.

## Main definitions

- `Site.AtEnd` — a page has no neighbour to be exchanged with
- `Command.IsRedundant` — a request that is recognized before a transaction is opened
- `Hosted.recommit` — commit the tables as they are

## Main results

- `Command.run_of_isRedundant` — a redundant request leaves everything as it is
- `Command.run_of_atEnd` — a step at an end commits the tables as they are
- `Command.lastTransaction_of_run` — every other request that succeeds is one commit
- `writes_unless_redundant` — all of this along the runs of a site
-/

namespace Sitemap

/-- A page has no neighbour before it (`up`) or after it. -/
inductive Site.AtEnd (site : Site) (code : String) : Bool → Prop where
  /-- The root page has no neighbours at all. -/
  | root {page : Page} {up : Bool} (hpage : site.tree.get? code = some page)
    (hroot : page.parent = none) : AtEnd site code up
  /-- Nothing comes before the first child. -/
  | first {parent : String} (hfirst : (site.tree.children parent).head? = some code) :
    AtEnd site code true
  /-- Nothing comes after the last child. -/
  | last {parent : String} (hlast : (site.tree.children parent).getLast? = some code) :
    AtEnd site code false

/-- A request that asks for what is there already, and is seen to do so on the site map. -/
inductive Command.IsRedundant (site : Site) : Command → Prop where
  /-- The page is a child of the parent. -/
  | movePage {code parent : String} {page : Page} (hpage : site.tree.get? code = some page)
    (hparent : page.parent = some parent) : IsRedundant site (.movePage code parent)
  /-- The page is offline. -/
  | setPageOffline {code : String} {page : Page} (hpage : site.tree.get? code = some page)
    (hoffline : page.online = none) : IsRedundant site (.setPageOffline code)
  /-- A frame that may be changed is exchanged with itself. -/
  | moveWidget {code : String} {frame : Int} {page : Page}
    (hpage : site.tree.get? code = some page)
    (hframe : page.draft.slots.containsFrame frame = true)
    (hfree : ∀ w, page.draft.slots.widgetAt frame = some w → site.registry.isLocked w = false) :
    IsRedundant site (.moveWidget code frame frame)
  /-- The frame is empty. -/
  | removeWidget {code : String} {frame : Int} {page : Page}
    (hpage : site.tree.get? code = some page)
    (hframe : page.draft.slots.containsFrame frame = true)
    (hempty : page.draft.slots.widgetAt frame = none) : IsRedundant site (.removeWidget code frame)

/-- Commit the tables as they are, and answer. -/
def Hosted.recommit (h : Hosted) (a : Answer) : Except Error Answer × Hosted :=
  match h.env.commit h.env.beginWrite with
  | (.error e, env) => (.error (.store e), { h with env })
  | (.ok _, env) => (.ok a, { h with env })

-- ════════════════════════════════════════════════════════════════════════
-- Before a transaction
-- ════════════════════════════════════════════════════════════════════════

namespace Command

variable {h h' : Hosted} {time : Timestamp} {command : Command} {a : Answer}

/-- A request that finds everything as it asks for leaves everything as it is, also when the
    next commit is to fail. -/
theorem run_of_idle (hidle : Idle h.site command a) : command.run time h = (.ok a, h) := by
  cases hidle with
  | movePage hpage haccepted =>
    simp only [run, Hosted.movePage, haccepted]
    rfl
  | @setPageOffline code page hpage hoffline =>
    have hcurrent : h.site.draftPage code = .ok page := Site.draftPage_eq_ok.2 hpage
    have hnot : page.isOnline = false := by rw [Page.isOnline, hoffline]; rfl
    simp only [run, Hosted.setPageOffline, hcurrent, Hosted.judge, hnot, Bool.false_eq_true,
      if_false]
    rfl
  | moveWidget haccepted =>
    simp only [run, Hosted.moveWidget, haccepted, Hosted.judge, if_true]
    rfl
  | removeWidget haccepted =>
    simp only [run, Hosted.removeWidget, haccepted]
    rfl

theorem Idle.isRedundant {site : Site} (hidle : Idle site command a) :
    command.IsRedundant site := by
  cases hidle with
  | @movePage code newParent page hpage haccepted =>
    simp only [Site.acceptMove, bind_eq_ok, Site.draftPage_eq_ok, pure_eq_ok] at haccepted
    obtain ⟨_, -, planned, hplan, heq⟩ := haccepted
    cases heq
    have hlookup : site.tree.siblings.lookup code = some page.toPlacement :=
      Tree.places_of_get? hpage
    obtain ⟨place, hplace, hparent⟩ :=
      Places.parentOf_eq_some_iff.1 (Siblings.parentOf_of_planReparent hplan)
    obtain rfl := Option.some.inj (hlookup.symm.trans hplace)
    exact .movePage hpage hparent
  | setPageOffline hpage hoffline => exact .setPageOffline hpage hoffline
  | moveWidget haccepted =>
    simp only [Site.acceptExchange, bind_eq_ok, Site.draftPage_eq_ok] at haccepted
    obtain ⟨page, hpage, occupant, hchecked, -⟩ := haccepted
    obtain ⟨hframe, -, hfree⟩ := Site.checkFrameFree_eq_ok_iff.1 hchecked
    exact .moveWidget hpage hframe hfree
  | removeWidget haccepted =>
    obtain ⟨page, hpage, hframe, hempty⟩ := Site.exists_page_of_acceptRemoval haccepted
    exact .removeWidget hpage hframe hempty.symm

end Command

namespace Hosted

variable {h : Hosted} {code : String} {page : Page}

/-- In a mirror of a tree a page may go where it is, which is planned as no move. -/
theorem IsMirrored.acceptMove_parent (hmirrored : h.IsMirrored)
    (hrooted : h.env.committed.places.IsRooted) (hpage : h.site.tree.get? code = some page)
    {parent : String} (hparent : page.parent = some parent) :
    h.site.acceptMove code parent = .ok (page, none) := by
  have hfollows := hmirrored.mirrors.follows
  have hlookup : h.site.tree.siblings.lookup = h.env.committed.places := hfollows.places
  have hplace := hmirrored.places_of_get? hpage
  have hchild := Places.parentOf_eq_some_iff.2 ⟨_, hplace, hparent⟩
  have hstored := hmirrored.linked.isSome_places hchild
  -- in a tree the parent of a page is neither the page nor below it
  have hout : ¬ (parent = code ∨ h.site.tree.siblings.isDescendant parent code = true) := by
    have hleads := hrooted.acyclic hchild
    rintro (rfl | hbelow)
    · exact hleads .refl
    · obtain ⟨q, hq, hlead⟩ := (Siblings.isDescendant_iff (Tree.isCounted_siblings _)).1 hbelow
      have hsame : h.site.tree.siblings.parentOf = h.env.committed.places.parentOf := by
        funext c
        rw [Siblings.parentOf, hlookup]
        rfl
      rw [hsame] at hq hlead
      exact hleads (.step hq hlead)
  have hplan : h.site.tree.siblings.planReparent code parent = .ok none := by
    unfold Siblings.planReparent
    rw [hlookup, hplace]
    dsimp only
    rw [if_neg (by simpa [Option.isSome_iff_ne_none] using hstored), hparent]
    dsimp only
    rw [if_neg hout, if_pos rfl]
  simp only [Site.acceptMove, bind_eq_ok, Site.draftPage_eq_ok, pure_eq_ok]
  exact ⟨page, hpage, none, hplan, rfl⟩

/-- In a mirror of a tree a redundant request finds everything as it asks for. -/
theorem IsMirrored.exists_idle (hmirrored : h.IsMirrored)
    (hrooted : h.env.committed.places.IsRooted) {command : Command}
    (hredundant : command.IsRedundant h.site) : ∃ a, Command.Idle h.site command a := by
  cases hredundant with
  | movePage hpage hparent =>
    exact ⟨_, .movePage hpage (hmirrored.acceptMove_parent hrooted hpage hparent)⟩
  | setPageOffline hpage hoffline => exact ⟨_, .setPageOffline hpage hoffline⟩
  | moveWidget hpage hframe hfree =>
    refine ⟨_, .moveWidget ?_⟩
    have hchecked := Site.checkFrameFree_eq_ok_iff.2 ⟨hframe, rfl, hfree⟩
    simp only [Site.acceptExchange, bind_eq_ok, Site.draftPage_eq_ok]
    exact ⟨_, hpage, _, hchecked, _, hchecked, rfl⟩
  | removeWidget hpage hframe hempty =>
    refine ⟨_, .removeWidget ?_⟩
    simp only [Site.acceptRemoval, bind_eq_ok, Site.draftPage_eq_ok]
    refine ⟨_, hpage, Site.checkFrameFree_eq_ok_iff.2 ⟨hframe, hempty.symm, fun w hw => ?_⟩⟩
    rw [hempty] at hw
    cases hw

end Hosted

theorem Command.run_of_isRedundant {h : Hosted} (hmirrored : h.IsMirrored)
    (hrooted : h.env.committed.places.IsRooted) {command : Command}
    (hredundant : command.IsRedundant h.site) (time : Timestamp) :
    ∃ a, command.run time h = (.ok a, h) := by
  obtain ⟨a, hidle⟩ := hmirrored.exists_idle hrooted hredundant
  exact ⟨a, run_of_idle hidle⟩

-- ════════════════════════════════════════════════════════════════════════
-- In a transaction
-- ════════════════════════════════════════════════════════════════════════

namespace Hosted

variable {h h' : Hosted} {code : String} {up : Bool}

theorem IsMirrored.exists_page_of_atEnd (hmirrored : h.IsMirrored)
    (hend : h.site.AtEnd code up) : ∃ page, h.site.tree.get? code = some page := by
  have hlisted : ∀ {parent : String}, code ∈ h.site.tree.children parent →
      ∃ page, h.site.tree.get? code = some page := by
    intro parent hmem
    obtain ⟨k, hseat⟩ := (hmirrored.mirrors.follows.children parent).mem_iff.1 hmem
    obtain ⟨place, hplace, -⟩ := Places.seat_eq_some_iff.1 hseat
    rw [← hmirrored.mirrors.follows.places] at hplace
    obtain ⟨page, hpage, -⟩ := Tree.places_eq_some_iff.1 hplace
    exact ⟨page, hpage⟩
  cases hend with
  | root hpage => exact ⟨_, hpage⟩
  | first hfirst => exact hlisted (List.mem_of_mem_head? hfirst)
  | last hlast => exact hlisted (List.mem_of_getLast? hlast)

/-- There is nothing to exchange a page at an end with. -/
theorem IsMirrored.planSwap_of_atEnd (hmirrored : h.IsMirrored) (hend : h.site.AtEnd code up) :
    h.env.committed.siblings.planSwap code up = .ok none := by
  have hchildren := hmirrored.mirrors.follows.children
  -- a listed page sits at the position after its index
  have hplan : ∀ {parent : String} {i : Nat}, (h.site.tree.children parent)[i]? = some code →
      (∀ target, target = (if up then (i : Int) + 1 - 1 else (i : Int) + 1 + 1) → ¬ target < 1 →
        h.env.committed.siblings.childAt parent target = none) →
      h.env.committed.siblings.planSwap code up = .ok none := by
    intro parent i hi hnone
    have hlookup : h.env.committed.siblings.lookup code = some ⟨code, some parent, i + 1⟩ :=
      hmirrored.ordered.place_of_seat (((hchildren parent).getElem?_iff i).1 hi)
    unfold Siblings.planSwap
    rw [hlookup]
    dsimp only
    generalize htarget : (if up = true then (i : Int) + 1 - 1 else (i : Int) + 1 + 1) = target
    split
    · rfl
    · next hlow =>
      rw [hnone target htarget.symm hlow]
      rfl
  cases hend with
  | root hpage hroot =>
    have hlookup : h.env.committed.siblings.lookup code = some _ := hmirrored.places_of_get? hpage
    unfold Siblings.planSwap
    rw [hlookup]
    dsimp only
    rw [hroot]
  | first hfirst =>
    rw [List.head?_eq_getElem?] at hfirst
    refine hplan hfirst fun target htarget hlow => ?_
    simp only [if_true] at htarget
    omega
  | @last parent hlast =>
    rw [List.getLast?_eq_getElem?] at hlast
    have hlength := (List.getElem?_eq_some_iff.1 hlast).1
    refine hplan hlast fun target htarget hlow => ?_
    simp only [Bool.false_eq_true, if_false] at htarget
    refine Option.eq_none_iff_forall_not_mem.2 fun c hc => ?_
    have hseat := (Tables.isExact_siblings hmirrored.ordered.filed).isFaithful.childAt _ _ _ hc
    have hposition := (hchildren parent).position_mem hseat
    omega

end Hosted

namespace Command

variable {h h' : Hosted} {time : Timestamp} {command : Command} {a : Answer}

theorem run_of_atEnd (hmirrored : h.IsMirrored) {code : String} {up : Bool}
    (hend : h.site.AtEnd code up) (time : Timestamp) :
    (Command.movePageStep code up).run time h = h.recommit (.moved false) := by
  obtain ⟨page, hpage⟩ := hmirrored.exists_page_of_atEnd hend
  have hcurrent : h.site.draftPage code = .ok page := Site.draftPage_eq_ok.2 hpage
  have hedit : RowEdit.swapPositions code up h.env.committed = .ok (none, h.env.committed) := by
    simp only [RowEdit.swapPositions, hmirrored.planSwap_of_atEnd hend]
    rfl
  simp only [run, Hosted.movePageStep, hcurrent, Hosted.judge, Hosted.transact,
    Environment.write, Environment.beginWrite, hedit, Hosted.recommit]
  cases h.env.commit ⟨h.env.lastTransaction + 1, h.env.committed⟩ with
  | mk outcome env =>
    cases outcome with
    | error e => rfl
    | ok number => rfl

/-- A request that succeeds is one commit, unless it finds everything as it asks for or only
    reads. -/
theorem lastTransaction_of_run (hrun : command.run time h = (.ok a, h')) :
    h'.env.lastTransaction = h.env.lastTransaction + 1 ∨ Idle h.site command a ∨
      command = .refresh := by
  cases effect_of_run hrun with
  | kept _ hidle => exact .inr (.inl (hidle a rfl))
  | refreshed => exact .inr (.inr rfl)
  | added _ _ hcommits | updated _ _ hcommits | regrouped _ _ hcommits | deleted _ _ hcommits
  | stayed _ _ hcommits | moved _ hcommits | unswapped _ hcommits | swapped _ hcommits
  | published _ hcommits | unpublished _ _ hcommits | joined _ _ _ _ hcommits
  | exchanged _ _ _ _ _ hcommits | removed _ _ _ hcommits =>
    exact .inl hcommits.env.lastTransaction

end Command

-- ════════════════════════════════════════════════════════════════════════
-- Runs
-- ════════════════════════════════════════════════════════════════════════

/-- What a site writes that opened on an empty store and is its only writer. A redundant request
    is answered and leaves everything as it is: the number of the last transaction, the order that
    a commit fails, the tables, the files, the site map and the events. A step of a page that has
    no neighbour leaves the site map and the events, but it commits the tables as they are. Every
    other request that succeeds and does not only read is exactly one commit. -/
theorem writes_unless_redundant {config : SiteConfig} {r : Registry} {time : Timestamp}
    {env env' : Environment} {site : Site} {steps : List Hosted.Step} {h : Hosted}
    (hvacant : env.IsVacant) (hopen : Site.openOn config r time env = (.ok site, env'))
    (hrun : Hosted.run ⟨env', site⟩ steps = h) (now : Timestamp) (command : Command) :
    (command.IsRedundant h.site → ∃ a, command.run now h = (.ok a, h)) ∧
      (∀ code up, command = .movePageStep code up → h.site.AtEnd code up →
        command.run now h = h.recommit (.moved false)) ∧
      ∀ a after, command.run now h = (.ok a, after) → command ≠ .refresh →
        ¬ command.IsRedundant h.site →
          after.env.lastTransaction = h.env.lastTransaction + 1 := by
  subst hrun
  have hrooted := Site.isRooted_run_of_openOn hvacant hopen steps
  obtain ⟨hmirrored, -⟩ := Site.isMirrored_run_of_openOn hvacant hopen steps
  generalize Hosted.run ⟨env', site⟩ steps = h at hrooted hmirrored
  refine ⟨fun hredundant => Command.run_of_isRedundant hmirrored hrooted hredundant now, ?_, ?_⟩
  · rintro code up rfl hend
    exact Command.run_of_atEnd hmirrored hend now
  · intro a after hanswer hwrites hnot
    rcases Command.lastTransaction_of_run hanswer with hnext | hidle | hreads
    · exact hnext
    · exact absurd hidle.isRedundant hnot
    · exact absurd hreads hwrites

/-- While a commit is ordered to fail, a page is moved below the parent that it has, which leaves
    the order, and the last child makes a step down, which does not. A page that goes online while
    there is no such order is one commit. -/
theorem writes_unless_redundant_sample :
    let steps : List Hosted.Step :=
      [.request .epoch (.addPage "homepage" "a" "free" (.empty "home" 2))]
    let h := Hosted.planted.run steps
    let armed := Hosted.planted.run (steps ++ [.failNextCommit])
    let published := (Command.setPageOnline "a").run .epoch h
    armed.env.failNext = true ∧
      (∃ a, (Command.movePage "a" "homepage").run .epoch armed = (.ok a, armed)) ∧
      (Command.movePageStep "a" false).run .epoch armed = armed.recommit (.moved false) ∧
      published.1.isOk = true ∧
      published.2.env.lastTransaction = h.env.lastTransaction + 1 := by
  intro steps h armed published
  obtain ⟨hmove, -⟩ := writes_unless_redundant Environment.isVacant_sample Site.openOn_sample
    (rfl : Hosted.planted.run (steps ++ [.failNextCommit]) = armed) .epoch
    (.movePage "a" "homepage")
  obtain ⟨-, hstep, -⟩ := writes_unless_redundant Environment.isVacant_sample Site.openOn_sample
    (rfl : Hosted.planted.run (steps ++ [.failNextCommit]) = armed) .epoch
    (.movePageStep "a" false)
  obtain ⟨-, -, hcounts⟩ := writes_unless_redundant Environment.isVacant_sample Site.openOn_sample
    (rfl : Hosted.planted.run steps = h) .epoch (.setPageOnline "a")
  have hbelow : (armed.site.tree.get? "a").any (fun page => page.parent = some "homepage") =
      true := by decide +kernel
  have hlast : (armed.site.tree.children "homepage").getLast? = some "a" := by decide +kernel
  have hanswered : published.1.isOk = true := by decide +kernel
  obtain ⟨page, hpage, hparent⟩ := (Option.any_eq_true _ _).1 hbelow
  refine ⟨by decide +kernel, hmove (.movePage hpage (of_decide_eq_true hparent)),
    hstep _ _ rfl (.last hlast), hanswered, ?_⟩
  obtain ⟨answer, hanswer⟩ : ∃ answer, published.1 = .ok answer := by
    generalize published.1 = outcome at hanswered
    cases outcome with
    | error e => cases hanswered
    | ok answer => exact ⟨answer, rfl⟩
  exact hcounts answer published.2 (Prod.ext hanswer rfl) nofun nofun

/-- The root page is asked to make a step, for which it has no neighbour. Nothing is exchanged,
    but a commit is counted; and while a commit is ordered to fail, it is the step that fails. -/
theorem step_at_end_is_committed :
    let step := Command.movePageStep "homepage" true
    let h := Hosted.planted
    let armed := h.run [.failNextCommit]
    h.site.AtEnd "homepage" true ∧ armed.site.AtEnd "homepage" true ∧
      (step.run .epoch h).1 = .ok (.moved false) ∧
      (step.run .epoch h).2.env.lastTransaction = h.env.lastTransaction + 1 ∧
      (step.run .epoch armed).1 = .error (.store .requestedFailure) ∧
      armed.env.failNext = true ∧ (step.run .epoch armed).2.env.failNext = false := by
  intro step h armed
  have hroot : (h.site.tree.get? "homepage").any (fun page => page.parent = none) = true := by
    decide +kernel
  obtain ⟨page, hpage, hnone⟩ := (Option.any_eq_true _ _).1 hroot
  have hend : h.site.AtEnd "homepage" true := .root hpage (of_decide_eq_true hnone)
  exact ⟨hend, hend, by decide +kernel, by decide +kernel, by decide +kernel, by decide +kernel,
    by decide +kernel⟩

end Sitemap
