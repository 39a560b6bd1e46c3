import Sitemap.Proofs.Site.Confinement
import Sitemap.Proofs.Site.Redundancy

/-!
# Requests as edits of lists

The statements number the children of a page, and the site map keeps them in lists, which it
filters and sorts again. To whoever asks, a request is an edit of these lists: it appends a page
to one, erases it from one, or lets it trade places with a neighbour. All other lists stay, and so
do the lists of all that lies below the page.

## Main definitions

- `Command.Rearranges` — the edit that a request is, by its answer
- `Command.IsStructural` — a request about the hierarchy of the pages
- `Tree.KeepsBelow` — the same pages below a page, with the same lists

## Main results

- `Command.Effect.rearranges` — the step: what a request does to the lists is its edit
- `Hosted.IsMirrored.planSwap_eq_none_iff` — when there is no neighbour to trade places with
- `request_edits_lists` — the same at every state that a site comes to
-/

namespace Sitemap

/-- The edit of the lists of children that a granted request is, by its answer. -/
def Command.Rearranges (l l' : Arrangement) : Command → Answer → Prop
  | .addPage parent code _ _, _ => l' = Function.update l parent (l parent ++ [code])
  | .deletePage code, _ =>
    ∃ parent, code ∈ l parent ∧ l' = Function.update l parent ((l parent).erase code)
  | .movePage code newParent, _ =>
    ∃ parent, code ∈ l parent ∧
      l' = if parent = newParent then l else
        Function.update (Function.update l parent ((l parent).erase code))
          newParent (l newParent ++ [code])
  | .movePageStep code up, .moved true =>
    ∃ parent codes, Arrangement.Trades code up (l parent) codes ∧
      l' = Function.update l parent codes
  | _, _ => l' = l

/-- A request about the hierarchy of the pages, not about their contents. -/
def Command.IsStructural : Command → Prop
  | .addPage _ _ _ _ | .deletePage _ | .movePage _ _ | .movePageStep _ _ => True
  | _ => False

/-- The same pages lie below a page, and each of them has the same list of children. -/
structure Tree.KeepsBelow (t t' : Tree) (code : String) : Prop where
  /-- Following parents leads to the page from the same pages. -/
  below : ∀ c, LeadsTo t'.places.parentOf code c ↔ LeadsTo t.places.parentOf code c
  /-- Their lists stay. -/
  children : ∀ c, LeadsTo t.places.parentOf code c → t'.children c = t.children c

namespace Command

variable {h h' : Hosted} {time : Timestamp} {command : Command} {a : Answer} {l l' : Arrangement}
  {code : String}

/-- A request leaves the order of all pages but the one that it is about. -/
theorem Rearranges.filter_eq (hedit : command.Rearranges l l' a) (hcode : command.code = some code)
    (parent : String) :
    (l' parent).filter (fun c => c ≠ code) = (l parent).filter fun c => c ≠ code := by
  have hupdate : ∀ {m : Arrangement} {q : String} {codes : List String},
      codes.filter (fun c => c ≠ code) = (m q).filter (fun c => c ≠ code) →
        (Function.update m q codes parent).filter (fun c => c ≠ code) =
          (m parent).filter fun c => c ≠ code := by
    intro m q codes hcodes
    rw [Function.update_apply]
    split
    · next heq => rw [hcodes, heq]
    · rfl
  have happend : ∀ codes : List String,
      (codes ++ [code]).filter (fun c => c ≠ code) = codes.filter fun c => c ≠ code := by
    intro codes
    simp
  cases command with
  | addPage q c group draft =>
    obtain rfl : c = code := Option.some.inj hcode
    obtain rfl := hedit
    exact hupdate (happend _)
  | deletePage c =>
    obtain rfl : c = code := Option.some.inj hcode
    obtain ⟨q, -, rfl⟩ := hedit
    exact hupdate (Arrangement.filter_erase c _)
  | movePage c newParent =>
    obtain rfl : c = code := Option.some.inj hcode
    obtain ⟨q, -, rfl⟩ := hedit
    split
    · rfl
    · next hne =>
      rw [hupdate, hupdate (Arrangement.filter_erase c _)]
      rw [Function.update_of_ne (Ne.symm hne)]
      exact happend _
  | movePageStep c up =>
    obtain rfl : c = code := Option.some.inj hcode
    cases a with
    | moved moved =>
      cases moved with
      | true =>
        obtain ⟨q, codes, htrades, rfl⟩ := hedit
        exact hupdate htrades.filter_eq
      | false => rw [show l' = l from hedit]
    | page | done => rw [show l' = l from hedit]
  | updatePage | updatePageGroup | setPageOnline | setPageOffline | joinWidget | moveWidget
  | removeWidget | refresh => rw [show l' = l from hedit]

/-- A request about the contents of pages keeps all places. -/
theorem Confines.places_eq {t t' : Tables} (hconfines : command.Confines t t')
    (hcontent : ¬ command.IsStructural) : t'.places = t.places := by
  cases command with
  | addPage | deletePage | movePage | movePageStep => exact absurd trivial hcontent
  | updatePageGroup code group =>
    rw [show t' = _ from hconfines]
    funext c
    unfold Tables.places
    dsimp only
    rw [Keyed.get?_modify]
    split
    · rw [Option.map_map]
      rfl
    · rfl
  | updatePage | setPageOffline => exact Tables.places_congr hconfines.pages
  | setPageOnline => exact Tables.places_congr hconfines.1
  | joinWidget | removeWidget | moveWidget => exact Tables.places_congr hconfines.1.pages
  | refresh => rw [show t' = t from hconfines]

/-- Where a request leaves the places of pages, it renumbers siblings only. -/
theorem Confines.shiftsSiblings {t t' : Tables} (hconfines : command.Confines t t')
    (hcode : command.code = some code) : t.places.ShiftsSiblings t'.places code := by
  by_cases hstructural : command.IsStructural
  · cases command with
    | addPage q c group draft | deletePage c =>
      obtain rfl : c = code := Option.some.inj hcode
      exact hconfines.2.places
    | movePage c q | movePageStep c up =>
      obtain rfl : c = code := Option.some.inj hcode
      exact hconfines.2.2.1.places
    | updatePage | updatePageGroup | setPageOnline | setPageOffline | joinWidget | moveWidget
    | removeWidget | refresh => exact hstructural.elim
  · rw [hconfines.places_eq hstructural]
    exact .refl _ _

/-- What a request does to the lists of children is its edit. -/
theorem Effect.rearranges (heffect : Effect h h' time command (.ok a)) (hmirrored : h.IsMirrored) :
    command.Rearranges h.site.tree.children h'.site.tree.children a := by
  have hordered := hmirrored.ordered
  have hfollows := hmirrored.mirrors.follows
  have hconfines := heffect.confined hmirrored
  have harranges : h.env.committed.places.seat.Arranges h.site.tree.children := hfollows.children
  have harranges' : h'.env.committed.places.seat.Arranges h'.site.tree.children :=
    (heffect.places hmirrored.isFollowed).2.children
  -- a request that keeps the places keeps the lists
  have hkept : h'.env.committed.places = h.env.committed.places →
      h'.site.tree.children = h.site.tree.children := by
    intro hplaces
    rw [hplaces] at harranges'
    exact harranges.unique harranges'
  have hlisted : ∀ {c q : String}, h.env.committed.places.parentOf c = some q →
      c ∈ h.site.tree.children q := by
    intro c q hparent
    obtain ⟨p, hp, hparent⟩ := Places.parentOf_eq_some_iff.1 hparent
    exact (harranges q).mem_iff.2 ⟨_, Places.seat_of_place hp hparent⟩
  cases heffect with
  | kept hkeeps hidle =>
    have hsame := hkept (congrArg Tables.places hkeeps.committed)
    have hidle := hidle a rfl
    cases hidle.isRedundant with
    | @movePage code parent page hpage hparent =>
      have hplace := hmirrored.places_of_get? hpage
      have hmem := hlisted (Places.parentOf_eq_some_iff.2 ⟨_, hplace, hparent⟩)
      exact ⟨parent, hmem, by rw [if_pos rfl, hsame]⟩
    | setPageOffline | moveWidget | removeWidget => exact hsame
  | refreshed hload henv => exact hkept (by rw [henv])
  | @added parent code group draft page stored t haccepted hedit hcommits =>
    obtain ⟨rfl, hparent, hfits, hplaces⟩ := hmirrored.isFollowed.fits_add haccepted hedit
    rw [hcommits.env.committed, hplaces] at harranges'
    exact (hfits.arranges_add harranges hparent).unique harranges'
  | updated | regrouped | published | unpublished | joined | exchanged | removed =>
    exact hkept (hconfines.places_eq id)
  | @deleted code page t u haccepted hedit hcommits =>
    obtain ⟨parent, -, -, hfits, hplaces⟩ := hmirrored.isFollowed.fits_drop haccepted hedit
    rw [hcommits.env.committed, hplaces] at harranges'
    obtain ⟨hmem, hdropped⟩ := hfits.arranges_drop harranges
    exact ⟨parent, hmem, hdropped.unique harranges'⟩
  | @stayed code newParent page t hpage hedit hcommits =>
    have hsame := RowEdit.places_of_movePage hordered hedit
    have hparent := Siblings.parentOf_of_planReparent (RowEdit.plan_of_movePage hedit)
    refine ⟨newParent, hlisted hparent, ?_⟩
    rw [if_pos rfl]
    exact hkept (by rw [hcommits.env.committed, hsame])
  | @moved code newParent plan page t hedit hcommits hpage =>
    obtain ⟨rfl, rfl, hfits, hplaces⟩ := RowEdit.places_of_movePage hordered hedit
    rw [hcommits.env.committed, hplaces] at harranges'
    obtain ⟨hne, hmem, hmoved⟩ := hfits.arranges_reparent harranges
    refine ⟨plan.oldParent, hmem, ?_⟩
    rw [if_neg hne]
    exact hmoved.unique harranges'
  | unswapped hedit hcommits =>
    have hsame := RowEdit.places_of_swapPositions hordered hedit
    exact hkept (by rw [hcommits.env.committed, hsame])
  | @swapped code up plan t hedit hcommits =>
    obtain ⟨-, hfits, hplaces⟩ := RowEdit.places_of_swapPositions hordered hedit
    obtain ⟨-, hcode⟩ := Siblings.fits_of_planSwap (Tables.isExact_siblings hordered.filed).isFaithful
      hordered (RowEdit.plan_of_swapPositions hedit)
    rw [hcommits.env.committed, hplaces] at harranges'
    obtain ⟨parent, front, back, hlist, hswapped⟩ := hfits.arranges_swap harranges
    refine ⟨parent, _, ?_, hswapped.unique harranges'⟩
    rw [hlist, ← hcode]
    cases up with
    | true => exact .up front plan.down back
    | false => exact .down front plan.up back

/-- What lies below the page of a request stays as it is. -/
theorem Effect.keepsBelow (heffect : Effect h h' time command (.ok a)) (hmirrored : h.IsMirrored)
    (hrooted : h.env.committed.places.IsRooted) (hcode : command.code = some code) :
    h.site.tree.KeepsBelow h'.site.tree code := by
  have hfollows := hmirrored.mirrors.follows
  obtain ⟨hfollow, hfollows'⟩ := heffect.places hmirrored.isFollowed
  have hshifts := (heffect.confined hmirrored).shiftsSiblings hcode
  have hrooted' := hfollow.isRooted hrooted
  constructor
  · intro c
    rw [hfollows.places, hfollows'.places]
    exact hshifts.leadsTo_iff
  · intro c hbelow
    rw [hfollows.places] at hbelow
    have hlist := hshifts.lists_below (fun _ => hrooted.acyclic) (fun _ => hrooted'.acyclic) hbelow
      (hfollows.children c)
    exact (hfollows'.children c).unique hlist

end Command

-- ════════════════════════════════════════════════════════════════════════
-- Steps to a neighbour
-- ════════════════════════════════════════════════════════════════════════

namespace Hosted.IsMirrored

variable {h : Hosted} {code : String} {up : Bool}

/-- Where nothing is planned for a step, the page has no neighbour on that side. -/
theorem atEnd_of_planSwap (hmirrored : h.IsMirrored)
    (hplan : h.env.committed.siblings.planSwap code up = .ok none) : h.site.AtEnd code up := by
  have hfollows := hmirrored.mirrors.follows
  unfold Siblings.planSwap at hplan
  split at hplan
  · cases hplan
  · next place hplace =>
    change h.env.committed.places code = some place at hplace
    split at hplan
    · next hroot =>
      rw [← hfollows.places] at hplace
      obtain ⟨page, hpage, rfl⟩ := Tree.places_eq_some_iff.1 hplace
      exact .root hpage hroot
    · next parent hparent =>
      have hlist := hfollows.children parent
      obtain ⟨i, hi, hposition⟩ := (hlist code _).1 (Places.seat_of_place hplace hparent)
      have hlength := (List.getElem?_eq_some_iff.1 hi).1
      dsimp only at hplan
      generalize htarget : (if up then place.position - 1 else place.position + 1) = target at hplan
      -- a child at the position that the page would go to had been found
      have hvacant : ∀ j : Nat, target = j + 1 → (h.site.tree.children parent).length ≤ j := by
        intro j hj
        by_contra hlt
        have hchild := (hlist.getElem?_iff j).1 (List.getElem?_eq_getElem (by omega))
        obtain ⟨neighbour, hneighbour⟩ :=
          Option.isSome_iff_exists.1
            (Tables.isSome_childAt hmirrored.ordered.filed hchild)
        rw [if_neg (by omega), hj, hneighbour] at hplan
        cases hplan
      cases up with
      | true =>
        rw [if_pos rfl] at htarget
        by_cases hzero : i = 0
        · subst hzero
          exact .first (List.head?_eq_getElem?.trans hi)
        · have := hvacant (i - 1) (by omega)
          omega
      | false =>
        rw [if_neg Bool.false_ne_true] at htarget
        have := hvacant (i + 1) (by omega)
        have hlast : (h.site.tree.children parent).length - 1 = i := by omega
        exact .last (List.getLast?_eq_getElem?.trans (hlast ▸ hi))

/-- Nothing is planned for a step exactly where the page has no neighbour on that side. -/
theorem planSwap_eq_none_iff (hmirrored : h.IsMirrored) :
    h.env.committed.siblings.planSwap code up = .ok none ↔ h.site.AtEnd code up :=
  ⟨hmirrored.atEnd_of_planSwap, hmirrored.planSwap_of_atEnd⟩

end Hosted.IsMirrored

namespace Command

variable {h h' : Hosted} {time : Timestamp} {code : String} {up moved : Bool}

/-- A step is answered with whether there was a neighbour. -/
theorem Effect.moved_iff
    (heffect : Effect h h' time (.movePageStep code up) (.ok (.moved moved)))
    (hmirrored : h.IsMirrored) : moved = false ↔ h.site.AtEnd code up := by
  rw [← hmirrored.planSwap_eq_none_iff]
  cases heffect with
  | kept hkeeps hidle => cases hidle _ rfl
  | unswapped hedit hcommits => simp [RowEdit.plan_of_swapPositions hedit]
  | swapped hedit hcommits => simp [RowEdit.plan_of_swapPositions hedit]

/-- A step of a page that is shown is answered, where tables can be stored. -/
theorem exists_run_movePageStep (hmirrored : h.IsMirrored) (hstore : h.env.CanStore)
    (hshown : (h.site.tree.get? code).isSome) (up : Bool) (time : Timestamp) :
    ∃ moved after, (Command.movePageStep code up).run time h = (.ok (.moved moved), after) := by
  obtain ⟨page, hpage⟩ := Option.isSome_iff_exists.1 hshown
  have hverdict : (Command.movePageStep code up).verdict h.site = .ok () := by
    rw [verdict, Site.draftPage_eq_ok.2 hpage]
    rfl
  obtain ⟨a, after, hrun⟩ := exists_run_of_verdict hmirrored hstore hverdict time
  obtain ⟨moved, -, rfl⟩ := ok_of_answer hrun
  exact ⟨moved, after, hrun⟩

end Command

-- ════════════════════════════════════════════════════════════════════════
-- Runs
-- ════════════════════════════════════════════════════════════════════════

/-- Whatever a site has been asked for since it opened on an empty store, a request is an edit of
    the lists of children, and one that is refused edits nothing. All other pages stay in their
    order, and what lies below the page that the request is about stays as it is. A step is
    answered with whether there was a neighbour to trade places with. The rows of the children
    of a page, ordered by position, name its list. -/
theorem request_edits_lists {config : SiteConfig} {r : Registry} {time : Timestamp}
    {env env' : Environment} {site : Site} {steps : List Hosted.Step} {h : Hosted}
    (hvacant : env.IsVacant) (hopen : Site.openOn config r time env = (.ok site, env'))
    (hrun : Hosted.run ⟨env', site⟩ steps = h) (now : Timestamp) (command : Command) :
    (∀ a after, command.run now h = (.ok a, after) →
        command.Rearranges h.site.tree.children after.site.tree.children a ∧
          ∀ code, command.code = some code →
            (∀ parent, (after.site.tree.children parent).filter (fun c => c ≠ code) =
              (h.site.tree.children parent).filter fun c => c ≠ code) ∧
            h.site.tree.KeepsBelow after.site.tree code) ∧
      (∀ e after, command.run now h = (.error e, after) →
        after.site.tree.children = h.site.tree.children) ∧
      (∀ code up, command = .movePageStep code up →
        (∀ moved after, command.run now h = (.ok (.moved moved), after) →
          (moved = false ↔ h.site.AtEnd code up)) ∧
        ((h.site.tree.get? code).isSome → h.env.CanStore →
          ∃ moved after, command.run now h = (.ok (.moved moved), after))) ∧
      ∀ parent, ((h.env.committed.childRows parent).mergeSort
        fun a b => a.position ≤ b.position).map (fun row => row.code) =
          h.site.tree.children parent := by
  subst hrun
  have hrooted := Site.isRooted_run_of_openOn hvacant hopen steps
  obtain ⟨hmirrored, -⟩ := Site.isMirrored_run_of_openOn hvacant hopen steps
  generalize Hosted.run ⟨env', site⟩ steps = h at hrooted hmirrored
  refine ⟨?_, ?_, ?_, ?_⟩
  · intro a after hanswer
    have heffect := Command.effect_of_run hanswer
    have hedit := heffect.rearranges hmirrored
    exact ⟨hedit, fun code hcode =>
      ⟨hedit.filter_eq hcode, heffect.keepsBelow hmirrored hrooted hcode⟩⟩
  · intro e after hrefused
    rw [(Command.refuses_of_run hrefused).keeps.tree]
  · rintro code up rfl
    exact ⟨fun moved after hanswer => (Command.effect_of_run hanswer).moved_iff hmirrored,
      fun hshown hstore => Command.exists_run_movePageStep hmirrored hstore hshown up now⟩
  · intro parent
    exact Tables.code_sorted_childRows hmirrored.ordered.filed
      (hmirrored.mirrors.follows.children parent)

/-- The first of three pages, which has a child of its own, moves below the last one, which has
    one, too. Before that, the page cannot make a step up, since nothing stands before it. -/
theorem request_edits_lists_sample :
    let steps : List Hosted.Step :=
      [.request .epoch (.addPage "homepage" "a" "free" (.empty "home" 2)),
        .request .epoch (.addPage "homepage" "b" "free" (.empty "home" 2)),
        .request .epoch (.addPage "homepage" "c" "free" (.empty "home" 2)),
        .request .epoch (.addPage "a" "below" "free" (.empty "home" 2)),
        .request .epoch (.addPage "c" "first" "free" (.empty "home" 2))]
    let h := Hosted.planted.run steps
    let step := (Command.movePageStep "a" true).run .epoch h
    let move := (Command.movePage "a" "c").run .epoch h
    step.1 = .ok (.moved false) ∧ h.site.AtEnd "a" true ∧ move.1.isOk = true ∧
      (move.2.site.tree.get? "b").map (·.position) = some 1 ∧
      move.2.site.tree.children "c" = ["first", "a"] ∧
      h.site.tree.KeepsBelow move.2.site.tree "a" ∧
      ((h.env.committed.childRows "c").mergeSort
        fun a b => a.position ≤ b.position).map (fun row => row.code) = ["first"] := by
  intro steps h step move
  have hstep : step.1 = .ok (.moved false) := by decide +kernel
  have hmove : move.1.isOk = true := by decide +kernel
  have hfirst : h.site.tree.children "c" = ["first"] := by decide +kernel
  obtain ⟨a, ha⟩ := isOk_iff.1 hmove
  obtain ⟨-, -, hsteps, hrows⟩ := request_edits_lists Environment.isVacant_sample
    Site.openOn_sample (rfl : Hosted.planted.run steps = h) .epoch (.movePageStep "a" true)
  obtain ⟨hedits, -⟩ := request_edits_lists Environment.isVacant_sample Site.openOn_sample
    (rfl : Hosted.planted.run steps = h) .epoch (.movePage "a" "c")
  obtain ⟨⟨parent, hmem, hmoved⟩, hleaves⟩ := hedits a move.2 (Prod.ext ha rfl)
  obtain ⟨-, hbelow⟩ := hleaves "a" rfl
  obtain ⟨hanswered, -⟩ := hsteps "a" true rfl
  have hne : parent ≠ "c" := by
    rintro rfl
    rw [hfirst] at hmem
    simp at hmem
  refine ⟨hstep, (hanswered false step.2 (Prod.ext hstep rfl)).1 rfl, hmove, by decide +kernel,
    ?_, hbelow, ?_⟩
  · rw [hmoved, if_neg hne, Function.update_self, hfirst]
    rfl
  · rw [hrows, hfirst]

end Sitemap
