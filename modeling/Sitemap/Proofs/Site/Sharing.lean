import Sitemap.Proofs.Rows.Shape
import Sitemap.Proofs.Site.Shape
import Sitemap.Site.Shared

/-!
# Sites that share an environment

Several sites and direct edits take turns on one environment, and a site learns nothing of what
the others write. Nearly all of them compute what they write from the rows at hand, so the rows
stay a tree. A request to replace a draft does not: it writes the parent that the site map
shows, whatever has become of the page since. This module says exactly which steps do harm.

## Main definitions

- `Command.IsHarmless`, `Edit.IsHarmless`, `Shared.IsHarmless` — steps that leave the rows sound
- `Places.HingesOn` — the places are a tree if something holds, and not even sound otherwise
- `Tree.SparesRoot` — a site map shows no parent for the root
- `Shared.IsSeeded` — the rows are a tree, and no site shows a parent for its root

## Main results

- `Edit.hingesOn`, `Command.hingesOn_of_run` — what one edit and one request lead to hinges on
  whether they are harmless
- `Shared.IsSeeded.step`, `Shared.isSound_run_iff` — the same of a step, and of a run
- `shared_rows_sound_iff` — runs from a store that was just planted
-/

namespace Sitemap

/-- A request does no harm, unless it replaces the draft of a page and its site shows a parent
    for the page that the rows do not admit. -/
def Command.IsHarmless (h : Hosted) (time : Timestamp) : Command → Prop
  | .updatePage code draft => ∀ page a h', h.site.tree.get? code = some page →
      (Command.updatePage code draft).run time h = (.ok a, h') →
      h.env.committed.places.Admits page.code page.parent
  | _ => True

/-- A direct edit does no harm, unless it adds a page that is not below another one, deletes the
    root, or writes a parent that the rows do not admit. -/
def Edit.IsHarmless (env : Environment) (r : Registry) (time : Timestamp) (edit : Edit) : Prop :=
  ∀ reply env', env.edit r time edit = (.ok reply, env') →
    match edit with
    | .addPage page => ∃ parent, page.parent = some parent ∧ parent ≠ page.code
    | .deletePage code => (env.committed.places.parentOf code).isSome
    | .updatePage page => env.committed.places.Admits page.code page.parent
    | _ => True

/-- A step does no harm when its request or its edit does none. -/
def Shared.IsHarmless (s : Shared) : Shared.Step → Prop
  | .request number time command => ∀ site, s.sites[number]? = some site →
      command.IsHarmless ⟨s.env, site⟩ time
  | .edit r time edit => edit.IsHarmless s.env r time
  | .join _ _ _ | .failNextCommit => True

/-- The places are a tree if `harmless` holds, and are not even sound otherwise. -/
structure Places.HingesOn (s : Places) (top : String) (harmless : Prop) : Prop where
  isTree : harmless → s.IsTree top
  holds : s.IsSound → harmless

/-- A site map shows no parent for the page `top`. -/
def Tree.SparesRoot (t : Tree) (top : String) : Prop :=
  t.places.parentOf top = none

/-- The rows are a tree, and no site shows a parent for its root. -/
structure Shared.IsSeeded (s : Shared) (top : String) : Prop where
  rows : s.env.committed.places.IsTree top
  sites : ∀ site ∈ s.sites, site.tree.SparesRoot top

/-- A site map that follows a tree shows no parent for its root. -/
theorem Tree.Follows.sparesRoot {t : Tree} {s : Places} {top : String} (h : t.Follows s)
    (htree : s.IsTree top) : t.SparesRoot top := by
  rw [SparesRoot, h.places]
  exact htree.parentOf_root

/-- A tree after a step that does no harm. -/
theorem Places.IsTree.hingesOn {s : Places} {top : String} {harmless : Prop}
    (htree : s.IsTree top) (hharmless : harmless) : s.HingesOn top harmless :=
  ⟨fun _ => htree, fun _ => hharmless⟩

-- ════════════════════════════════════════════════════════════════════════
-- Direct edits
-- ════════════════════════════════════════════════════════════════════════

/-- From a tree, what a direct edit leads to hinges on whether it is harmless. -/
theorem Edit.hingesOn {env env' : Environment} {r : Registry} {time : Timestamp}
    {edit : Edit} {reply : EditReply} {top : String} (htree : env.committed.places.IsTree top)
    (h : env.edit r time edit = (.ok reply, env')) :
    env'.committed.places.HingesOn top (edit.IsHarmless env r time) := by
  obtain ⟨t, hrun, hcommits⟩ := Environment.commits_of_write h
  have hlinked := Tables.checkReferences_eq_ok.1 hcommits.checked
  rw [hcommits.committed]
  cases edit with
  | addPage page =>
    obtain ⟨⟨stored, _⟩, hedit, heq⟩ := map_eq_ok.1 hrun
    cases heq
    constructor
    · intro hharmless
      obtain ⟨parent, hparent, hne⟩ := hharmless _ _ h
      exact RowEdit.isTree_of_addPage htree hlinked hparent hne hedit
    · intro hsound _ _ _
      exact RowEdit.parent_of_addPage htree hsound hedit
  | deletePage code =>
    obtain ⟨⟨u, _⟩, hedit, heq⟩ := map_eq_ok.1 hrun
    cases heq
    constructor
    · intro hharmless
      obtain ⟨parent, hparent⟩ := Option.isSome_iff_exists.1 (hharmless _ _ h)
      exact RowEdit.isTree_of_deletePage htree hparent hedit
    · intro hsound _ _ _
      exact RowEdit.parentOf_of_deletePage htree hsound hedit
  | updatePage page =>
    obtain ⟨⟨draft, _⟩, hedit, heq⟩ := map_eq_ok.1 hrun
    cases heq
    constructor
    · intro hharmless
      exact RowEdit.isTree_of_updatePage htree hlinked (hharmless _ _ h) hedit
    · intro hsound _ _ _
      exact RowEdit.admits_of_updatePage htree hsound hedit
  | movePage code newParent =>
    obtain ⟨⟨moved, _⟩, hedit, heq⟩ := map_eq_ok.1 hrun
    cases heq
    exact (RowEdit.isTree_of_movePage htree hedit).hingesOn fun _ _ _ => trivial
  | swapPositions code up =>
    obtain ⟨⟨swapped, _⟩, hedit, heq⟩ := map_eq_ok.1 hrun
    cases heq
    exact (RowEdit.isTree_of_swapPositions htree hedit).hingesOn fun _ _ _ => trivial
  | updatePageGroup code group =>
    obtain ⟨⟨u, _⟩, hedit, heq⟩ := map_eq_ok.1 hrun
    cases heq
    rw [RowEdit.places_of_updatePageGroup hedit]
    exact htree.hingesOn fun _ _ _ => trivial
  | setPageOnline code =>
    obtain ⟨⟨stamp, _⟩, hedit, heq⟩ := map_eq_ok.1 hrun
    cases heq
    rw [Tables.places_congr (RowEdit.pages_of_setPageOnline hedit)]
    exact htree.hingesOn fun _ _ _ => trivial
  | setPageOffline code =>
    obtain ⟨⟨u, _⟩, hedit, heq⟩ := map_eq_ok.1 hrun
    cases heq
    rw [Tables.places_congr (RowEdit.pages_of_setPageOffline hedit)]
    exact htree.hingesOn fun _ _ _ => trivial
  | joinWidget code frame w =>
    obtain ⟨⟨stamp, _⟩, hedit, heq⟩ := map_eq_ok.1 hrun
    cases heq
    rw [Tables.places_congr (RowEdit.pages_of_joinWidget hedit)]
    exact htree.hingesOn fun _ _ _ => trivial
  | removeWidget code frame =>
    obtain ⟨⟨stamp, _⟩, hedit, heq⟩ := map_eq_ok.1 hrun
    cases heq
    rw [Tables.places_congr (RowEdit.pages_of_removeWidget hedit)]
    exact htree.hingesOn fun _ _ _ => trivial
  | moveWidget code source target =>
    obtain ⟨⟨stamp, _⟩, hedit, heq⟩ := map_eq_ok.1 hrun
    cases heq
    rw [Tables.places_congr (RowEdit.pages_of_moveWidget hedit)]
    exact htree.hingesOn fun _ _ _ => trivial

/-- From a tree, an edit that fails leads nowhere else, and does no harm. -/
theorem Edit.hingesOn_of_error {env env' : Environment} {r : Registry} {time : Timestamp}
    {edit : Edit} {e : Error} {top : String} (htree : env.committed.places.IsTree top)
    (h : env.edit r time edit = (.error e, env')) :
    env'.committed.places.HingesOn top (edit.IsHarmless env r time) := by
  rw [(Environment.refuses_of_edit h).committed]
  refine htree.hingesOn fun reply env'' hok => ?_
  rw [h] at hok
  cases hok

-- ════════════════════════════════════════════════════════════════════════
-- Requests
-- ════════════════════════════════════════════════════════════════════════

namespace Command

variable {h h' : Hosted} {time : Timestamp} {command : Command}
  {outcome : Except Error Answer} {top : String}

/-- From a tree, a request leads to a tree, unless it replaces a draft: whatever the site map
    shows, the rest is computed from the rows. -/
theorem Effect.isTree (heffect : Effect h h' time command outcome)
    (htree : h.env.committed.places.IsTree top) (hspares : h.site.tree.SparesRoot top)
    (hother : ∀ code draft, command ≠ .updatePage code draft) :
    h'.env.committed.places.IsTree top := by
  cases heffect with
  | kept hkeeps =>
    rw [hkeeps.committed]
    exact htree
  | refreshed _ henv =>
    rw [henv]
    exact htree
  | @added parent code group draft page stored t haccepted hedit hcommits =>
    obtain ⟨hparent, hnew, hcode, hbelow, -⟩ := Site.acceptNewPage_spec haccepted
    have hne : parent ≠ page.code := by
      rintro rfl
      rw [hcode, hnew] at hparent
      cases hparent
    rw [hcommits.env.committed]
    exact RowEdit.isTree_of_addPage htree (Tables.checkReferences_eq_ok.1 hcommits.env.checked)
      hbelow hne hedit
  | @updated code draft => exact absurd rfl (hother code draft)
  | regrouped _ hedit hcommits =>
    rw [hcommits.env.committed, RowEdit.places_of_updatePageGroup hedit]
    exact htree
  | @deleted code page t u haccepted hedit hcommits =>
    obtain ⟨hpage, parent, hparent⟩ := Site.acceptDeletion_spec haccepted
    -- the site map shows a parent for the page, so it is not the root
    have hne : code ≠ top := by
      rintro rfl
      have hshown : h.site.tree.places.parentOf code = some parent :=
        Places.parentOf_eq_some_iff.2 ⟨_, Tree.places_of_get? hpage, hparent⟩
      rw [hspares] at hshown
      cases hshown
    obtain ⟨row, hrow, -⟩ := RowEdit.pages_of_deletePage hedit
    have hstored : (h.env.committed.places code).isSome := by
      rw [Tables.places_of_row hrow]
      rfl
    obtain ⟨q, hq⟩ := htree.exists_parent hstored hne
    rw [hcommits.env.committed]
    exact RowEdit.isTree_of_deletePage htree hq hedit
  | stayed _ hedit hcommits | moved hedit hcommits =>
    rw [hcommits.env.committed]
    exact RowEdit.isTree_of_movePage htree hedit
  | unswapped hedit hcommits | swapped hedit hcommits =>
    rw [hcommits.env.committed]
    exact RowEdit.isTree_of_swapPositions htree hedit
  | published hedit hcommits =>
    rw [hcommits.env.committed, Tables.places_congr (RowEdit.pages_of_setPageOnline hedit)]
    exact htree
  | unpublished _ hedit hcommits =>
    rw [hcommits.env.committed, Tables.places_congr (RowEdit.pages_of_setPageOffline hedit)]
    exact htree
  | joined _ _ _ hedit hcommits =>
    rw [hcommits.env.committed, Tables.places_congr (RowEdit.pages_of_joinWidget hedit)]
    exact htree
  | exchanged _ _ _ _ hedit hcommits =>
    rw [hcommits.env.committed, Tables.places_congr (RowEdit.pages_of_moveWidget hedit)]
    exact htree
  | removed _ _ hedit hcommits =>
    rw [hcommits.env.committed, Tables.places_congr (RowEdit.pages_of_removeWidget hedit)]
    exact htree

/-- A request leaves the site map without a parent for the root. -/
theorem Effect.sparesRoot (heffect : Effect h h' time command outcome)
    (htree : h.env.committed.places.IsTree top) (hspares : h.site.tree.SparesRoot top) :
    h'.site.tree.SparesRoot top := by
  have hkept : ∀ {code : String} {f : Page → Page},
      (∀ p, (f p).toPlacement = p.toPlacement) → (h.site.tree.edit code f).SparesRoot top := by
    intro code f hf
    rw [Tree.SparesRoot, Tree.places_edit hf]
    exact hspares
  cases heffect with
  | kept hkeeps =>
    rw [hkeeps.tree]
    exact hspares
  | refreshed hload henv hshown =>
    rw [hshown]
    exact (Tables.mirrors_ofPages htree.toIsOrdered hload).follows.sparesRoot htree
  | @added parent code group draft page stored t haccepted hedit hcommits =>
    obtain ⟨hfree, hcode, -⟩ := RowEdit.places_of_newPage hedit
    have hne : top ≠ stored.code := by
      rintro rfl
      rw [← hcode, htree.root] at hfree
      cases hfree
    rw [hcommits.tree, Tree.SparesRoot, Tree.places_insert, Places.parentOf_add, if_neg hne]
    exact hspares
  | updated _ _ hcommits | regrouped _ _ hcommits =>
    rw [hcommits.tree]
    exact hkept fun _ => rfl
  | @deleted code page t u haccepted hedit hcommits =>
    obtain ⟨hpage, parent, hparent⟩ := Site.acceptDeletion_spec haccepted
    rw [hcommits.tree, Tree.SparesRoot, Tree.places_remove hpage hparent, Places.parentOf_drop]
    split
    · rfl
    · exact hspares
  | stayed _ _ hcommits | unswapped _ hcommits =>
    rw [hcommits.tree]
    exact hspares
  | moved hedit hcommits =>
    obtain ⟨-, -, hfits, -⟩ := RowEdit.places_of_movePage htree.toIsOrdered hedit
    have hne := hfits.code_ne_of_root htree.root
    rw [hcommits.tree, Tree.SparesRoot, Tree.places_applyReparent,
      Places.parentOf_reparent_of_ne hne]
    exact hspares
  | swapped hedit hcommits =>
    obtain ⟨-, hfits, -⟩ := RowEdit.places_of_swapPositions htree.toIsOrdered hedit
    rw [hcommits.tree, Tree.SparesRoot, Tree.places_applySwap _ _ hfits.ne_of_swap,
      Places.parentOf_swap]
    exact hspares
  | published _ hcommits | unpublished _ _ hcommits | joined _ _ _ _ hcommits
  | exchanged _ _ _ _ _ hcommits | removed _ _ _ hcommits =>
    rw [hcommits.tree]
    exact hkept fun _ => rfl

/-- From a tree, what a request leads to hinges on whether it is harmless. -/
theorem hingesOn_of_run (htree : h.env.committed.places.IsTree top)
    (hspares : h.site.tree.SparesRoot top) (hrun : command.run time h = (outcome, h')) :
    h'.env.committed.places.HingesOn top (command.IsHarmless h time) := by
  by_cases hupdate : ∃ code draft, command = .updatePage code draft
  · obtain ⟨code, draft, rfl⟩ := hupdate
    cases outcome with
    | error e =>
      rw [(refuses_of_run hrun).env.committed]
      refine htree.hingesOn fun page a h'' _ hok => ?_
      rw [hrun] at hok
      cases hok
    | ok a =>
      obtain ⟨page, stored, t, haccepted, hedit, hcommits, -⟩ := updated_of_run hrun
      obtain ⟨current, hcurrent, hpage, -⟩ := Site.acceptDraft_spec haccepted
      -- the page is written with the code and the parent that the site map shows
      have hplace : page.toPlacement = current.toPlacement := by rw [hpage]
      rw [hcommits.env.committed]
      constructor
      · intro hharmless
        have hadmits := hharmless current a h' hcurrent hrun
        rw [← hplace] at hadmits
        exact RowEdit.isTree_of_updatePage htree
          (Tables.checkReferences_eq_ok.1 hcommits.env.checked) hadmits hedit
      · intro hsound shown _ _ hshown _
        obtain rfl : current = shown := Option.some.inj (hcurrent.symm.trans hshown)
        rw [← hplace]
        exact RowEdit.admits_of_updatePage htree hsound hedit
  · have hother : ∀ code draft, command ≠ .updatePage code draft :=
      fun code draft heq => hupdate ⟨code, draft, heq⟩
    refine ⟨fun _ => (effect_of_run hrun).isTree htree hspares hother, fun _ => ?_⟩
    cases command with
    | updatePage code draft => exact absurd rfl (hother code draft)
    | _ => trivial

end Command

-- ════════════════════════════════════════════════════════════════════════
-- Runs
-- ════════════════════════════════════════════════════════════════════════

namespace Shared

variable {s : Shared} {top : String}

/-- What a step leads to hinges on whether it is harmless, and no site shows a parent for the
    root after it. -/
theorem IsSeeded.step (h : s.IsSeeded top) (step : Step) :
    (s.step step).env.committed.places.HingesOn top (s.IsHarmless step) ∧
      ∀ site ∈ (s.step step).sites, site.tree.SparesRoot top := by
  obtain ⟨htree, hsites⟩ := h
  cases step with
  | request number time command =>
    unfold Shared.step IsHarmless
    dsimp only
    cases hsite : s.sites[number]? with
    | none => exact ⟨htree.hingesOn (fun _ heq => nomatch heq), hsites⟩
    | some site =>
      have hspares := hsites site (List.mem_of_getElem? hsite)
      have hrun : command.run time ⟨s.env, site⟩ = (_, _) := Prod.ext rfl rfl
      obtain ⟨hkeeps, hbreaks⟩ := Command.hingesOn_of_run htree hspares hrun
      refine ⟨⟨fun hharmless => hkeeps (hharmless site rfl), fun hsound other heq => ?_⟩,
        fun other hother => ?_⟩
      · obtain rfl := Option.some.inj heq
        exact hbreaks hsound
      · rcases List.mem_or_eq_of_mem_set hother with hold | rfl
        · exact hsites other hold
        · exact (Command.effect_of_run hrun).sparesRoot htree hspares
  | edit r time edit =>
    refine ⟨?_, hsites⟩
    cases hedit : (s.env.edit r time edit).1 with
    | error e => exact Edit.hingesOn_of_error htree (Prod.ext hedit rfl)
    | ok reply => exact Edit.hingesOn htree (Prod.ext hedit rfl)
  | join config r time =>
    have hstored : (s.env.committed.places top).isSome := by
      rw [htree.root]
      rfl
    unfold Shared.step IsHarmless
    dsimp only
    split
    · next site env hopen =>
      obtain ⟨rfl, hshown⟩ := Site.openOn_of_stored hstored hopen
      refine ⟨htree.hingesOn trivial, fun other hother => ?_⟩
      rcases List.mem_append.1 hother with hold | hnew
      · exact hsites other hold
      · obtain rfl := List.mem_singleton.1 hnew
        obtain ⟨pages, hload, htreeOf⟩ := hshown other rfl
        rw [htreeOf]
        exact (Tables.mirrors_ofPages htree.toIsOrdered hload).follows.sparesRoot htree
    · next e env hopen =>
      obtain ⟨rfl, -⟩ := Site.openOn_of_stored hstored hopen
      exact ⟨htree.hingesOn trivial, hsites⟩
  | failNextCommit => exact ⟨htree.hingesOn trivial, hsites⟩

/-- The rows stay sound along a run exactly as long as no step does harm. -/
theorem isSound_run_iff (h : s.IsSeeded top) (steps : List Step) :
    (∀ n, (s.run (steps.take n)).env.committed.places.IsSound) ↔
      ∀ n step, steps[n]? = some step → (s.run (steps.take n)).IsHarmless step := by
  induction steps generalizing s with
  | nil =>
    refine iff_of_true (fun n => ?_) fun n step hstep => nomatch hstep
    rw [List.take_nil]
    exact h.rows.isSound
  | cons first steps ih =>
    obtain ⟨⟨hkeeps, hbreaks⟩, hsites⟩ := h.step first
    constructor
    · intro hsound
      have hfirst : s.IsHarmless first := hbreaks (hsound 1)
      have hrest := (ih ⟨hkeeps hfirst, hsites⟩).1 fun n => hsound (n + 1)
      intro n step hstep
      cases n with
      | zero =>
        obtain rfl := Option.some.inj hstep
        exact hfirst
      | succ n => exact hrest n step hstep
    · intro hharmless
      have hfirst : s.IsHarmless first := hharmless 0 first rfl
      have hrest := (ih ⟨hkeeps hfirst, hsites⟩).2 fun n step hstep =>
        hharmless (n + 1) step hstep
      intro n
      cases n with
      | zero => exact h.rows.isSound
      | succ n => exact hrest n

end Shared

/-- Sites and direct edits that take turns on an environment whose first site has planted its
    root page keep the rows sound exactly as long as no request replaces a draft whose page has
    another parent in the rows by then, which the new one cannot stand in for, and no direct
    edit deletes the root, adds a page that is not below another one, or writes such a parent
    itself. -/
theorem shared_rows_sound_iff {config : SiteConfig} {r : Registry} {time : Timestamp}
    {env env' : Environment} {site : Site} {seed : RootSeed} (hempty : env.committed.pages = ∅)
    (hseed : config.root = some seed) (hopen : Site.openOn config r time env = (.ok site, env'))
    (steps : List Shared.Step) :
    (∀ n, (Shared.run ⟨env', [site]⟩ (steps.take n)).env.committed.places.IsSound) ↔
      ∀ n step, steps[n]? = some step →
        (Shared.run ⟨env', [site]⟩ (steps.take n)).IsHarmless step := by
  obtain ⟨⟨-, hfollows⟩, htree⟩ := Site.isFollowed_of_openOn hempty hseed hopen
  have hseeded : (Shared.mk env' [site]).IsSeeded seed.code := by
    refine ⟨htree, fun other hother => ?_⟩
    obtain rfl := List.mem_singleton.1 hother
    exact hfollows.sparesRoot htree
  exact Shared.isSound_run_iff hseeded steps

/-- Two sites and a direct edit: one site adds a page, another one opens, a page is stored
    directly below the first, and the first site moves its page while it knows of neither. -/
theorem shared_rows_sound_sample :
    let steps : List Shared.Step :=
      [.request 0 .epoch (.addPage "homepage" "a" "free" (.empty "home" 2)),
        .join .standard .sample .epoch,
        .edit .sample .epoch (.addPage ⟨⟨"b", some "a", 0⟩, "free", .empty "home" 2, none⟩),
        .request 1 .epoch (.addPage "homepage" "c" "free" (.empty "home" 2)),
        .request 0 .epoch (.movePageStep "a" false)]
    (Shared.run ⟨Hosted.planted.env, [Hosted.planted.site]⟩ steps).env.committed.places.IsSound := by
  intro steps
  refine (shared_rows_sound_iff rfl rfl Site.openOn_sample steps).2 (fun n step hstep => ?_) 5
  rcases n with _ | _ | _ | _ | _ | n
  all_goals cases hstep
  · exact fun _ _ => trivial
  · trivial
  · exact fun _ _ _ => ⟨"a", rfl, by decide⟩
  · exact fun _ _ => trivial
  · exact fun _ _ => trivial

/-- A page is moved directly, and a site that does not know of it replaces the draft of the
    page: the page is back below its old parent, at a position that has been given away. -/
theorem stale_draft_breaks_rows :
    ¬ (Shared.run ⟨Hosted.planted.env, [Hosted.planted.site]⟩
      [.request 0 .epoch (.addPage "homepage" "a" "free" (.empty "home" 2)),
        .request 0 .epoch (.addPage "homepage" "b" "free" (.empty "home" 2)),
        .edit .sample .epoch (.movePage "b" "a"),
        .request 0 .epoch (.updatePage "b" (.empty "home" 2))]).env.committed.places.IsSound := by
  generalize hrun : Shared.run _ _ = s
  have hfirst : s.env.committed.places "a" = some ⟨"a", some "homepage", 1⟩ := by
    rw [← hrun]
    decide +kernel
  have hsecond : s.env.committed.places "b" = some ⟨"b", some "homepage", 1⟩ := by
    rw [← hrun]
    decide +kernel
  intro hsound
  obtain ⟨codes, hcodes⟩ := hsound.seats "homepage"
  have ha := (hcodes.getElem?_iff 0).2 (Places.seat_of_place hfirst rfl)
  have hb := (hcodes.getElem?_iff 0).2 (Places.seat_of_place hsecond rfl)
  rw [ha] at hb
  exact absurd hb (by decide)

end Sitemap
