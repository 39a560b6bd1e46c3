import Sitemap.Proofs.Site.Pages
import Sitemap.Site.Journal

/-!
# Revisions

What one request makes of what one page shows. Most requests are about another page, or leave
what is shown; the others are listed here, each with the check that it has passed. What the
versions of a page are like, and what happens to them over time, is read off this list.

## Main definitions

- `Command.Revises` — what a page shows after a request

## Main results

- `Command.Effect.revises` — the requests to a mirror revise its pages in one of these ways
- `Hosted.revision_induction` — what every revision of a page keeps holds after a run
-/

namespace Sitemap

namespace RowEdit

variable {t t' : Tables} {time stamp : Timestamp} {code : String}

/-- Widgets are exchanged at the time of the request. -/
theorem stamp_of_moveWidget {parkingFrame source target : Int}
    (h : moveWidget parkingFrame time code source target t = .ok (stamp, t')) :
    stamp = time := by
  simp only [moveWidget, bind_eq_ok] at h
  obtain ⟨_, -, _, -, h⟩ := h
  cases h
  rfl

end RowEdit

namespace Command

/-- What the page `code` of a site shows after a request at a time, by what was asked and
    answered. -/
inductive Revises (site : Site) (time : Timestamp) (code : String) :
    Command → Except Error Answer → Option PageContent → Prop where
  /-- The request was refused. -/
  | refused {command e} :
    Revises site time code command (.error e) (site.tree.contents code)
  /-- The request is not about the page. -/
  | other {command outcome} (hne : command.code ≠ some code) :
    Revises site time code command outcome (site.tree.contents code)
  /-- There was nothing to do. -/
  | idle {command a} (hidle : Idle site command a) :
    Revises site time code command (.ok a) (site.tree.contents code)
  /-- The page is below another parent. -/
  | moved {newParent page} :
    Revises site time code (.movePage code newParent) (.ok (.page page)) (site.tree.contents code)
  /-- The page may have been exchanged with a neighbour. -/
  | stepped {up moved} :
    Revises site time code (.movePageStep code up) (.ok (.moved moved)) (site.tree.contents code)
  /-- The page is new. -/
  | added {parent group draft page stored}
    (haccepted : site.acceptNewPage parent code group draft = .ok page)
    (hstored : stored.content = ⟨page.group, page.draft.stamped time, none⟩) :
    Revises site time code (.addPage parent code group draft) (.ok (.page stored))
      (some stored.content)
  /-- The draft was replaced. -/
  | updated {draft page current} (hcurrent : site.tree.get? code = some current)
    (haccepted : site.acceptDraft code draft = .ok page) :
    Revises site time code (.updatePage code draft)
      (.ok (.page { page with draft := page.draft.stamped time }))
      (some { current.content with draft := page.draft.stamped time })
  /-- The group was set. -/
  | regrouped {group current} (hcurrent : site.tree.get? code = some current) :
    Revises site time code (.updatePageGroup code group) (.ok (.page { current with group }))
      (some { current.content with group })
  /-- The page is gone. -/
  | deleted {current} (haccepted : site.acceptDeletion code = .ok current) :
    Revises site time code (.deletePage code) (.ok .done) none
  /-- The page is online. -/
  | published {current page} (hcurrent : site.tree.get? code = some current)
    (hpage : page.content = current.content.published time) :
    Revises site time code (.setPageOnline code) (.ok (.page page)) (some page.content)
  /-- The page is offline. -/
  | unpublished {current} (hcurrent : site.tree.get? code = some current) :
    Revises site time code (.setPageOffline code) (.ok (.page current.unpublished))
      (some current.content.unpublished)
  /-- A frame was filled. -/
  | joined {frame w accepted current} (hcurrent : site.tree.get? code = some current)
    (haccepted : site.acceptJoin code frame w = .ok accepted) :
    Revises site time code (.joinWidget code frame w) (.ok .done)
      (some (current.content.withSlots time fun s => s.put frame (some accepted)))
  /-- Two frames were exchanged. -/
  | exchanged {source target current} (hcurrent : site.tree.get? code = some current)
    (haccepted : site.acceptExchange code source target = .ok ()) :
    Revises site time code (.moveWidget code source target) (.ok .done)
      (some (current.content.withSlots time fun s => s.exchange source target))
  /-- A frame was emptied. -/
  | removed {frame w current} (hcurrent : site.tree.get? code = some current)
    (haccepted : site.acceptRemoval code frame = .ok (some w)) :
    Revises site time code (.removeWidget code frame) (.ok .done)
      (some (current.content.withSlots time fun s => s.put frame none))

variable {h h' : Hosted} {time : Timestamp} {command : Command}
  {outcome : Except Error Answer}

/-- An effect on a mirror revises every page in one of these ways. -/
theorem Effect.revises (heffect : Effect h h' time command outcome) (hmirrored : h.IsMirrored)
    (code : String) : Revises h.site time code command outcome (h'.site.tree.contents code) := by
  obtain ⟨hlinked, hordered, hfree, hhidden, hfollows, hcontents⟩ := hmirrored
  -- what is shown of the page stays, and the request is about another one
  have hother : ∀ {c command outcome} {k : Option PageContent}, code ≠ c →
      command.code = some c → k = h.site.tree.contents code →
      Revises h.site time code command outcome k := by
    intro c command outcome k hne hcode hk
    rw [hk]
    refine .other fun heq => hne ?_
    exact Option.some.inj (heq.symm.trans hcode)
  cases heffect with
  | kept hkeeps hidle =>
    rw [hkeeps.tree]
    cases outcome with
    | error e => exact .refused
    | ok a => exact .idle (hidle a rfl)
  | refreshed hload henv htree =>
    rw [htree, (Tables.mirrors_ofPages hordered hload).contents, ← hcontents]
    exact .other (by simp [Command.code])
  | @added parent c group draft page stored t haccepted hedit hcommits =>
    obtain ⟨-, -, hcode, -, honline, -⟩ := Site.acceptNewPage_spec haccepted
    obtain ⟨hcontent, -⟩ := RowEdit.insertVersion_of_addPage honline hedit
    have hstored : stored.code = c := by
      rw [(RowEdit.pages_of_addPage hedit).2.2]
      exact hcode
    rw [hcommits.tree, Tree.contents_insert, hstored]
    dsimp only
    split
    · next hc =>
      subst hc
      exact .added haccepted hcontent
    · next hc => exact hother hc rfl rfl
  | @updated c draft page stored t haccepted hedit hcommits =>
    obtain ⟨current, hcurrent, hpage, -⟩ := Site.acceptDraft_spec haccepted
    obtain ⟨rfl, -⟩ := RowEdit.touches_of_updatePage hedit
    have hcurrentCode : current.code = c := hfollows.code_eq hordered hcurrent
    have hcode : page.code = c := by
      rw [hpage]
      exact hcurrentCode
    rw [hcommits.tree, Tree.contents_replace]
    dsimp only
    rw [hcode]
    split
    · next hc =>
      subst hc
      rw [Tree.contents_of_get? hcurrent, Option.map_some]
      have hgroup : page.group = current.group ∧ page.online = current.online := by
        rw [hpage]
        exact ⟨rfl, rfl⟩
      have hcontent : Page.content { page with draft := page.draft.stamped time } =
          { current.content with draft := page.draft.stamped time } := by
        rw [Page.content, Page.content, hgroup.1, hgroup.2]
      rw [hcontent]
      exact .updated hcurrent haccepted
    · next hc => exact hother hc rfl rfl
  | @regrouped c group page t u hpage hedit hcommits =>
    have hcode : page.code = c := hfollows.code_eq hordered hpage
    rw [hcommits.tree, Tree.contents_replace]
    dsimp only
    rw [hcode]
    split
    · next hc =>
      subst hc
      rw [Tree.contents_of_get? hpage]
      exact .regrouped hpage
    · next hc => exact hother hc rfl rfl
  | @deleted c page t u haccepted hedit hcommits =>
    obtain ⟨hpage, parent, hparent⟩ := Site.acceptDeletion_spec haccepted
    rw [hcommits.tree, Tree.contents_remove hpage hparent]
    dsimp only
    split
    · next hc =>
      subst hc
      exact .deleted haccepted
    · next hc => exact hother hc rfl rfl
  | @stayed c newParent page t hpage hedit hcommits =>
    rw [hcommits.tree]
    by_cases hc : code = c
    · subst hc
      exact .moved
    · exact hother hc rfl rfl
  | @moved c newParent plan page t hedit hcommits hpage =>
    rw [hcommits.tree, Tree.contents_applyReparent]
    by_cases hc : code = c
    · subst hc
      exact .moved
    · exact hother hc rfl rfl
  | @unswapped c up t hedit hcommits =>
    rw [hcommits.tree]
    by_cases hc : code = c
    · subst hc
      exact .stepped
    · exact hother hc rfl rfl
  | @swapped c up plan t hedit hcommits =>
    obtain ⟨-, hfits, -⟩ := RowEdit.places_of_swapPositions hordered hedit
    rw [hcommits.tree, Tree.contents_applySwap _ _ hfits.ne_of_swap]
    by_cases hc : code = c
    · subst hc
      exact .stepped
    · exact hother hc rfl rfl
  | @published c stamp page t hedit hcommits hpage =>
    obtain ⟨rfl, -⟩ := RowEdit.touches_of_setPageOnline hedit
    by_cases hc : code = c
    · subst hc
      rw [Tree.contents_of_get? hpage]
      rw [hcommits.tree, Tree.get?_edit, if_pos rfl] at hpage
      obtain ⟨current, hcurrent, rfl⟩ := Option.map_eq_some_iff.1 hpage
      exact .published hcurrent rfl
    · refine hother hc rfl ?_
      rw [hcommits.tree, Tree.contents, Tree.get?_edit, if_neg hc]
      rfl
  | @unpublished c page t u hpage hedit hcommits =>
    rw [hcommits.tree, Tree.contents, Tree.get?_edit]
    split
    · next hc =>
      subst hc
      rw [hpage]
      exact .unpublished hpage
    · next hc => exact hother hc rfl rfl
  | @joined c frame w accepted stamp page t hpage haccepted hframe hedit hcommits hjoin =>
    obtain ⟨rfl, -⟩ := RowEdit.touches_of_joinWidget hedit
    rw [hcommits.tree, Tree.contents_withSlots hpage stamp fun s => s.put frame (some accepted)]
    dsimp only
    split
    · next hc =>
      subst hc
      rw [Tree.contents_of_get? hpage]
      exact .joined hpage hjoin
    · next hc => exact hother hc rfl rfl
  | @exchanged c source target stamp page t hpage hne hsource htarget hedit hcommits hexchange =>
    obtain rfl := RowEdit.stamp_of_moveWidget hedit
    rw [hcommits.tree, Tree.contents_withSlots hpage stamp fun s => s.exchange source target]
    dsimp only
    split
    · next hc =>
      subst hc
      rw [Tree.contents_of_get? hpage]
      exact .exchanged hpage hexchange
    · next hc => exact hother hc rfl rfl
  | @removed c frame w stamp page t hpage hframe hedit hcommits hremoval =>
    obtain ⟨rfl, -⟩ := RowEdit.touches_of_removeWidget hedit
    rw [hcommits.tree, Tree.contents_withSlots hpage stamp fun s => s.put frame none]
    dsimp only
    split
    · next hc =>
      subst hc
      rw [Tree.contents_of_get? hpage]
      exact .removed hpage hremoval
    · next hc => exact hother hc rfl rfl

end Command

/-- What every revision of a page keeps, along with the journal up to then, holds of the page
    after a run on a mirror. -/
theorem Hosted.revision_induction {h : Hosted} (hmirrored : h.IsMirrored) (code : String)
    {P : List Entry → Option PageContent → Prop} (hstart : P [] (h.site.tree.contents code))
    (hrevise : ∀ {site : Site} {past time command outcome k},
      site.registry = h.site.registry → P past (site.tree.contents code) →
      Command.Revises site time code command outcome k → P (past ++ [⟨command, outcome⟩]) k)
    (steps : List Step) : P (h.journal steps) ((h.run steps).site.tree.contents code) := by
  suffices hlater : ∀ past, P past (h.site.tree.contents code) →
      P (past ++ h.journal steps) ((h.run steps).site.tree.contents code) from hlater [] hstart
  clear hstart
  induction steps generalizing h with
  | nil =>
    intro past hpast
    rw [journal, List.append_nil]
    exact hpast
  | cons step steps ih =>
    intro past hpast
    obtain ⟨hstepped, hregistry⟩ := hmirrored.step step
    rw [journal, ← List.append_assoc]
    refine ih hstepped (fun hsite => hrevise (hsite.trans hregistry)) _ ?_
    cases step with
    | request time command =>
      have heffect := Command.effect_of_run (Prod.ext rfl rfl : command.run time h = (_, _))
      exact hrevise rfl hpast (heffect.revises hmirrored code)
    | failNextCommit =>
      rw [record, List.append_nil]
      exact hpast

end Sitemap
