import Sitemap.Proofs.Site.Revision

/-!
# Publications over time

What visitors see of a page is what was last published of it, however its draft has been changed
since. The journal of a run tells which publication that was: the last request that settled
whether the page is online.

## Main definitions

- `Entry.Settles` — a request that settled whether a page is online
- `Publishes` — a journal ends with a version of a page online

## Main results

- `publishes_concat` — one more request publishes by itself, settles otherwise, or changes
  nothing
- `Command.Revises.publishes` — the step: what is online follows the journal
- `online_iff_publishes` — the run
-/

namespace Sitemap

/-- A request settled whether a page is online: the page was created, it was published, or it
    was taken offline. -/
inductive Entry.Settles (code : String) : Entry → Prop where
  /-- A new page is offline. -/
  | created {parent group draft a} : Settles code ⟨.addPage parent code group draft, .ok a⟩
  /-- It was published. -/
  | published {a} : Settles code ⟨.setPageOnline code, .ok a⟩
  /-- It was taken offline, or it was so already. -/
  | unpublished {a} : Settles code ⟨.setPageOffline code, .ok a⟩

/-- The last request in a journal that settled whether a page is online has published it, and `v`
    is the draft that it answered with. -/
def Publishes (past : List Entry) (code : String) (v : PageVersion) : Prop :=
  ∃ before page after, past = before ++ ⟨.setPageOnline code, .ok (.page page)⟩ :: after ∧
    page.draft = v ∧ ∀ e ∈ after, ¬ e.Settles code

variable {past : List Entry} {e : Entry} {code : String} {v : PageVersion}

theorem not_publishes_nil : ¬ Publishes [] code v := by
  rintro ⟨before, page, after, heq, -⟩
  simp at heq

/-- With one more request, a page is published by that request, or by the same one as before. -/
theorem publishes_concat : Publishes (past ++ [e]) code v ↔
    (∃ page, e = ⟨.setPageOnline code, .ok (.page page)⟩ ∧ page.draft = v) ∨
      ¬ e.Settles code ∧ Publishes past code v := by
  constructor
  · rintro ⟨before, page, after, heq, hv, hafter⟩
    rcases List.eq_nil_or_concat after with rfl | ⟨after, last, rfl⟩
    · obtain ⟨-, hlast⟩ := List.append_inj' heq rfl
      exact .inl ⟨page, List.singleton_inj.1 hlast, hv⟩
    · rw [List.concat_eq_append, ← List.cons_append, ← List.append_assoc] at heq
      obtain ⟨rfl, hlast⟩ := List.append_inj' heq rfl
      obtain rfl := List.singleton_inj.1 hlast
      refine .inr ⟨hafter e (by simp), before, page, after, rfl, hv, fun e' he' => ?_⟩
      exact hafter e' (by simp [he'])
  · rintro (⟨page, rfl, hv⟩ | ⟨hnot, before, page, after, rfl, hv, hafter⟩)
    · exact ⟨past, page, [], rfl, hv, fun _ he' => nomatch he'⟩
    · refine ⟨before, page, after ++ [e], by simp, hv, fun e' he' => ?_⟩
      rcases List.mem_append.1 he' with he' | he'
      · exact hafter e' he'
      · rwa [List.mem_singleton.1 he']

/-- A request that settles nothing about a page leaves what is published. -/
theorem publishes_concat_of_not_settles (h : ¬ e.Settles code) :
    Publishes (past ++ [e]) code v ↔ Publishes past code v := by
  rw [publishes_concat]
  constructor
  · rintro (⟨page, rfl, -⟩ | ⟨-, hpast⟩)
    · exact absurd .published h
    · exact hpast
  · exact fun hpast => .inr ⟨h, hpast⟩

-- ════════════════════════════════════════════════════════════════════════
-- Revisions
-- ════════════════════════════════════════════════════════════════════════

/-- What is online of a page follows the journal, when it did so before. -/
theorem Command.Revises.publishes {site : Site} {time : Timestamp} {command : Command}
    {outcome : Except Error Answer} {k' : Option PageContent}
    (hrevises : Revises site time code command outcome k')
    (hpast : ∀ k, site.tree.contents code = some k →
      ∀ v, k.online = some v ↔ Publishes past code v) :
    ∀ k, k' = some k → ∀ v, k.online = some v ↔
      Publishes (past ++ [⟨command, outcome⟩]) code v := by
  intro k hk v
  -- the request settles nothing, and what is online stays
  have hstays : ∀ {k₀}, site.tree.contents code = some k₀ → k.online = k₀.online →
      ¬ Entry.Settles code ⟨command, outcome⟩ →
      (k.online = some v ↔ Publishes (past ++ [⟨command, outcome⟩]) code v) := by
    intro k₀ hk₀ honline hnot
    rw [honline, publishes_concat_of_not_settles hnot]
    exact hpast k₀ hk₀ v
  -- the page is offline, and the request says so
  have hoffline : k.online = none → Entry.Settles code ⟨command, outcome⟩ →
      command ≠ .setPageOnline code →
      (k.online = some v ↔ Publishes (past ++ [⟨command, outcome⟩]) code v) := by
    intro hnone hsettles hne
    rw [hnone, publishes_concat]
    refine iff_of_false (by simp) ?_
    rintro (⟨page, heq, -⟩ | ⟨hnot, -⟩)
    · exact hne (congrArg Entry.command heq)
    · exact hnot hsettles
  cases hrevises with
  | refused => exact hstays hk rfl nofun
  | other hne =>
    refine hstays hk rfl fun hsettles => ?_
    cases hsettles <;> exact hne rfl
  | idle hidle =>
    cases hidle with
    | movePage | moveWidget | removeWidget => exact hstays hk rfl nofun
    | @setPageOffline c page hpage hnone =>
      by_cases hc : c = code
      · subst hc
        obtain rfl := Option.some.inj ((Tree.contents_of_get? hpage).symm.trans hk)
        exact hoffline hnone .unpublished nofun
      · refine hstays hk rfl fun hsettles => ?_
        cases hsettles
        exact hc rfl
  | moved | stepped => exact hstays hk rfl nofun
  | added haccepted hstored =>
    obtain rfl := Option.some.inj hk
    exact hoffline (by rw [hstored]) .created nofun
  | updated hcurrent | regrouped hcurrent | joined hcurrent | exchanged hcurrent
  | removed hcurrent =>
    obtain rfl := Option.some.inj hk
    exact hstays (Tree.contents_of_get? hcurrent) rfl nofun
  | deleted => cases hk
  | @published _ page hcurrent hpage =>
    obtain rfl := Option.some.inj hk
    have honline : page.online = some page.draft := by
      obtain ⟨-, hdraft, hpublished⟩ := PageContent.mk.inj hpage
      rw [hpublished, hdraft]
    rw [publishes_concat]
    constructor
    · intro hv
      exact .inl ⟨page, rfl, Option.some.inj (honline.symm.trans hv)⟩
    · rintro (⟨answered, heq, hv⟩ | ⟨hnot, -⟩)
      · cases heq
        exact honline.trans (congrArg some hv)
      · exact absurd .published hnot
  | unpublished hcurrent =>
    obtain rfl := Option.some.inj hk
    exact hoffline rfl .unpublished nofun

/-- The state of publication of a page that is online. -/
theorem Page.publishState_of_online {page : Page} (h : page.online = some v) :
    (page.publishState = .clean ↔ v.SameContent page.draft) ∧
      (page.publishState = .dirty ↔ ¬ v.SameContent page.draft) := by
  unfold publishState
  rw [h]
  dsimp only
  split
  · next hsame => simp [hsame]
  · next hdiffers => simp [hdiffers]

/-- What is online of a page is what was last published of it: a site that opened on an empty
    store and is its only writer shows a version of a page online, in the site map and as loaded
    from the rows, exactly when the last request that settled whether the page is online has
    published it, and it is the draft that this request answered with. So the page is clean
    exactly while its draft has the same content as that one, and dirty while it has not. -/
theorem online_iff_publishes {config : SiteConfig} {r : Registry} {time : Timestamp}
    {env env' : Environment} {site : Site} {steps : List Hosted.Step} {h : Hosted}
    (hvacant : env.IsVacant) (hopen : Site.openOn config r time env = (.ok site, env'))
    (hrun : Hosted.run ⟨env', site⟩ steps = h) :
    (∃ pages, h.env.committed.loadPages r = .ok pages) ∧
      ∀ page, h.HasPage page →
        let past := Hosted.journal ⟨env', site⟩ steps
        (∀ v, page.online = some v ↔ Publishes past page.code v) ∧
          ∀ v, Publishes past page.code v →
            (page.publishState = .clean ↔ v.SameContent page.draft) ∧
              (page.publishState = .dirty ↔ ¬ v.SameContent page.draft) := by
  subst hrun
  obtain ⟨hopened, -⟩ := Site.isMirrored_of_openOn hvacant.isWellFormed hopen
  obtain ⟨hmirrored, -⟩ := Hosted.isMirrored_run hopened steps
  refine ⟨Tables.exists_loadPages hmirrored.linked r, fun page hpage => ?_⟩
  have hfollows := Hosted.revision_induction hopened page.code
    (P := fun past k => ∀ k', k = some k' → ∀ v, k'.online = some v ↔ Publishes past page.code v)
    ?_ ?_ steps
  · have honline := hfollows _ (hmirrored.contents_of_hasPage hpage)
    exact ⟨honline, fun v hv => Page.publishState_of_online ((honline v).2 hv)⟩
  · intro k hk v
    obtain ⟨seed, root, -, rfl⟩ := Site.contents_of_openOn hvacant.pages hopen hk
    exact iff_of_false (by simp) not_publishes_nil
  · intro site' past time' command outcome k _ hpast hrevises
    exact hrevises.publishes hpast

/-- A page goes online empty. A widget is placed in its draft, which is published in vain, and the
    page is moved. -/
theorem online_iff_publishes_sample :
    let steps : List Hosted.Step :=
      [.request .epoch (.addPage "homepage" "a" "free" (.empty "home" 2)),
        .request .epoch (.addPage "homepage" "b" "free" (.empty "home" 2)),
        .request .epoch (.setPageOnline "a"),
        .request .epoch (.joinWidget "a" 0 ⟨"menu", none⟩), .failNextCommit,
        .request .epoch (.setPageOnline "a"), .request .epoch (.movePage "a" "b")]
    let h := Hosted.planted.run steps
    ∃ page, h.HasPage page ∧ page.code = "a" ∧ page.publishState = .dirty ∧
      Publishes (Hosted.planted.journal steps) "a"
        ((PageVersion.empty "home" 2).stamped .epoch) := by
  intro steps h
  have hshown : (h.site.tree.get? "a").any (fun page =>
      page.online = some ((PageVersion.empty "home" 2).stamped .epoch) ∧
        ¬ ((PageVersion.empty "home" 2).stamped .epoch).SameContent page.draft) = true := by
    decide +kernel
  simp only [Option.any_eq_true, decide_eq_true_eq] at hshown
  obtain ⟨page, hget, honline, hdiffers⟩ := hshown
  have hmirrored : h.IsMirrored := (Hosted.isMirrored_run Hosted.isMirrored_planted _).1
  obtain ⟨hcode, hshows⟩ := hmirrored.shows hget
  obtain ⟨hfollows, hstate⟩ := (online_iff_publishes (r := .sample) Environment.isVacant_sample
    Site.openOn_sample rfl).2 page (.inl hshows.get? : h.HasPage page)
  have hpublishes := (hfollows _).1 honline
  have hdirty := (hstate _ hpublishes).2.2 hdiffers
  rw [hcode] at hpublishes
  exact ⟨page, .inl hshows.get?, hcode, hdirty, hpublishes⟩

end Sitemap
