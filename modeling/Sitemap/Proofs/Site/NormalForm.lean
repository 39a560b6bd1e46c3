import Sitemap.Proofs.Site.Revision

/-!
# Normal form

The versions of pages in normal form, and that a site keeps all versions so. Whatever enters a
version is accepted first; publications and exchanges of frames only copy and rearrange it.

## Main definitions

- `Widget.IsNormal` — a widget of a registered type without a configuration that does not apply
- `PageVersion.IsNormal` — such widgets in the frames of a registered model

## Main results

- `Site.isNormal_of_acceptWidget`, `Site.isNormal_of_acceptVersion` — what is accepted is in
  normal form
- `Command.Revises.isNormal` — the step: a revision keeps normal form
- `run_keeps_normal_form` — the run
-/

namespace Sitemap

-- ════════════════════════════════════════════════════════════════════════
-- Versions in normal form
-- ════════════════════════════════════════════════════════════════════════

/-- A widget in normal form. -/
structure Widget.IsNormal (r : Registry) (w : Widget) : Prop where
  /-- Its type is registered. -/
  known : (r.widgetType w.typeCode).isSome
  /-- It carries no explicit `null`. -/
  notNull : w.config ≠ some .null
  /-- A widget of a logic type carries no configuration. -/
  logic : ∀ info, r.widgetType w.typeCode = some info → info.isLogic = true → w.config = none
  /-- To a widget of a locked type the default of the type applies: what applies is the same
      JSON data. -/
  locked : ∀ info, r.widgetType w.typeCode = some info → info.locked = true →
    JsonValue.OptionAgrees (w.effectiveConfig r) info.defaultConfig

/-- All placed widgets are in normal form. -/
def Slots.AreNormal (r : Registry) (s : Slots) : Prop :=
  ∀ frame w, s.widgetAt frame = some w → w.IsNormal r

/-- A version in normal form. -/
structure PageVersion.IsNormal (r : Registry) (v : PageVersion) : Prop where
  /-- Its model is known, and it has exactly the frames of the model. -/
  frames : r.frameCount v.model = some v.slots.frameCount
  /-- Its widgets are in normal form. -/
  widgets : v.slots.AreNormal r

/-- Both versions of a page are in normal form. -/
structure PageContent.IsNormal (r : Registry) (k : PageContent) : Prop where
  /-- The draft is. -/
  draft : k.draft.IsNormal r
  /-- What is online is. -/
  online : ∀ v, k.online = some v → v.IsNormal r

variable {r : Registry}

namespace Slots.AreNormal

variable {s : Slots} {frame : Int}

theorem empty (n : Nat) : (Slots.empty n).AreNormal r := by
  intro frame w hw
  rw [widgetAt_empty] at hw
  cases hw

/-- Filling a frame with a widget in normal form keeps normal form. -/
theorem put {content : Option Widget} (h : s.AreNormal r)
    (hcontent : ∀ w, content = some w → w.IsNormal r) : (s.put frame content).AreNormal r := by
  intro other w hw
  by_cases hframe : s.containsFrame frame = true
  · rw [widgetAt_put hframe] at hw
    split at hw
    · exact hcontent w hw
    · exact h other w hw
  · rw [Slots.put, if_neg hframe] at hw
    exact h other w hw

/-- Exchanging frames keeps normal form. -/
theorem exchange {source target : Int} (h : s.AreNormal r) :
    (s.exchange source target).AreNormal r :=
  (h.put fun w hw => h target w hw).put fun w hw => h source w hw

end Slots.AreNormal

/-- The time of the last write does not matter. -/
theorem PageVersion.IsNormal.stamped {v : PageVersion} (h : v.IsNormal r) (time : Timestamp) :
    (v.stamped time).IsNormal r :=
  ⟨h.frames, h.widgets⟩

namespace PageContent.IsNormal

variable {k : PageContent} {time : Timestamp}

/-- Publishing copies a draft in normal form. -/
theorem published (h : k.IsNormal r) : (k.published time).IsNormal r where
  draft := h.draft.stamped time
  online v hv := by
    obtain rfl : k.draft.stamped time = v := Option.some.inj hv
    exact h.draft.stamped time

theorem unpublished (h : k.IsNormal r) : k.unpublished.IsNormal r where
  draft := h.draft
  online _ hv := nomatch hv

/-- A change of the slots that keeps their number and normal form keeps that of the page. -/
theorem withSlots {change : Slots → Slots} (h : k.IsNormal r)
    (hcount : ∀ s, (change s).frameCount = s.frameCount)
    (hwidgets : (change k.draft.slots).AreNormal r) :
    (k.withSlots time change).IsNormal r where
  draft :=
    { frames := h.draft.frames.trans (congrArg some (hcount _).symm)
      widgets := hwidgets }
  online := h.online

end PageContent.IsNormal

-- ════════════════════════════════════════════════════════════════════════
-- What is accepted
-- ════════════════════════════════════════════════════════════════════════

namespace Site

variable {site : Site} {frame : Int}

/-- An accepted widget is in normal form. -/
theorem isNormal_of_acceptWidget {w w' : Widget} (h : site.acceptWidget frame w = .ok w') :
    w'.IsNormal site.registry := by
  obtain ⟨info, hinfo, hkept, rfl⟩ := acceptWidget_spec h
  have hinfo' : site.registry.widgetType (w.normalize info.isLogic).typeCode = some info := hinfo
  -- a configuration that is left was there before, and it is not null
  have hleft : ∀ config, (w.normalize info.isLogic).config = some config →
      info.isLogic = false ∧ w.config = some config ∧ config.isNull = false := by
    intro config hconfig
    unfold Widget.normalize at hconfig
    dsimp only at hconfig
    split at hconfig
    · cases hconfig
    · next hlogic => simpa [Option.filter_eq_some_iff, hlogic] using hconfig
  refine ⟨by rw [hinfo']; rfl, fun hnull => ?_, fun found hfound hlogic => ?_,
    fun found hfound hlocked => ?_⟩
  · obtain ⟨-, -, hnot⟩ := hleft _ hnull
    cases hnot
  · obtain rfl := Option.some.inj (hinfo'.symm.trans hfound)
    unfold Widget.normalize
    rw [if_pos hlogic]
  · obtain rfl := Option.some.inj (hinfo'.symm.trans hfound)
    unfold Widget.effectiveConfig
    split
    · next config hconfig =>
      obtain ⟨-, hown, hnull⟩ := hleft config hconfig
      -- the widget came with this configuration, so it is the default of its type
      by_contra hdiffers
      refine hkept ⟨hlocked, ?_, ?_⟩
      · simp [Widget.isConfigured, hown, hnull]
      · rwa [hown]
    · rw [hinfo']
      exact JsonValue.OptionAgrees.refl _

/-- An accepted version is in normal form. -/
theorem isNormal_of_acceptVersion {v v' : PageVersion} (h : site.acceptVersion v = .ok v') :
    v'.IsNormal site.registry := by
  obtain ⟨hframes, hwidgets, -⟩ := acceptVersion_spec h
  refine ⟨hframes, fun frame w hw => ?_⟩
  obtain ⟨_, -, _, haccepted⟩ := hwidgets frame w hw
  exact isNormal_of_acceptWidget haccepted

end Site

/-- The root page of a new store is in normal form. -/
theorem RootSeed.isNormal_page {seed : RootSeed} {page : Page} (h : seed.page r = .ok page) :
    page.draft.IsNormal r := by
  unfold RootSeed.page PageVersion.ofModel at h
  obtain ⟨draft, hdraft, rfl⟩ := map_eq_ok.1 h
  split at hdraft
  · next frames hframes =>
    cases hdraft
    exact ⟨by rw [PageVersion.empty, Slots.frameCount_empty, hframes], .empty frames⟩
  · cases hdraft

-- ════════════════════════════════════════════════════════════════════════
-- Revisions
-- ════════════════════════════════════════════════════════════════════════

/-- A revision keeps a page in normal form, and a new page is so. -/
theorem Command.Revises.isNormal {site : Site} {time : Timestamp} {code : String}
    {command : Command} {outcome : Except Error Answer} {k' : Option PageContent}
    (hrevises : Revises site time code command outcome k')
    (hnormal : ∀ k, site.tree.contents code = some k → k.IsNormal site.registry) :
    ∀ k, k' = some k → k.IsNormal site.registry := by
  intro k hk
  have hcurrent : ∀ {current}, site.tree.get? code = some current →
      current.content.IsNormal site.registry :=
    fun hget => hnormal _ (Tree.contents_of_get? hget)
  cases hrevises with
  | refused | other | idle | moved | stepped => exact hnormal k hk
  | added haccepted hstored =>
    obtain ⟨-, -, -, -, -, hversion⟩ := Site.acceptNewPage_spec haccepted
    obtain rfl := Option.some.inj hk
    rw [hstored]
    exact ⟨(Site.isNormal_of_acceptVersion hversion).stamped time, fun _ hv => nomatch hv⟩
  | updated hget haccepted =>
    obtain ⟨_, -, -, hversion⟩ := Site.acceptDraft_spec haccepted
    obtain rfl := Option.some.inj hk
    exact ⟨(Site.isNormal_of_acceptVersion hversion).stamped time, (hcurrent hget).online⟩
  | regrouped hget =>
    obtain rfl := Option.some.inj hk
    exact ⟨(hcurrent hget).draft, (hcurrent hget).online⟩
  | deleted => cases hk
  | published hget hpage =>
    obtain rfl := Option.some.inj hk
    rw [hpage]
    exact (hcurrent hget).published
  | unpublished hget =>
    obtain rfl := Option.some.inj hk
    exact (hcurrent hget).unpublished
  | joined hget haccepted =>
    obtain ⟨_, -, -, hwidget⟩ := Site.exists_page_of_acceptJoin haccepted
    obtain rfl := Option.some.inj hk
    refine (hcurrent hget).withSlots (fun _ => Slots.frameCount_put)
      ((hcurrent hget).draft.widgets.put fun w hw => ?_)
    obtain rfl := Option.some.inj hw
    exact Site.isNormal_of_acceptWidget hwidget
  | exchanged hget =>
    obtain rfl := Option.some.inj hk
    exact (hcurrent hget).withSlots (fun _ => Slots.frameCount_exchange)
      (hcurrent hget).draft.widgets.exchange
  | removed hget =>
    obtain rfl := Option.some.inj hk
    exact (hcurrent hget).withSlots (fun _ => Slots.frameCount_put)
      ((hcurrent hget).draft.widgets.put fun _ hw => nomatch hw)

/-- A site that opened on an empty store and is its only writer keeps every version of every
    page in normal form, in the site map and as loaded from the rows: the model is known and the
    version has as many frames, every widget is of a registered type and carries no explicit
    `null`, a widget of a logic type carries no configuration, and to a widget of a locked type
    the default of the type applies. -/
theorem run_keeps_normal_form {config : SiteConfig} {time : Timestamp} {env env' : Environment}
    {site : Site} {steps : List Hosted.Step} {h : Hosted} (hvacant : env.IsVacant)
    (hopen : Site.openOn config r time env = (.ok site, env'))
    (hrun : Hosted.run ⟨env', site⟩ steps = h) :
    (∃ pages, h.env.committed.loadPages r = .ok pages) ∧
      ∀ page, h.HasPage page → ∀ edition v, page.version edition = some v → v.IsNormal r := by
  subst hrun
  obtain ⟨hopened, hregistry⟩ := Site.isMirrored_of_openOn hvacant.isWellFormed hopen
  obtain ⟨hmirrored, -⟩ := Hosted.isMirrored_run hopened steps
  refine ⟨Tables.exists_loadPages hmirrored.linked r, fun page hpage edition v hv => ?_⟩
  have hnormal := Hosted.revision_induction hopened page.code
    (P := fun _ k => ∀ k', k = some k' → k'.IsNormal r) ?_ ?_ steps
  · have hk := hnormal _ (hmirrored.contents_of_hasPage hpage)
    cases edition with
    | draft =>
      cases hv
      exact hk.draft
    | online => exact hk.online v hv
  · intro k hk
    obtain ⟨seed, root, hroot, rfl⟩ := Site.contents_of_openOn hvacant.pages hopen hk
    exact ⟨(RootSeed.isNormal_page hroot).stamped time, fun _ hv => nomatch hv⟩
  · intro site' past time' command outcome k hsite hbefore hrevises
    obtain rfl : site'.registry = r := hsite.trans hregistry
    exact hrevises.isNormal hbefore

/-- A widget of a locked type is placed with an explicit `null`, and goes online without. -/
theorem run_keeps_normal_form_sample :
    let h := Hosted.planted.run
      [.request .epoch (.addPage "homepage" "a" "free" (.empty "home" 2)),
        .request .epoch (.joinWidget "a" 0 ⟨"logo", some .null⟩),
        .request .epoch (.joinWidget "a" 1 ⟨"banner", none⟩),
        .request .epoch (.setPageOnline "a")]
    ∃ page v, h.HasPage page ∧ page.online = some v ∧
      v.slots.widgetAt 0 = some ⟨"logo", none⟩ ∧ v.slots.widgetAt 1 = none ∧
      v.IsNormal .sample := by
  intro h
  have hshown : ((h.site.tree.get? "a").bind Page.online).any (fun v =>
      v.slots.widgetAt 0 = some ⟨"logo", none⟩ ∧ v.slots.widgetAt 1 = none) = true := by
    decide +kernel
  simp only [Option.any_eq_true, Option.bind_eq_some_iff, decide_eq_true_eq] at hshown
  obtain ⟨v, ⟨page, hget, hv⟩, hfilled, hempty⟩ := hshown
  have hmirrored : h.IsMirrored := (Hosted.isMirrored_run Hosted.isMirrored_planted _).1
  have hpage : h.HasPage page := .inl (hmirrored.shows hget).2.get?
  obtain ⟨-, hnormal⟩ :=
    run_keeps_normal_form Environment.isVacant_sample Site.openOn_sample (rfl : _ = h)
  exact ⟨page, v, hpage, hv, hfilled, hempty, hnormal page hpage .online v hv⟩

end Sitemap
