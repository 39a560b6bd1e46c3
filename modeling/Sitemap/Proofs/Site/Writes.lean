import Sitemap.Proofs.Rows.Data
import Sitemap.Proofs.Site.Request
import Sitemap.Site.Shared

/-!
# What requests write

Whatever comes of a request, the environment after it is the one from before or the one after a
single edit of the rows. So what every edit keeps is kept by requests, by sites that open, and
along every run.

## Main definitions

- `Command.AllData`, `Shared.Step.AllData` — what may be stored satisfies given conditions
- `Environment.IsEdited` — an environment after at most one edit

## Main results

- `Command.isEdited_run`, `Site.isEdited_openOn` — requests and openings edit at most once
- `Shared.run_induction` — what every edit keeps is kept along a run
- `Environment.committed_edit` — an edit commits what it keeps of linked tables
- `Shared.allData_run` — so are conditions on all data that every argument satisfies
-/

namespace Sitemap

variable {extra : JsonValue → Prop} {placed : Widget → Prop} {r : Registry} {time : Timestamp}

/-- What a request may store satisfies given conditions. -/
def Command.AllData (extra : JsonValue → Prop) (placed : Widget → Prop) (r : Registry) :
    Command → Prop
  | .addPage _ _ _ draft | .updatePage _ draft => draft.AllData extra placed r
  | .joinWidget _ _ w => placed (Tables.storedWidget r w)
  | .updatePageGroup _ _ | .deletePage _ | .movePage _ _ | .movePageStep _ _ | .setPageOnline _
  | .setPageOffline _ | .moveWidget _ _ _ | .removeWidget _ _ | .refresh => True

/-- What a step may store satisfies given conditions, whatever is registered with its site. -/
def Shared.Step.AllData (extra : JsonValue → Prop) (placed : Widget → Prop) :
    Shared.Step → Prop
  | .request _ _ command => ∀ r, command.AllData extra placed r
  | .edit r _ change => change.AllData extra placed r
  | .join _ _ _ | .failNextCommit => True

/-- A condition that all extra data satisfy, and all widgets as they are stored, is satisfied by
    what any step may store. -/
theorem Shared.Step.allData_of_stored (hextra : ∀ v, extra v)
    (hplaced : ∀ r w, placed (Tables.storedWidget r w)) (step : Shared.Step) :
    step.AllData extra placed := by
  have hversion : ∀ r (v : PageVersion), v.AllData extra placed r :=
    fun r v => ⟨hextra _, fun _ w _ => hplaced r w⟩
  cases step with
  | request number time command =>
    intro r
    cases command with
    | addPage parent code group draft => exact hversion r draft
    | updatePage code draft => exact hversion r draft
    | joinWidget code frame w => exact hplaced r w
    | _ => trivial
  | edit r time change =>
    cases change with
    | addPage page => exact ⟨hversion r page.draft, fun v _ => hversion r v⟩
    | updatePage page => exact hversion r page.draft
    | joinWidget code frame w => exact hplaced r w
    | _ => trivial
  | join config r time => trivial
  | failNextCommit => trivial

/-- An environment after at most one edit that stores data with given conditions. -/
def Environment.IsEdited (extra : JsonValue → Prop) (placed : Widget → Prop) (r : Registry)
    (time : Timestamp) (before after : Environment) : Prop :=
  after = before ∨
    ∃ edit : Edit, edit.AllData extra placed r ∧ after = (before.edit r time edit).2

-- ════════════════════════════════════════════════════════════════════════
-- Requests
-- ════════════════════════════════════════════════════════════════════════

/-- An accepted version keeps a condition. -/
theorem PageVersion.AllData.of_accepted {site : Site} {v v' : PageVersion}
    (h : v.AllData extra placed site.registry) (haccepted : site.acceptVersion v = .ok v') :
    v'.AllData extra placed site.registry := by
  obtain ⟨-, hwidgets, hmetadata⟩ := Site.acceptVersion_spec haccepted
  refine ⟨?_, fun frame w hw => ?_⟩
  · rw [hmetadata]
    exact h.extra
  · obtain ⟨u, hu, _, hwidget⟩ := hwidgets frame w hw
    rw [Site.storedWidget_of_acceptWidget hwidget, Site.eq_storedWidget_of_acceptWidget hwidget]
    exact h.widgets frame u hu

/-- The form of an answer does not matter to the environment. -/
theorem Environment.write_reply {α : Type} (env : Environment) (answer : α → EditReply)
    (statements : Tables → Except Error (α × Tables)) :
    (env.write fun t => Edit.reply answer (statements t)).2 = (env.write statements).2 := by
  simp only [write, Edit.reply]
  cases statements env.beginWrite.tables with
  | error e => rfl
  | ok result =>
    simp only [Except.map]
    cases env.commit { env.beginWrite with tables := result.2 } with
    | mk outcome env' =>
      cases outcome with
      | error e => rfl
      | ok number => rfl

namespace Hosted

variable {α β : Type} {h : Hosted} {statements : Tables → Except Error (α × Tables)}
  {publish : α → Site → Except Error β × Site}

/-- What a request did is what it did when it was accepted. -/
theorem isEdited_judge {judged : Except Error α} {act : α → Except Error β × Hosted}
    (hact : ∀ a, judged = .ok a → h.env.IsEdited extra placed r time (act a).2.env) :
    h.env.IsEdited extra placed r time (h.judge judged act).2.env := by
  cases judged with
  | error e => exact .inl rfl
  | ok a => exact hact a rfl

/-- A transaction that runs the statements of an edit edits the environment. -/
theorem isEdited_transact {edit : Edit} (answer : α → EditReply)
    (hdata : edit.AllData extra placed r)
    (hruns : ∀ t, edit.run r h.env.parkingFrame time t = Edit.reply answer (statements t)) :
    h.env.IsEdited extra placed r time (h.transact statements publish).2.env := by
  have henv : (h.transact statements publish).2.env = (h.env.write statements).2 := by
    unfold transact
    split
    · next hwrite => rw [hwrite]
    · next hwrite => rw [hwrite]
  refine .inr ⟨edit, hdata, ?_⟩
  rw [henv, Environment.edit, funext hruns, Environment.write_reply]

end Hosted

/-- A request edits the environment at most once. -/
theorem Command.isEdited_run {h : Hosted} {command : Command}
    (hdata : command.AllData extra placed h.site.registry) :
    h.env.IsEdited extra placed h.site.registry time (command.run time h).2.env := by
  cases command with
  | addPage parent code group draft =>
    refine Hosted.isEdited_judge fun page haccepted => ?_
    obtain ⟨-, -, -, -, honline, hdraft⟩ := Site.acceptNewPage_spec haccepted
    have hedit : (Edit.addPage page).AllData extra placed h.site.registry := by
      refine ⟨hdata.of_accepted hdraft, fun v hv => ?_⟩
      rw [honline] at hv
      cases hv
    exact Hosted.isEdited_transact .page hedit fun _ => rfl
  | updatePage code draft =>
    refine Hosted.isEdited_judge fun page haccepted => ?_
    obtain ⟨-, -, -, hdraft⟩ := Site.acceptDraft_spec haccepted
    have hedit : (Edit.updatePage page).AllData extra placed h.site.registry :=
      hdata.of_accepted hdraft
    exact Hosted.isEdited_transact .version hedit fun _ => rfl
  | updatePageGroup code group =>
    have hedit : (Edit.updatePageGroup code group).AllData extra placed h.site.registry := trivial
    exact Hosted.isEdited_judge fun _ _ => Hosted.isEdited_transact (fun _ => .done) hedit fun _ => rfl
  | deletePage code =>
    have hedit : (Edit.deletePage code).AllData extra placed h.site.registry := trivial
    exact Hosted.isEdited_judge fun _ _ => Hosted.isEdited_transact (fun _ => .done) hedit fun _ => rfl
  | movePage code newParent =>
    have hedit : (Edit.movePage code newParent).AllData extra placed h.site.registry := trivial
    refine Hosted.isEdited_judge fun a _ => ?_
    obtain ⟨current, planned⟩ := a
    cases planned with
    | none => exact .inl rfl
    | some plan => exact Hosted.isEdited_transact .moved hedit fun _ => rfl
  | movePageStep code up =>
    have hedit : (Edit.swapPositions code up).AllData extra placed h.site.registry := trivial
    exact Hosted.isEdited_judge fun _ _ => Hosted.isEdited_transact .swapped hedit fun _ => rfl
  | setPageOnline code =>
    have hedit : (Edit.setPageOnline code).AllData extra placed h.site.registry := trivial
    exact Hosted.isEdited_judge fun _ _ => Hosted.isEdited_transact .stamped hedit fun _ => rfl
  | setPageOffline code =>
    have hedit : (Edit.setPageOffline code).AllData extra placed h.site.registry := trivial
    refine Hosted.isEdited_judge fun current _ => ?_
    split
    · exact Hosted.isEdited_transact (fun _ => .done) hedit fun _ => rfl
    · exact .inl rfl
  | joinWidget code frame w =>
    refine Hosted.isEdited_judge fun accepted haccepted => ?_
    obtain ⟨-, -, -, hwidget⟩ := Site.exists_page_of_acceptJoin haccepted
    have hedit : (Edit.joinWidget code frame accepted).AllData extra placed h.site.registry := by
      show placed (Tables.storedWidget h.site.registry accepted)
      rw [Site.storedWidget_of_acceptWidget hwidget, Site.eq_storedWidget_of_acceptWidget hwidget]
      exact hdata
    exact Hosted.isEdited_transact .stamped hedit fun _ => rfl
  | moveWidget code source target =>
    have hedit : (Edit.moveWidget code source target).AllData extra placed h.site.registry :=
      trivial
    refine Hosted.isEdited_judge fun _ _ => ?_
    split
    · exact .inl rfl
    · exact Hosted.isEdited_transact .stamped hedit fun _ => rfl
  | removeWidget code frame =>
    have hedit : (Edit.removeWidget code frame).AllData extra placed h.site.registry := trivial
    refine Hosted.isEdited_judge fun occupant _ => ?_
    cases occupant with
    | none => exact .inl rfl
    | some w => exact Hosted.isEdited_transact .stamped hedit fun _ => rfl
  | refresh =>
    left
    show h.refresh.2.env = h.env
    unfold Hosted.refresh
    split
    · rfl
    · rfl

-- ════════════════════════════════════════════════════════════════════════
-- Opening
-- ════════════════════════════════════════════════════════════════════════

/-- The root page of a new store holds no data. -/
theorem RootSeed.allData_page {seed : RootSeed} {page : Page} (hnull : extra .null)
    (h : seed.page r = .ok page) : (Edit.addPage page).AllData extra placed r := by
  unfold RootSeed.page PageVersion.ofModel at h
  obtain ⟨draft, hdraft, rfl⟩ := map_eq_ok.1 h
  split at hdraft
  · next frames _ =>
    cases hdraft
    refine ⟨⟨hnull, fun frame w hw => ?_⟩, fun v hv => nomatch hv⟩
    rw [PageVersion.empty, Slots.widgetAt_empty] at hw
    cases hw
  · cases hdraft

/-- A site that opens edits the environment at most once, to give it a root page. -/
theorem Site.isEdited_openOn (hnull : extra .null) (config : SiteConfig) (r : Registry)
    (time : Timestamp) (env : Environment) :
    env.IsEdited extra placed r time (Site.openOn config r time env).2 := by
  unfold openOn SiteConfig.pages
  dsimp only
  split
  · exact .inl rfl
  · split
    · next seed _ _ =>
      unfold RootSeed.plant
      split
      · exact .inl rfl
      · next page hpage =>
        refine .inr ⟨.addPage page, RootSeed.allData_page hnull hpage, ?_⟩
        have hwrite : (env.edit r time (.addPage page)).2 =
            (env.write (RowEdit.addPage r time page)).2 :=
          env.write_reply .page (RowEdit.addPage r time page)
        rw [hwrite]
        split
        · next hwritten => rw [hwritten]
        · next hwritten => rw [hwritten]
    · exact .inl rfl
    · exact .inl rfl

-- ════════════════════════════════════════════════════════════════════════
-- Runs
-- ════════════════════════════════════════════════════════════════════════

namespace Shared

variable {s : Shared} {steps : List Step}

/-- A step edits the environment at most once, or makes its next commit fail. -/
theorem env_step (hnull : extra .null) {step : Step} (hdata : step.AllData extra placed) :
    (s.step step).env = s.env.failNextCommit ∨
      ∃ r time, s.env.IsEdited extra placed r time (s.step step).env := by
  cases step with
  | request number time command =>
    right
    simp only [Shared.step]
    cases s.sites[number]? with
    | none => exact ⟨.empty, time, .inl rfl⟩
    | some site =>
      have hedited : s.env.IsEdited extra placed site.registry time
          (command.run time ⟨s.env, site⟩).2.env :=
        Command.isEdited_run (hdata site.registry)
      exact ⟨site.registry, time, hedited⟩
  | edit r time edit => exact .inr ⟨r, time, .inr ⟨edit, hdata, rfl⟩⟩
  | join config r time =>
    have hopened : s.env.IsEdited extra placed r time (Site.openOn config r time s.env).2 :=
      Site.isEdited_openOn hnull config r time s.env
    refine .inr ⟨r, time, ?_⟩
    simp only [Shared.step]
    split
    · next hopen =>
      rw [hopen] at hopened
      exact hopened
    · next hopen =>
      rw [hopen] at hopened
      exact hopened
  | failNextCommit => exact .inl rfl

/-- What every edit of data with given conditions keeps, and every order that a commit fails,
    is kept along a run whose steps store such data. -/
theorem run_induction {P : Environment → Prop} (hnull : extra .null)
    (hfail : ∀ env, P env → P env.failNextCommit)
    (hedit : ∀ env r time (edit : Edit), edit.AllData extra placed r → P env →
      P (env.edit r time edit).2)
    (hsteps : ∀ step ∈ steps, step.AllData extra placed) (h : P s.env) : P (s.run steps).env := by
  induction steps generalizing s with
  | nil => exact h
  | cons first steps ih =>
    have hfirst : P (s.step first).env := by
      rcases env_step hnull (hsteps first (List.mem_cons_self ..)) with
        hfailing | ⟨r, time, hsame | ⟨edit, hdata, hedited⟩⟩
      · rw [hfailing]
        exact hfail _ h
      · rw [hsame]
        exact h
      · rw [hedited]
        exact hedit _ r time edit hdata h
    exact ih (fun step hstep => hsteps step (List.mem_cons_of_mem _ hstep)) hfirst

end Shared

/-- Committed tables keep what an edit keeps of tables that pass the reference check. -/
theorem Environment.committed_edit {env : Environment} {edit : Edit} {P : Tables → Prop}
    (h : P env.committed)
    (hkept : ∀ reply t, edit.run r env.parkingFrame time env.committed = .ok (reply, t) →
      t.IsLinked → P t) : P (env.edit r time edit).2.committed := by
  generalize hedit : env.edit r time edit = edited
  obtain ⟨outcome, env'⟩ := edited
  cases outcome with
  | error e =>
    rw [(refuses_of_write hedit).committed]
    exact h
  | ok reply =>
    obtain ⟨t, hrun, hcommits⟩ := commits_of_write hedit
    rw [hcommits.committed]
    exact hkept reply t hrun (Tables.checkReferences_eq_ok.1 hcommits.checked)

theorem Environment.allData_edit {env : Environment} {edit : Edit}
    (h : env.committed.AllData extra placed) (hdata : edit.AllData extra placed r) :
    (env.edit r time edit).2.committed.AllData extra placed :=
  committed_edit h fun _ _ hrun _ => Edit.allData_of_run h hdata hrun

/-- All data satisfy a condition as long as all that is stored satisfies it. -/
theorem Shared.allData_run {s : Shared} {steps : List Step} (hnull : extra .null)
    (hsteps : ∀ step ∈ steps, step.AllData extra placed)
    (h : s.env.committed.AllData extra placed) :
    (s.run steps).env.committed.AllData extra placed :=
  Shared.run_induction (P := fun env => env.committed.AllData extra placed) hnull
    (fun _ hold => hold) (fun _ _ _ _ hdata hold => Environment.allData_edit hold hdata) hsteps h

end Sitemap
