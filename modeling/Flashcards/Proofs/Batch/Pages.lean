import Flashcards.Proofs.Batch.Files
import Flashcards.Proofs.Session.Sole

/-!
# The pages of a batch

A batch goes through the decks that are chosen, one after the other, and writes a page for each. What it finds outside may change all the time;
only its files are followed here (`Surroundings.Files`). When a batch has gone through all its decks, the page that has been written for each is
that of the session as it was right after the call for that deck, which presented it (`Batch.renderAll_writes`).

Since different decks may have the same file, a page may be lost: what a file holds in the end is the page of the last deck whose file it is
(`Batch.pages_kept`), and there are decks whose pages are lost (`Batch.pages_lost`).
-/

namespace Flashcards

open Text

/-! ## Files outside -/

/-- The files at paths. -/
abbrev Shelf := Text → Option Text

/-- A file put on a shelf. -/
def Shelf.put (shelf : Shelf) (file : Text × Text) : Shelf := fun path => if path = file.1 then some file.2 else shelf path

variable {World : Type}

/-- The surroundings of a batch, in which the files are known: a text that is written stands at its path, and nothing else changes a file. -/
structure Surroundings.Files (s : Surroundings (StateM World)) (files : World → Shelf) : Prop where
  look : ∀ place w, files (s.look place w).2 = files w
  request : ∀ address w, files (s.request address w).2 = files w
  makeDirectory : ∀ path w, files (s.makeDirectory path w).2 = files w
  log : ∀ level message w, files (s.log level message w).2 = files w
  write : ∀ path text w, files (s.write path text w).2 = (files w).put (path, text)

namespace Batch

variable {s : Surroundings (StateM World)} {files : World → Shelf}

/-- A resource that is fetched leaves the files as they are. -/
theorem files_fetch (hs : s.Files files) (source : DeckSource) (path : Json) (w : World) :
    files (source.fetch s.toOutside path w).2 = files w := by
  unfold DeckSource.fetch
  cases pathText path with
  | error failure => rfl
  | ok t =>
    dsimp only
    unfold DeckSource.fetchText
    cases source with
    | directory root =>
      dsimp only
      cases root.placeOf t with
      | error failure => rfl
      | ok place => exact hs.look place w
    | web site =>
      dsimp only
      cases site.addressOf t with
      | error failure => rfl
      | ok address => exact hs.request address w

/-! ## Calls worked off -/

/-- As long as something is left to do, there is some burden. -/
theorem atRest_of_burden {c : Course} (h : SessionDesk.burden.of c.agenda = 0) : c.AtRest := by
  constructor
  · cases hready : c.agenda.ready with
    | nil => rfl
    | cons job jobs =>
      have hle := SessionDesk.burden.job_le_of (a := c.agenda) (i := 0) (by rw [hready]; rfl : c.agenda.ready[0]? = some job)
      have hpos := job.burden_pos
      rw [show SessionDesk.burden.job job = job.burden from rfl] at hle
      omega
  · cases hout : c.agenda.out with
    | nil => rfl
    | cons fetch fetches =>
      have hle := SessionDesk.burden.fetch_le_of (a := c.agenda) (i := 0) (by rw [hout]; rfl : c.agenda.out[0]? = some fetch)
      rw [show SessionDesk.burden.fetch fetch = 2 from rfl] at hle
      omega

/-- There are steps enough for a call that is made when no other is under way. -/
theorem burden_call {c : Course} (h : c.Idle) (request : Request) :
    SessionDesk.burden.of (c.step (.call request)).agenda ≤ SessionAgenda.enough (c.step (.call request)).agenda := by
  have hrest : SessionDesk.burden.of c.agenda = 0 := by
    have hgathering := h.orderly.balanced.no_gathering h.lacking h.rest.1 h.rest.2
    have hloads := h.orderly.balanced.no_loads h.rest.1 h.rest.2
    rw [Measure.of, h.rest.1, h.rest.2]
    simp only [SessionDesk.burden, hgathering, Cache.holds, Cache.total, hloads]
    rfl
  have hcall : SessionDesk.burden.of (c.step (.call request)).agenda =
      SessionDesk.burden.of c.agenda + (CallJob.begin c.agenda.state.calls request).burden :=
    SessionDesk.burden.of_add _ _
  have hjob : (CallJob.begin c.agenda.state.calls request).burden ≤ 15 := by
    cases request <;> simp [CallJob.burden]
  have hone : 1 ≤ (c.step (.call request)).agenda.ready.length := by
    show 1 ≤ (c.agenda.ready ++ [_]).length
    rw [List.length_append]
    exact Nat.le_add_left 1 _
  rw [SessionAgenda.enough]
  omega

/-- A call that is worked off with steps enough comes to rest, and what each of its steps keeps holds then. -/
theorem settleWith_atRest {I : Course → Prop} (hbalanced : ∀ c, I c → c.agenda.Balanced) (hrun : ∀ c i, I c → I (c.step (.run i)))
    (hanswer : ∀ c i answer, I c → I (c.step (.answer i answer))) {fetch : Json → StateM World Answer}
    (hfetch : ∀ path w, files (fetch path w).2 = files w) (steps : Nat) {c : Course} (hc : I c)
    (hsteps : SessionDesk.burden.of c.agenda ≤ steps) (w : World) :
    ∃ c' : Course, c'.agenda = (Agenda.settleWith SessionDesk.program fetch steps c.agenda w).1 ∧ I c' ∧ c'.AtRest ∧
      files (Agenda.settleWith SessionDesk.program fetch steps c.agenda w).2 = files w := by
  induction steps generalizing c w with
  | zero => exact ⟨c, rfl, hc, atRest_of_burden (Nat.le_zero.1 hsteps), rfl⟩
  | succ steps ih =>
    unfold Agenda.settleWith
    cases hout : c.agenda.out with
    | cons f fs =>
      dsimp only
      have hpos : 0 < c.agenda.out.length := by rw [hout]; exact Nat.succ_pos _
      have hless := (hbalanced c hc).burden_answer hpos (fetch f.path w).1
      obtain ⟨c', hc', hI, hrest, hfiles⟩ :=
        ih (hanswer c 0 (fetch f.path w).1 hc) (Nat.le_of_lt_succ (Nat.lt_of_lt_of_le hless hsteps)) (fetch f.path w).2
      exact ⟨c', hc', hI, hrest, hfiles.trans (hfetch _ _)⟩
    | nil =>
      dsimp only
      cases hready : c.agenda.ready with
      | nil => exact ⟨c, rfl, hc, ⟨hready, hout⟩, rfl⟩
      | cons job jobs =>
        have hpos : 0 < c.agenda.ready.length := by rw [hready]; exact Nat.succ_pos _
        have hless := (hbalanced c hc).burden_run hpos
        obtain ⟨c', hc', hI, hrest, hfiles⟩ := ih (hrun c 0 hc) (Nat.le_of_lt_succ (Nat.lt_of_lt_of_le hless hsteps)) w
        exact ⟨c', hc', hI, hrest, hfiles⟩

/-- A deck that is selected when no other call is under way: the call ends with a failure, or the session presents the deck. -/
theorem call_select (hs : s.Files files) (source : DeckSource) (node : DeckNode) {c : Course} (hc : c.Idle) (hf : c.Faithful) (w : World) :
    ∃ (c' : Course) (result : Except Failure CallResult),
      (call s source (.select node) c.agenda w).1 = (some result, c'.agenda) ∧ c'.Idle ∧ c'.Faithful ∧
      files (call s source (.select node) c.agenda w).2 = files w ∧
      ((∃ failure, result = .error failure) ∨ ∃ r, result = .ok (.shown r) ∧ c'.session.Presents node r) := by
  obtain ⟨l, hl⟩ := hf.laidOut
  obtain ⟨c', hagenda, ⟨hsole, hfaithful⟩, hrest, hfiles⟩ :=
    settleWith_atRest (I := fun d => Sole c node d ∧ d.Faithful) (fun d hd => hd.1.orderly.balanced)
      (fun d i hd => ⟨hd.1.run hc hl i, hd.2.step hd.1.orderly _⟩)
      (fun d i answer hd => ⟨hd.1.answer i answer, hd.2.step hd.1.orderly _⟩) (files_fetch hs source)
      (SessionAgenda.enough (c.step (.call (.select node))).agenda) ⟨Sole.of_idle hc node, hf.step hc.orderly _⟩ (burden_call hc _) w
  obtain ⟨result, hended, hresult⟩ := hsole.ends hrest hc
  refine ⟨c', result, ?_, ⟨hsole.orderly, hsole.lacking, hrest⟩, hfaithful, hfiles, hresult⟩
  rw [← hc.result?_of_ended hended, hagenda]
  rfl

/-! ## Decks -/

/-- What is done after something else is done with what it comes to, in the world that it leaves. -/
theorem bind_apply {α β : Type} (x : StateM World α) (f : α → StateM World β) (w : World) : (x >>= f) w = f (x w).1 (x w).2 := rfl

/-- The file for the page of a deck. -/
def fileOf (output : Text) (node : DeckNode) : Text := fileIn output (PageFile.name node.path)

/-- Where a batch stands when it has gone through some of its decks: the session, and the world outside. -/
abbrev Stand (World : Type) := SessionAgenda × World

/-- What is done with a deck: it is selected, and where the session shows it, its page is written, and this is logged. -/
def showDeck (s : Surroundings (StateM World)) (output : Text) (source : DeckSource) (p : Stand World) (node : DeckNode) : Stand World :=
  let ((result, a), w) := call s source (.select node) p.1 p.2
  match result with
  | some (.ok (.shown result)) =>
    let w := (s.write (fileOf output node) a.state.session.page.render w).2
    (a, (s.log Logging.information (pageMessage result (fileOf output node)) w).2)
  | _ => (a, w)

/-- A text is the page of the session right after the call for a deck, which the session presents then. -/
def IsPageOf (s : Surroundings (StateM World)) (source : DeckSource) (p : Stand World) (node : DeckNode) (text : Text) : Prop :=
  ∃ (r : DeckResult) (a : SessionAgenda) (w : World), call s source (.select node) p.1 p.2 = ((some (.ok (.shown r)), a), w) ∧
    a.state.session.Presents node r ∧ text = a.state.session.page.render

/-- Texts are the pages of decks that are gone through one after the other. -/
inductive ArePagesOf (s : Surroundings (StateM World)) (output : Text) (source : DeckSource) :
    Stand World → List DeckNode → List Text → Prop
  | nil {p : Stand World} : ArePagesOf s output source p [] []
  | cons {p : Stand World} {node : DeckNode} {nodes : List DeckNode} {page : Text} {pages : List Text}
      (h : IsPageOf s source p node page) (hs : ArePagesOf s output source (showDeck s output source p node) nodes pages) :
      ArePagesOf s output source p (node :: nodes) (page :: pages)

/-- What becomes of the files when pages are written for decks, one after the other. -/
def filed (output : Text) (nodes : List DeckNode) (pages : List Text) (shelf : Shelf) : Shelf :=
  ((nodes.map (fileOf output)).zip pages).foldl Shelf.put shelf

/-- What is done with a deck depends on what its selection comes to. -/
theorem renderAll_cons (s : Surroundings (StateM World)) (output : Text) (source : DeckSource) (success : Bool) (node : DeckNode)
    (nodes : List DeckNode) (a : SessionAgenda) (w : World) :
    renderAll s output source success (node :: nodes) a w =
      match (call s source (.select node) a w).1.1 with
      | some (.error failure) => (.crash failure, (call s source (.select node) a w).2)
      | some (.ok (.shown result)) =>
        renderAll s output source (success && result.status != .failed) nodes (showDeck s output source (a, w) node).1
          (showDeck s output source (a, w) node).2
      | _ => renderAll s output source success nodes (call s source (.select node) a w).1.2 (call s source (.select node) a w).2 := by
  rw [renderAll, bind_apply, showDeck]
  generalize call s source (.select node) a w = p
  obtain ⟨⟨_ | _ | result, a'⟩, w'⟩ := p
  · rfl
  · rfl
  · cases result <;> rfl

/-- When all decks have been gone through, each has got a page of its own, that of the session right after the call for it. -/
theorem renderAll_writes (hs : s.Files files) (output : Text) (source : DeckSource) (nodes : List DeckNode) {success : Bool} {c : Course}
    (hc : c.Idle) (hf : c.Faithful) {w w' : World} {code : Nat}
    (hrun : renderAll s output source success nodes c.agenda w = (.exit code, w')) :
    ∃ pages, ArePagesOf s output source (c.agenda, w) nodes pages ∧ files w' = filed output nodes pages (files w) := by
  induction nodes generalizing success c w with
  | nil =>
    obtain ⟨-, rfl⟩ := Prod.mk.inj hrun
    exact ⟨[], .nil, rfl⟩
  | cons node nodes ih =>
    obtain ⟨c', result, hcall, hidle, hfaithful, hfiles, hresult⟩ := call_select hs source node hc hf w
    obtain ⟨w₁, hw₁⟩ : ∃ w₁, call s source (.select node) c.agenda w = ((some result, c'.agenda), w₁) := ⟨_, Prod.ext hcall rfl⟩
    rw [hw₁] at hfiles
    rw [renderAll_cons, hw₁] at hrun
    rcases hresult with ⟨failure, rfl⟩ | ⟨r, rfl, hpresents⟩
    · cases (Prod.mk.inj hrun).1
    · have hshow : showDeck s output source (c.agenda, w) node = (c'.agenda,
          (s.log Logging.information (pageMessage r (fileOf output node))
            (s.write (fileOf output node) c'.session.page.render w₁).2).2) := by
        rw [showDeck, hw₁]
        rfl
      rw [hshow] at hrun
      obtain ⟨pages, hpages, hwritten⟩ := ih hidle hfaithful hrun
      refine ⟨c'.session.page.render :: pages, .cons ⟨r, c'.agenda, w₁, hw₁, hpresents, rfl⟩ (hshow ▸ hpages), ?_⟩
      rw [hwritten, hs.log, hs.write, hfiles]
      rfl

/-! ## The decks that are chosen -/

/-- The decks of a manifest that are chosen by their paths: all where no path is given, and else those that are there. -/
def chosen (manifest : DeckNode) (paths : List Argument) : List DeckNode :=
  if paths.isEmpty then manifest.walk
  else paths.filterMap fun
    | .text path => manifest.find? path
    | .noText => none

theorem findDecks_cons (s : Surroundings (StateM World)) (manifest : DeckNode) (path : Text) (paths : List Argument) (w : World) :
    findDecks s manifest (.text path :: paths) w =
      match manifest.find? path with
      | some node => ((findDecks s manifest paths w).1.map (node :: ·), (findDecks s manifest paths w).2)
      | none => findDecks s manifest paths (s.log Logging.error (missingMessage path) w).2 := by
  rw [findDecks]
  cases manifest.find? path <;> rfl

/-- Decks are looked for without changing a file. -/
theorem findDecks_spec (hs : s.Files files) (manifest : DeckNode) (paths : List Argument) (w : World) :
    files (findDecks s manifest paths w).2 = files w ∧
      ∀ nodes, (findDecks s manifest paths w).1 = .ok nodes →
        nodes = paths.filterMap fun
          | .text path => manifest.find? path
          | .noText => none := by
  induction paths generalizing w with
  | nil => exact ⟨rfl, fun nodes h => (Except.ok.inj h).symm⟩
  | cons path paths ih =>
    cases path with
    | noText => exact ⟨rfl, fun nodes h => (by cases h)⟩
    | text path =>
      rw [findDecks_cons, List.filterMap_cons]
      dsimp only
      cases manifest.find? path with
      | none =>
        obtain ⟨hfiles, hnodes⟩ := ih (s.log Logging.error (missingMessage path) w).2
        exact ⟨hfiles.trans (hs.log _ _ _), hnodes⟩
      | some node =>
        obtain ⟨hfiles, hnodes⟩ := ih w
        refine ⟨hfiles, fun nodes h => ?_⟩
        obtain ⟨others, hothers, rfl⟩ := SessionDesk.ok_of_map h
        rw [hnodes others hothers]

theorem decksFor_spec (hs : s.Files files) (manifest : DeckNode) (paths : List Argument) (w : World) :
    files (decksFor s manifest paths w).2 = files w ∧
      ∀ nodes, (decksFor s manifest paths w).1 = .ok nodes → nodes = chosen manifest paths := by
  unfold decksFor chosen
  cases paths with
  | nil => exact ⟨rfl, fun nodes h => (Except.ok.inj h).symm⟩
  | cons path paths => exact findDecks_spec hs manifest (path :: paths) w

/-! ## Batches -/

/-- A call for the models that all decks share leaves the session with no call under way. -/
theorem call_rootModels (hs : s.Files files) (source : DeckSource) {c : Course} (hc : c.Idle) (hf : c.Faithful) (w : World) :
    ∃ c' : Course, (call s source .loadRootModels c.agenda w).1.2 = c'.agenda ∧ c'.Idle ∧ c'.Faithful ∧
      files (call s source .loadRootModels c.agenda w).2 = files w := by
  obtain ⟨c', hagenda, ⟨horderly, hlacking, hfaithful⟩, hrest, hfiles⟩ :=
    settleWith_atRest (I := fun d => d.Orderly ∧ d.agenda.state.Lacking ∧ d.Faithful) (fun d hd => hd.1.balanced)
      (fun d i hd => ⟨hd.1.step _, hd.1.balanced.lacking_step hd.2.1 _, hd.2.2.step hd.1 _⟩)
      (fun d i answer hd => ⟨hd.1.step _, hd.1.balanced.lacking_step hd.2.1 _, hd.2.2.step hd.1 _⟩) (files_fetch hs source)
      (SessionAgenda.enough (c.step (.call .loadRootModels)).agenda)
      ⟨hc.orderly.step _, hc.orderly.balanced.lacking_step hc.lacking _, hf.step hc.orderly _⟩ (burden_call hc _) w
  exact ⟨c', hagenda.symm, ⟨horderly, hlacking, hrest⟩, hfaithful, hfiles⟩

/-- A session that has shown nothing has no call under way. -/
theorem fresh_idle (mode : RenderMode) (rootModels : Json) : (Course.fresh mode rootModels).Idle where
  orderly := Course.fresh_orderly mode rootModels
  lacking g hg := by cases hg
  rest := ⟨rfl, rfl⟩

/-- Where a batch stands when it comes to its decks: the models that all decks share have been asked for, and the output directory has been
made. -/
def begun (s : Surroundings (StateM World)) (settings : Settings) (source : DeckSource) (mode : RenderMode) (output : Text) (w : World) :
    Stand World :=
  let ((_, a), w) := call s source .loadRootModels (SessionAgenda.fresh mode (.text settings.rootModels)) w
  (a, (s.makeDirectory output w).2)

theorem renderDecks_writes (hs : s.Files files) (settings : Settings) (o : Options) (source : DeckSource) (nodes : List DeckNode)
    {w w' : World} {code : Nat} (hrun : renderDecks s settings o source nodes w = (.exit code, w')) :
    ∃ mode output pages, RenderMode.ofJson o.mode.toJson = .ok mode ∧ directoryOf o.output = .ok output ∧
      ArePagesOf s output source (begun s settings source mode output w) nodes pages ∧
      files w' = filed output nodes pages (files w) := by
  unfold renderDecks at hrun
  cases hmode : RenderMode.ofJson o.mode.toJson with
  | error failure =>
    rw [hmode] at hrun
    cases (Prod.mk.inj hrun).1
  | ok mode =>
    obtain ⟨c, hagenda, hidle, hfaithful, hfiles⟩ :=
      call_rootModels hs source (fresh_idle mode (.text settings.rootModels)) (Course.fresh_faithful _ _) w
    rw [hmode] at hrun
    dsimp only at hrun
    rw [bind_apply] at hrun
    change (call s source .loadRootModels (SessionAgenda.fresh mode (.text settings.rootModels)) w).1.2 = _ at hagenda
    change files (call s source .loadRootModels (SessionAgenda.fresh mode (.text settings.rootModels)) w).2 = _ at hfiles
    obtain ⟨result, w₁, hcall⟩ : ∃ result w₁,
        call s source .loadRootModels (SessionAgenda.fresh mode (.text settings.rootModels)) w = ((result, c.agenda), w₁) :=
      ⟨_, _, Prod.ext (Prod.ext rfl hagenda) rfl⟩
    rw [hcall] at hfiles hrun
    have hgo : ∀ output,
        renderAll s output source (o.decks.isEmpty || nodes.length == o.decks.length) nodes c.agenda (s.makeDirectory output w₁).2 =
            (.exit code, w') →
          ∃ pages, ArePagesOf s output source (begun s settings source mode output w) nodes pages ∧
            files w' = filed output nodes pages (files w) := by
      intro output hall
      obtain ⟨pages, hpages, hwritten⟩ := renderAll_writes hs output source nodes hidle hfaithful hall
      rw [hs.makeDirectory, hfiles] at hwritten
      refine ⟨pages, ?_, hwritten⟩
      rw [begun, hcall]
      exact hpages
    cases houtput : directoryOf o.output with
    | error failure =>
      rw [houtput] at hrun
      obtain _ | _ | result := result <;> cases (Prod.mk.inj hrun).1
    | ok output =>
      rw [houtput] at hrun
      obtain _ | _ | result := result
      · obtain ⟨pages, hpages⟩ := hgo output hrun
        exact ⟨mode, output, pages, rfl, rfl, hpages⟩
      · cases (Prod.mk.inj hrun).1
      · obtain ⟨pages, hpages⟩ := hgo output hrun
        exact ⟨mode, output, pages, rfl, rfl, hpages⟩

/-- A batch that has gone through its decks has written a page for each, or there was none. -/
theorem renderManifest_writes (hs : s.Files files) (settings : Settings) (o : Options) (source : DeckSource) (manifest : DeckNode)
    {w w' : World} {code : Nat} (hrun : renderManifest s settings o source manifest w = (.exit code, w')) :
    (chosen manifest o.decks = [] ∧ files w' = files w) ∨
      ∃ mode output pages, RenderMode.ofJson o.mode.toJson = .ok mode ∧ directoryOf o.output = .ok output ∧
        ArePagesOf s output source (begun s settings source mode output (decksFor s manifest o.decks w).2) (chosen manifest o.decks) pages ∧
        files w' = filed output (chosen manifest o.decks) pages (files w) := by
  obtain ⟨hfiles, hchosen⟩ := decksFor_spec hs manifest o.decks w
  unfold renderManifest at hrun
  rw [bind_apply] at hrun
  generalize decksFor s manifest o.decks w = p at hfiles hchosen hrun
  obtain ⟨failure | nodes, w₁⟩ := p
  · cases (Prod.mk.inj hrun).1
  · have hfiles : files w₁ = files w := hfiles
    have hchosen := hchosen nodes rfl
    cases nodes with
    | nil =>
      obtain ⟨-, rfl⟩ := Prod.mk.inj hrun
      exact Or.inl ⟨hchosen.symm, hfiles⟩
    | cons node nodes =>
      obtain ⟨mode, output, pages, hmode, houtput, hpages, hwritten⟩ := renderDecks_writes hs settings o source (node :: nodes) hrun
      rw [hfiles] at hwritten
      exact Or.inr ⟨mode, output, pages, hmode, houtput, hchosen ▸ hpages, hchosen ▸ hwritten⟩

/-! ## What files hold in the end -/

/-- A file that is not written stays. -/
theorem foldl_put_of_ne {path : Text} {written : List (Text × Text)} (h : ∀ file ∈ written, file.1 ≠ path) (shelf : Shelf) :
    written.foldl Shelf.put shelf path = shelf path := by
  induction written generalizing shelf with
  | nil => rfl
  | cons file written ih =>
    rw [List.forall_mem_cons] at h
    rw [List.foldl_cons, ih h.2, Shelf.put, if_neg h.1.symm]

/-- A page that is written and not written over stays. -/
theorem filed_of_last {output : Text} {source : DeckSource} {p : Stand World} {nodes : List DeckNode} {pages : List Text}
    (h : ArePagesOf s output source p nodes pages) {earlier later : List DeckNode} {node : DeckNode}
    (hnodes : nodes = earlier ++ node :: later) (hlast : ∀ other ∈ later, fileOf output other ≠ fileOf output node) (shelf : Shelf) :
    ∃ page, filed output nodes pages shelf (fileOf output node) = some page ∧
      IsPageOf s source (earlier.foldl (showDeck s output source) p) node page := by
  induction earlier generalizing p nodes pages shelf with
  | nil =>
    subst hnodes
    cases h with
    | @cons _ _ _ page pages hpage hpages =>
      refine ⟨page, ?_, hpage⟩
      unfold filed
      rw [List.nil_append, List.map_cons, List.zip_cons_cons, List.foldl_cons, foldl_put_of_ne, Shelf.put, if_pos rfl]
      intro file hfile
      obtain ⟨other, hother, heq⟩ := List.mem_map.1 (List.of_mem_zip hfile).1
      exact heq ▸ hlast other hother
  | cons first earlier ih =>
    subst hnodes
    cases h with
    | cons _ hpages => exact ih hpages rfl _

/-- What a batch makes of the files, given the decks that are chosen and where it stands when it comes to them. -/
structure KeepsPages (s : Surroundings (StateM World)) (source : DeckSource) (output : Text) (p : Stand World) (nodes : List DeckNode)
    (before after : Shelf) : Prop where
  /-- Every file lies directly in the output directory, wherever one stands. -/
  inDirectory : ∀ node ∈ nodes, ∀ here,
    Place.ofPath here (fileOf output node) = (Place.ofPath here output).map (· ++ [PageFile.name node.path])
  /-- Two decks have the same file exactly if their paths come to the same when the characters are replaced. -/
  sameFile : ∀ node ∈ nodes, ∀ other ∈ nodes,
    fileOf output node = fileOf output other ↔ PageFile.base node.path = PageFile.base other.path
  /-- Different paths in which nothing has to be replaced but slashes have different files. -/
  plain : ∀ node ∈ nodes, ∀ other ∈ nodes, PageFile.Plain node.path → PageFile.Plain other.path → node.path ≠ other.path →
    fileOf output node ≠ fileOf output other
  /-- A deck keeps its page if its file is not that of a later deck: the page of the session right after the call for it, which comes after
  those for the decks before it. -/
  kept : ∀ earlier node later, nodes = earlier ++ node :: later → (∀ other ∈ later, fileOf output other ≠ fileOf output node) →
    ∃ page, after (fileOf output node) = some page ∧ IsPageOf s source (earlier.foldl (showDeck s output source) p) node page
  /-- No other files are touched. -/
  others : ∀ path, (∀ node ∈ nodes, fileOf output node ≠ path) → after path = before path

theorem keepsPages {source : DeckSource} {output : Text} {p : Stand World} {nodes : List DeckNode} {pages : List Text}
    (h : ArePagesOf s output source p nodes pages) (shelf : Shelf) :
    KeepsPages s source output p nodes shelf (filed output nodes pages shelf) where
  inDirectory node _ here := ofPath_fileIn (PageFile.proper_name node.path) here output
  sameFile node _ other _ := (fileIn_inj (PageFile.proper_name _) (PageFile.proper_name _)).trans PageFile.name_eq_iff_base
  plain node _ other _ hp hq hne heq :=
    hne ((PageFile.name_eq_iff hp hq).1 ((fileIn_inj (PageFile.proper_name _) (PageFile.proper_name _)).1 heq))
  kept earlier node later hnodes hlast := filed_of_last h hnodes hlast shelf
  others path hpath := by
    refine foldl_put_of_ne (fun file hfile => ?_) shelf
    obtain ⟨node, hnode, heq⟩ := List.mem_map.1 (List.of_mem_zip hfile).1
    exact heq ▸ hpath node hnode

/-- When a batch has gone through the decks that are chosen, the output directory holds a file for each, and the page in it is that of the
last deck whose file it is: the page of the session of this batch right after the call for that deck. -/
theorem pages_kept {World : Type} {s : Surroundings (StateM World)} {files : World → Shelf} (hs : s.Files files) (settings : Settings)
    (o : Options) (source : DeckSource) (manifest : DeckNode) (w w' : World) (code : Nat)
    (hrun : renderManifest s settings o source manifest w = (.exit code, w')) :
    (chosen manifest o.decks = [] ∧ files w' = files w) ∨
      ∃ mode output, RenderMode.ofJson o.mode.toJson = .ok mode ∧ directoryOf o.output = .ok output ∧
        KeepsPages s source output (begun s settings source mode output (decksFor s manifest o.decks w).2) (chosen manifest o.decks)
          (files w) (files w') := by
  rcases renderManifest_writes hs settings o source manifest hrun with hnone | ⟨mode, output, pages, hmode, houtput, hpages, hwritten⟩
  · exact Or.inl hnone
  · refine Or.inr ⟨mode, output, hmode, houtput, ?_⟩
    rw [hwritten]
    exact keepsPages hpages (files w)

/-! ## A disk -/

/-- A disk on which the resources of every deck stand, with the files that have been written to it, the last one first. -/
def disk : Surroundings (StateM (List (Text × Text))) where
  look place w :=
    (if place.getLast? = some "deck.json" then .file [0x7b, 0x7d] else if place.getLast? = some "notes.html" then .file [] else .missing, w)
  request _ w := (.answered 404 (.ok []), w)
  makeDirectory _ w := ((), w)
  write path text w := ((), (path, text) :: w)
  log _ _ w := ((), w)

/-- The file at a path is the one that was written last. -/
def onDisk (w : List (Text × Text)) : Shelf := fun path => (w.find? fun file => path = file.1).map (·.2)

theorem disk_files : disk.Files onDisk where
  look _ _ := rfl
  request _ _ := rfl
  makeDirectory _ _ := rfl
  log _ _ _ := rfl
  write path text w := by
    funext other
    change (((path, text) :: w).find? fun file => other = file.1).map (·.2) = _
    rw [Shelf.put, List.find?_cons]
    by_cases h : other = path <;> simp [h, onDisk]

/-- A deck with its resources at the usual places. -/
def deckAt (name path : Text) (children : List DeckNode) : DeckNode := ⟨name, "deck.json", "notes.html", .null, .null, path, children⟩

/-- Two decks, and the deck above them. -/
def pair (first second : Text) : DeckNode :=
  deckAt "Langs" "Langs" [deckAt first ("Langs/" ++ first) [], deckAt second ("Langs/" ++ second) []]

/-- All decks are rendered, and their pages written to a directory. -/
def toDirectory : Options := ⟨.text "decks", .text "manifest.json", .text "raw", [], .text "out", .text "INFO"⟩

/-- A batch of all decks of a manifest on the disk. -/
def batchOf (manifest : DeckNode) : Ending × List (Text × Text) :=
  renderManifest disk (Settings.defaults "home") toDirectory (.directory ⟨["decks"]⟩) manifest []

/-- Three decks with plain paths keep their pages. -/
theorem pages_kept_pair :
    (batchOf (pair "C" "Lean")).1 = .exit 0 ∧ (∀ node ∈ (pair "C" "Lean").walk, PageFile.Plain node.path) ∧
      KeepsPages disk (.directory ⟨["decks"]⟩) "out" (begun disk (Settings.defaults "home") (.directory ⟨["decks"]⟩) .raw "out" [])
        (pair "C" "Lean").walk (onDisk []) (onDisk (batchOf (pair "C" "Lean")).2) := by
  have hrun : (batchOf (pair "C" "Lean")).1 = .exit 0 := by decide +kernel
  have hplain : ∀ node ∈ (pair "C" "Lean").walk, PageFile.Plain node.path := by decide +kernel
  have hpair : ∀ r : Ending × List (Text × Text), r.1 = .exit 0 → r = (.exit 0, r.2) := by
    rintro ⟨ending, w⟩ rfl
    rfl
  have hmode : RenderMode.ofJson toDirectory.mode.toJson = .ok .raw := by decide
  have houtput : directoryOf toDirectory.output = .ok ("out" : Text) := rfl
  refine ⟨hrun, hplain, ?_⟩
  rcases pages_kept disk_files (Settings.defaults "home") toDirectory (.directory ⟨["decks"]⟩) (pair "C" "Lean") []
      (batchOf (pair "C" "Lean")).2 0 (hpair _ hrun) with ⟨hnone, -⟩ | ⟨mode, output, hgiven, hdirectory, hkeeps⟩
  · cases hnone
  · obtain rfl := Except.ok.inj (hmode.symm.trans hgiven)
    obtain rfl := Except.ok.inj (houtput.symm.trans hdirectory)
    exact hkeeps

/-- The paths of two decks differ in characters that are replaced: the page of the first is not what its file holds in the end, and the batch
ends as if nothing were wrong. -/
theorem pages_lost :
    (batchOf (pair "C++" "C#")).1 = .exit 0 ∧
      (pair "C++" "C#").walk.map DeckNode.path = [("Langs" : Text), "Langs/C++", "Langs/C#"] ∧
      (batchOf (pair "C++" "C#")).2.map (·.1) = [("out/Langs_C_.html" : Text), "out/Langs_C_.html", "out/Langs.html"] ∧
      onDisk (batchOf (pair "C++" "C#")).2 "out/Langs_C_.html" ≠ (batchOf (pair "C++" "C#")).2[1]?.map (·.2) := by
  decide +kernel

end Batch

end Flashcards
