import Mathlib.Data.List.Induction
import Flashcards.Proofs.Hoist.Supply
import Flashcards.Proofs.Session.Alike
import Flashcards.Proofs.Session.History

/-!
# What a session claims stays loaded

Whatever happens to a session, each address that has been claimed is loaded on the page once, and what is loaded stays loaded when other
decks are shown (`History.claimed_stays_loaded`). The exception is an element of the name of the region for libraries in the cards: a library that is
claimed while there is one goes into the cards and is lost with them (`History.claimed_lost`).

Each operation of a session supplies its workspace (`Workspace.Supplies`); libraries go astray only where the cards have such an element
before the operation or after it.
-/

namespace Flashcards

open Text Markup Markup.Node

/-- A card that is made adds to the page what its faces give up, once, also where it cannot be made. -/
theorem Card.render_supplies (note : Note) (model : Option NoteModel) (mode : RenderMode) (w : Workspace) :
    w.Supplies w.Astray (Card.render note model mode w).1 := by
  rw [render_eq]
  split
  · rw [fromTemplate_eq]
    exact Workspace.take_supplies w (Harvest.ofFragment_addressed _ _)
  · exact Workspace.Supplies.refl w

namespace Layout

theorem run_resources (l : Layout) (content : Text) : (l.run content).links = l.links ∧ (l.run content).library = l.library := by
  rw [run]
  split <;> exact ⟨rfl, rfl⟩

theorem reset_resources (l : Layout) : l.reset.links = l.links ∧ l.reset.library = l.library := by
  rw [reset]
  split <;> exact ⟨rfl, rfl⟩

end Layout

namespace Session

variable {s s' : Session} {astray : Prop}

/-! ## Operations that add nothing -/

/-- A change of the page that adds no style sheet and no library. -/
theorem supplies_onPage {change : Page → Page} (s : Session)
    (h : ∀ l, s.page.LaidOut l → ∃ l' : Layout, (change s.page).LaidOut l' ∧ l'.links = l.links ∧ l'.library = l.library) :
    s.workspace.Supplies astray (s.onPage change).workspace :=
  Workspace.Supplies.of_page rfl h

/-- A message stands in the place of the cards, or nothing does. -/
theorem showMessage_resources {p : Page} {l : Layout} (hl : p.LaidOut l) (t : Text) :
    ∃ l' : Layout, (p.showMessage t).1.LaidOut l' ∧ l'.links = l.links ∧ l'.library = l.library := by
  rw [Page.showMessage]
  split
  · rename_i nodes _
    exact ⟨_, Page.showNodes_laidOut hl nodes, rfl, rfl⟩
  · exact ⟨_, Page.clearCards_laidOut hl, rfl, rfl⟩

theorem showMessage_supplies (t : Text) (s : Session) : s.workspace.Supplies astray (s.showMessage t).workspace :=
  supplies_onPage s fun _ hl => showMessage_resources hl t

theorem select_supplies (node : DeckNode) (s : Session) : s.workspace.Supplies astray (s.select node).workspace := by
  refine Workspace.Supplies.of_page rfl fun l hl => ?_
  exact showMessage_resources (Page.setControls_laidOut (Page.setTitle_laidOut hl node.name) s.mode.name) Chrome.loading

theorem click_supplies (i : Nat) (s : Session) : s.workspace.Supplies astray (s.click i).workspace := by
  rw [click]
  split
  · exact Workspace.Supplies.refl _
  · split
    · exact supplies_onPage s fun _ hl => ⟨_, Page.showNodes_laidOut hl _, rfl, rfl⟩
    · exact Workspace.Supplies.refl _

theorem clearTable_supplies (s : Session) : s.workspace.Supplies astray s.clearTable.workspace := by
  refine Workspace.Supplies.of_page rfl fun l hl => ?_
  exact ⟨_, Page.resetScripts_laidOut (Page.clearCards_laidOut hl), Layout.reset_resources { l with cards := [] }⟩

theorem placeCard_supplies (card : Card) (s : Session) : s.workspace.Supplies astray (s.placeCard card).workspace :=
  supplies_onPage s fun _ hl => ⟨_, Page.appendCard_laidOut hl card.element, rfl, rfl⟩

theorem runDeferred_supplies (s : Session) : s.workspace.Supplies astray s.runDeferred.workspace := by
  have hfold : ∀ (scripts : List Text) (s : Session),
      s.workspace.Supplies astray (s.onPage fun p => scripts.foldl (fun p t => p.runScript t) p).workspace := by
    intro scripts
    induction scripts with
    | nil => exact fun s => Workspace.Supplies.refl _
    | cons t scripts ih =>
      intro s
      have hrun : s.workspace.Supplies astray (s.onPage fun p => p.runScript t).workspace :=
        supplies_onPage s fun l hl => ⟨_, Page.runScript_laidOut hl t, l.run_resources t⟩
      exact hrun.trans (ih _)
  exact hfold s.workspace.deferred.items s

theorem fail_supplies (selection : Selection) (failure : Failure) (s : Session) :
    s.workspace.Supplies astray (s.fail selection failure).1.workspace := by
  rw [fail]
  split
  · refine Workspace.Supplies.of_page rfl fun l hl => ?_
    obtain ⟨l', hl', hlinks, hlibrary⟩ :=
      showMessage_resources (Page.resetScripts_laidOut hl) (Chrome.errorMarkup failure.message)
    exact ⟨l', hl', hlinks.trans l.reset_resources.1, hlibrary.trans l.reset_resources.2⟩
  · exact Workspace.Supplies.refl _

/-! ## Operations that take resources in -/

theorem register_supplies (models : List NoteModel) (s : Session) :
    s.workspace.Supplies s.workspace.Astray (s.register models).1.workspace :=
  Workspace.preloadAll_supplies (Workspace.templateTexts models) s.workspace

theorem takeRootModels_supplies (resource : Option Json) (s : Session) :
    s.workspace.Supplies s.workspace.Astray (s.takeRootModels resource).1.workspace := by
  cases resource with
  | none => exact Workspace.Supplies.refl _
  | some data =>
    have hr := s.register_supplies (NoteModel.listOf data)
    rw [takeRootModels]
    generalize s.register (NoteModel.listOf data) = r at hr ⊢
    obtain ⟨s', failure⟩ := r
    cases failure with
    | some failure => exact hr
    | none => exact hr

/-- Where an element that leads libraries astray is kept, it is still there. -/
theorem Keeps.leads_astray (h : s.Keeps s') {l : Layout} (hl : s.page.LaidOut l) (ha : s.workspace.Astray) : s'.workspace.Astray := by
  by_cases hn : s'.workspace.Astray
  · exact hn
  · have hfalse : carry Page.libraryId s'.page.cards = false := Bool.eq_false_iff.2 hn
    exact absurd (h.carry_eq_false hl hfalse) (by rw [show carry Page.libraryId s.page.cards = true from ha]; decide)

/-- What the cards of a deck give up is on the page, unless one of them has an element that leads it astray. -/
theorem renderFrom_supplies (node : DeckNode) (total : Nat) (notes : List Note) (done : Nat) (s : Session) :
    s.workspace.Supplies (s.renderFrom node total done notes).1.workspace.Astray (s.renderFrom node total done notes).1.workspace := by
  induction notes generalizing done s with
  | nil => exact Workspace.Supplies.refl _
  | cons note notes ih =>
    intro l hl
    have hkeeps := keeps_renderFrom node total (note :: notes) done s
    have hcard := (Card.render_supplies note (s.models.resolve note) s.mode s.workspace).mono (hkeeps.leads_astray hl)
    rw [renderFrom] at hcard ⊢
    generalize Card.render note (s.models.resolve note) s.mode s.workspace = r at hcard ⊢
    obtain ⟨w, made⟩ := r
    cases made with
    | error failure => exact hcard l hl
    | ok card =>
      have hrest := ih (done + 1) ((({ s with workspace := w } : Session).placeCard card).notify (Notice.progress node.name (done + 1) total))
      refine (hcard.trans (Workspace.Supplies.trans ?_ hrest)) l hl
      exact placeCard_supplies card { s with workspace := w }

theorem renderDeck_supplies (node : DeckNode) (notes : List Note) (s : Session) :
    s.workspace.Supplies (s.renderDeck node notes).1.workspace.Astray (s.renderDeck node notes).1.workspace := by
  have hcards := renderFrom_supplies node notes.length notes 0 s.clearTable
  rw [renderDeck]
  dsimp only
  split
  · exact (clearTable_supplies s).trans (showMessage_supplies Chrome.noNotes _)
  · intro l hl
    have hclear : s.clearTable.page.LaidOut _ := Page.resetScripts_laidOut (Page.clearCards_laidOut hl)
    obtain ⟨l', hl', -⟩ := keeps_renderFrom node notes.length notes 0 s.clearTable _ hclear
    split
    · rename_i s' failure hr
      rw [hr] at hcards
      exact ((clearTable_supplies s).trans hcards) l hl
    · rename_i s' hr
      rw [hr] at hcards hl'
      have hrun := hcards.mono ((keeps_runDeferred s').leads_astray hl')
      exact ((clearTable_supplies s).trans (hrun.trans (runDeferred_supplies s'))) l hl

theorem showDeck_supplies (selection : Selection) (notes : List Note) (models : Option Json) (s : Session) :
    s.workspace.Supplies (s.workspace.Astray ∨ (s.showDeck selection notes models).1.workspace.Astray)
      (s.showDeck selection notes models).1.workspace := by
  have hr := s.register_supplies ((models.map NoteModel.listOf).getD [])
  rw [showDeck]
  generalize s.register ((models.map NoteModel.listOf).getD []) = p at hr ⊢
  obtain ⟨s', failure⟩ := p
  cases failure with
  | some failure => exact hr.mono Or.inl
  | none =>
    dsimp only
    split
    · exact (hr.mono Or.inl).trans ((renderDeck_supplies selection.node notes s').mono Or.inr)
    · exact hr.mono Or.inl

end Session

/-- The end of a call supplies the page. -/
theorem SessionDesk.Ending.supplies {d : SessionDesk} {job : CallJob} {call : Nat} {session : Session} {result : Except Failure CallResult}
    (h : SessionDesk.Ending d job call session result) :
    d.session.workspace.Supplies (d.session.workspace.Astray ∨ session.workspace.Astray) session.workspace := by
  cases h with
  | badMode | noRootModels | noDeckModels | noDeck => exact Workspace.Supplies.refl _
  | rootModels => exact (Session.takeRootModels_supplies _ _).mono Or.inl
  | failed => exact Session.fail_supplies _ _ _
  | shown => exact Session.showDeck_supplies _ _ _ _

namespace History

variable {h h' : History}

/-- Whatever becomes of a session supplies its page. -/
theorem Becomes.supplies (hb : h.Becomes h') :
    h.session.workspace.Supplies (h.session.workspace.Astray ∨ h'.session.workspace.Astray) h'.session.workspace := by
  cases hb with
  | ends hj he hs hst hend =>
    rw [hs]
    exact he.supplies
  | @opens i job call node mode hj ho hs hst hend =>
    rw [hs]
    exact Session.select_supplies node { h.session with mode := mode }
  | hoisted librariesOnly fragment hs hst hend =>
    rw [hs]
    exact (Workspace.strip_supplies librariesOnly fragment h.session.workspace).mono Or.inl
  | clicked i hs hst hend =>
    rw [hs]
    exact Session.click_supplies i h.session
  | stays hs hst hend =>
    rw [hs]
    exact Workspace.Supplies.refl _

end History

/-! ## What is claimed and what is loaded -/

/-- The page loads each address that has been claimed, apart from some that are lost. -/
def Workspace.Stocked (lost : List Text) (w : Workspace) : Prop :=
  ∃ l : Layout, w.page.LaidOut l ∧ (∀ t ∈ l.addresses, nonEmpty t = true) ∧ w.claimed.items.Perm (l.addresses ++ lost)

namespace Workspace

variable {w w' : Workspace} {lost : List Text} {astray : Prop}

theorem blank_stocked : blank.Stocked [] := ⟨Layout.initial, Page.blank_laidOut, fun _ h => (by cases h), List.Perm.refl []⟩

/-- What the page loads and what is lost have been claimed, and nothing else has. -/
theorem Stocked.claimed_perm (h : w.Stocked lost) : w.claimed.items.Perm (w.page.resources ++ lost) := by
  obtain ⟨l, hl, hn, hp⟩ := h
  rw [Page.resources_eq hl hn]
  exact hp

theorem Stocked.mem_claimed (h : w.Stocked lost) {t : Text} (ht : t ∈ w.page.resources) : t ∈ w.claimed.items :=
  h.claimed_perm.mem_iff.2 (List.mem_append_left _ ht)

/-- The page loads nothing twice. -/
theorem Stocked.nodup_resources (h : w.Stocked lost) : w.page.resources.Nodup :=
  (List.nodup_append.1 (h.claimed_perm.nodup w.claimed.nodup)).1

/-- The style sheets that the page loads stand in the head, and its libraries in their own region. -/
theorem Stocked.resources_eq (h : w.Stocked lost) :
    w.page.resources = w.page.links.filterMap stylesheetAddress? ++ w.page.libraries.filterMap libraryAddress? := by
  obtain ⟨l, hl, hn, -⟩ := h
  rw [Page.resources_eq hl hn, Page.filterMap_links hl hn, Page.filterMap_libraries hl hn]
  rfl

/-- What has been claimed since is loaded or lost, and what was loaded before still is. -/
theorem Stocked.supplies (h : w.Stocked lost) (hs : w.Supplies astray w') :
    ∃ strays, w'.Stocked (lost ++ strays) ∧ w.page.resources ⊆ w'.page.resources ∧
      ∀ t ∈ strays, astray ∧ t ∉ w.claimed.items ∧ t ∈ w'.claimed.items := by
  obtain ⟨l, hl, hn, hp⟩ := h
  obtain ⟨l', new, strays, hl', hsupplied, hp', hstray⟩ := hs l hl
  have hn' : ∀ t ∈ l'.addresses, nonEmpty t = true := by
    intro t ht
    exact (List.mem_append.1 (hsupplied.perm.mem_iff.1 ht)).elim (hn t) (hsupplied.nonEmpty t)
  refine ⟨strays, ⟨l', hl', hn', ?_⟩, ?_, ?_⟩
  · have hlayout := hsupplied.perm
    rw [List.perm_iff_count] at hp hp' hlayout ⊢
    intro t
    have h1 := hp t
    have h2 := hp' t
    have h3 := hlayout t
    simp only [List.count_append] at h1 h2 h3 ⊢
    omega
  · rw [Page.resources_eq hl hn, Page.resources_eq hl' hn']
    intro t ht
    exact hsupplied.perm.mem_iff.2 (List.mem_append_left _ ht)
  · intro t ht
    have hnodup := hp'.nodup w'.claimed.nodup
    rw [List.append_assoc, List.nodup_append] at hnodup
    refine ⟨hstray (List.ne_nil_of_mem ht), fun hold => ?_, hp'.mem_iff.2 (List.mem_append_right _ ht)⟩
    exact hnodup.2.2 t hold t (List.mem_append_right _ ht) rfl

end Workspace

namespace History

/-- An address is claimed by the last thing that happens, while the cards have an element of the name of the region for libraries, before
it or after it. -/
def ClaimedAstray (mode : RenderMode) (rootModels : Json) (t : Text) (xs : List Happening) : Prop :=
  ∃ ys x, xs = ys ++ [x] ∧ t ∉ ((fresh mode rootModels).through ys).session.workspace.claimed.items ∧
    t ∈ ((fresh mode rootModels).through xs).session.workspace.claimed.items ∧
    (((fresh mode rootModels).through ys).session.workspace.Astray ∨ ((fresh mode rootModels).through xs).session.workspace.Astray)

/-- What has become of the addresses that a session has claimed. -/
structure Loaded (mode : RenderMode) (rootModels : Json) (xs : List Happening) : Prop where
  /-- No resource is loaded twice. -/
  once : ((fresh mode rootModels).through xs).session.page.resources.Nodup
  /-- What is loaded is a style sheet in the head or a library in the page's own region for libraries. -/
  places : ((fresh mode rootModels).through xs).session.page.resources =
    ((fresh mode rootModels).through xs).session.page.links.filterMap stylesheetAddress? ++
      ((fresh mode rootModels).through xs).session.page.libraries.filterMap libraryAddress?
  /-- What is loaded has been claimed. -/
  claimed : ∀ t ∈ ((fresh mode rootModels).through xs).session.page.resources,
    t ∈ ((fresh mode rootModels).through xs).session.workspace.claimed.items
  /-- What is loaded stays loaded, whatever happens. -/
  stays : ∀ more, ((fresh mode rootModels).through xs).session.page.resources ⊆
    ((fresh mode rootModels).through (xs ++ more)).session.page.resources
  /-- What has been claimed is loaded, unless it was claimed while the cards had an element of the name of the region for libraries. -/
  lost : ∀ t ∈ ((fresh mode rootModels).through xs).session.workspace.claimed.items,
    t ∈ ((fresh mode rootModels).through xs).session.page.resources ∨ ∃ ys, ys <+: xs ∧ ClaimedAstray mode rootModels t ys
  /-- So if the cards have never had such an element, each address that has been claimed is loaded once, and nothing else is. -/
  exact : (∀ ys, ys <+: xs → ¬ ((fresh mode rootModels).through ys).session.workspace.Astray) →
    ((fresh mode rootModels).through xs).session.page.resources.Perm
      ((fresh mode rootModels).through xs).session.workspace.claimed.items

variable {mode : RenderMode} {rootModels : Json} {xs : List Happening}

/-- In every history, the page loads what has been claimed, apart from what went astray when it was claimed. -/
theorem stocked (mode : RenderMode) (rootModels : Json) (xs : List Happening) :
    ∃ lost, ((fresh mode rootModels).through xs).session.workspace.Stocked lost ∧
      ∀ t ∈ lost, ∃ ys, ys <+: xs ∧ ClaimedAstray mode rootModels t ys := by
  induction xs using List.reverseRecOn with
  | nil => exact ⟨[], Workspace.blank_stocked, fun _ h => (by cases h)⟩
  | append_singleton xs x ih =>
    obtain ⟨lost, hstocked, hlost⟩ := ih
    have hlast : (fresh mode rootModels).through (xs ++ [x]) = ((fresh mode rootModels).through xs).happen x :=
      through_append xs [x] _
    have hs := (becomes ((fresh mode rootModels).through xs) x).supplies
    rw [← hlast] at hs
    obtain ⟨strays, hstocked', -, hstrays⟩ := hstocked.supplies hs
    refine ⟨lost ++ strays, hstocked', fun t ht => ?_⟩
    rcases List.mem_append.1 ht with ht | ht
    · obtain ⟨ys, hys, hclaimed⟩ := hlost t ht
      exact ⟨ys, hys.trans (List.prefix_append xs [x]), hclaimed⟩
    · obtain ⟨hastray, hold, hnew⟩ := hstrays t ht
      exact ⟨xs ++ [x], List.prefix_refl _, xs, x, rfl, hold, hnew, hastray⟩

/-- In every history the page has a layout. -/
theorem exists_laidOut (mode : RenderMode) (rootModels : Json) (xs : List Happening) :
    ∃ l : Layout, ((fresh mode rootModels).through xs).session.page.LaidOut l := by
  obtain ⟨_, ⟨l, hl, -⟩, -⟩ := stocked mode rootModels xs
  exact ⟨l, hl⟩

/-- What is loaded stays loaded. -/
theorem resources_subset (xs more : List Happening) :
    ((fresh mode rootModels).through xs).session.page.resources ⊆
      ((fresh mode rootModels).through (xs ++ more)).session.page.resources := by
  induction more using List.reverseRecOn with
  | nil => rw [List.append_nil]; exact List.Subset.refl _
  | append_singleton more x ih =>
    obtain ⟨lost, hstocked, -⟩ := stocked mode rootModels (xs ++ more)
    have hs := (becomes ((fresh mode rootModels).through (xs ++ more)) x).supplies
    obtain ⟨-, -, hsub, -⟩ := hstocked.supplies hs
    have hlast : (fresh mode rootModels).through (xs ++ (more ++ [x])) = ((fresh mode rootModels).through (xs ++ more)).happen x := by
      rw [← List.append_assoc]
      exact through_append (xs ++ more) [x] _
    rw [hlast]
    exact List.Subset.trans ih hsub

/-- Whatever happens to a session, what it has claimed is loaded once, and stays loaded, apart from libraries that go astray. -/
theorem claimed_stays_loaded (mode : RenderMode) (rootModels : Json) (xs : List Happening) : Loaded mode rootModels xs := by
  obtain ⟨lost, hstocked, hlost⟩ := stocked mode rootModels xs
  have hperm := hstocked.claimed_perm
  refine ⟨hstocked.nodup_resources, hstocked.resources_eq, fun t => hstocked.mem_claimed, resources_subset xs, ?_, ?_⟩
  · intro t ht
    exact (List.mem_append.1 (hperm.mem_iff.1 ht)).imp_right (hlost t)
  · intro hnever
    have hnone : lost = [] := by
      refine List.eq_nil_iff_forall_not_mem.2 fun t ht => ?_
      obtain ⟨ys, hys, zs, x, rfl, -, -, hastray⟩ := hlost t ht
      exact hastray.elim (hnever zs ((List.prefix_append zs [x]).trans hys)) (hnever _ hys)
    rw [hnone, List.append_nil] at hperm
    exact hperm.symm

/-! ## Runs in which libraries are taken in -/

/-- A deck is selected, and its notes and its data come. -/
def selected (name notes : Text) : List CallEvent :=
  [.call (.select (Course.deckNamed name))] ++ List.replicate 4 (.run 0) ++ [.answer 0 (.ok notes), .answer 0 (.ok "\x7b\x7d")] ++
    List.replicate 5 (.run 0)

/-- The models that all decks share are asked for and come, with a template that has a library. -/
def rootLibrary : List CallEvent :=
  [.call .loadRootModels, .run 0, .run 0,
    .answer 0 (.ok "\x7b\"note_models\":[\x7b\"tmpls\":[\x7b\"qfmt\":\"<script src=l></script>\"\x7d]\x7d]\x7d"), .run 0, .run 0]

/-- The notes of a deck of one card, which has an element of the name of the region for libraries. -/
def strayNotes : Text :=
  "<div class=\"cards\"><div class=\"card\"><div class=\"field\"><p id=\"library-scripts\"></p></div></div></div>"

/-- A library is taken in, and then a deck is shown that has no notes. -/
def keepsLibrary : List Happening := (rootLibrary ++ selected "b" []).map Happening.event

/-- A library is taken in while a deck is shown whose card has an element of the name of the region for libraries, and then a deck is
shown that has no notes. -/
def losesLibrary : List Happening := (selected "a" strayNotes ++ rootLibrary ++ selected "b" []).map Happening.event

/-- A library that does not go astray is loaded when another deck is shown. -/
theorem claimed_stays_loaded_shown :
    (∀ ys, ys <+: keepsLibrary → ¬ ((fresh .raw (.text "models.json")).through ys).session.workspace.Astray) ∧
      ((fresh .raw (.text "models.json")).through keepsLibrary).session.workspace.claimed.items = [("l" : Text)] ∧
      ((fresh .raw (.text "models.json")).through keepsLibrary).session.page.resources.Perm [("l" : Text)] := by
  have hnever : ∀ n < keepsLibrary.length + 1,
      carry Page.libraryId ((fresh .raw (.text "models.json")).through (keepsLibrary.take n)).session.page.cards = false := by
    decide +kernel
  have hnone : ∀ ys, ys <+: keepsLibrary → ¬ ((fresh .raw (.text "models.json")).through ys).session.workspace.Astray := by
    intro ys hys hastray
    have hn := hnever ys.length (Nat.lt_succ_of_le hys.length_le)
    rw [← List.prefix_iff_eq_take.1 hys] at hn
    exact Bool.false_ne_true (hn.symm.trans hastray)
  have hclaimed : ((fresh .raw (.text "models.json")).through keepsLibrary).session.workspace.claimed.items = [("l" : Text)] := by decide +kernel
  exact ⟨hnone, hclaimed, hclaimed ▸ (claimed_stays_loaded .raw (.text "models.json") keepsLibrary).exact hnone⟩

/-- It is not true that each address that a session has claimed is always loaded. -/
theorem claimed_lost :
    ¬ ∀ (mode : RenderMode) (rootModels : Json) (xs : List Happening),
      ((fresh mode rootModels).through xs).session.page.resources.Perm
        ((fresh mode rootModels).through xs).session.workspace.claimed.items := by
  intro h
  have hperm := h .raw (.text "models.json") losesLibrary
  have hclaimed : ((fresh .raw (.text "models.json")).through losesLibrary).session.workspace.claimed.items = [("l" : Text)] := by decide +kernel
  have hloaded : ((fresh .raw (.text "models.json")).through losesLibrary).session.page.resources = [] := by decide +kernel
  rw [hclaimed, hloaded] at hperm
  exact absurd hperm.length_eq (by decide)

end History

end Flashcards
