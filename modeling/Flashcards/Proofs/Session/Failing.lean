import Flashcards.Proofs.Session.Alone
import Flashcards.Proofs.Session.Growing
import Flashcards.Proofs.Session.Matching
import Flashcards.Proofs.Session.Renderings

/-!
# What a failed selection leaves

When no call is under way, a deck is selected whose data or notes cannot be loaded. Its selection has changed the title, the controls, the cards
and the scripts of the deck, and it may have stored the data of the deck. What the session has taken in is as it was
(`Visit.Failed.keepsResources`), and every path comes to what it came to before (`Visit.Failed.outcome_eq`): a path is stored only if its load
has ended well, with what it comes to anyway.

The deck that is selected next clears what is left. So the two sessions in which its selection begins match (`Session.select_matches`), and it
comes to what it comes to alone (`History.failure_leaves_no_trace`).

Two things may tell that a selection has failed (`History.failure_leaves_traces`). A library that went into a card, since the card has an
element of the name of the region, is lost when the cards are. And a deck whose call fails before anything of it is shown keeps the cards of
the deck before, which a selection that has failed has taken away.
-/

namespace Flashcards

open Text Markup Markup.Node

namespace Session

variable {s s' : Session} {l l' : Layout}

/-- A selection that is brought to its end has not failed. -/
theorem showDeck_status {selection : Selection} {notes : List Note} {models : Option Json} {r : DeckResult}
    (h : (s.showDeck selection notes models).2 = .ok r) : r.status ≠ .failed := by
  rw [showDeck] at h
  split at h
  · cases h
  · split at h
    · rw [renderDeck] at h
      dsimp only at h
      split at h
      · cases h
        simp
      · split at h
        · cases h
        · cases h
          simp
    · cases h
      simp [superseded]

/-- A failure of the newest selection stands on the page, where the scripts of the deck have been reset. -/
theorem fail_laidOut {selection : Selection} (hl : s.page.LaidOut l) (h : s.isNewest selection = true)
    (hc : carry Page.deferredId l.cards = false) (failure : Failure) :
    (s.fail selection failure).1.page.LaidOut { l with cards := [Page.errorBox failure.message], deferred := [] } := by
  have hr := Page.resetScripts_laidOut hl
  rw [Layout.reset_eq hc] at hr
  rw [fail, if_pos h]
  exact showMessage_laidOut hr (Page.fragment_errorMarkup failure.message)

theorem select_isNewest (call : Nat) (node : DeckNode) (s : Session) :
    (s.select node).isNewest ⟨call, node, s.token + 1⟩ = true := beq_self_eq_true _

/-- The selection of a deck begins alike in two sessions that have the same resources. -/
theorem select_matches (hl : s.page.LaidOut l) (hl' : s'.page.LaidOut l') (hlinks : l'.links = l.links) (hlibrary : l'.library = l.library)
    (hmode : s'.mode = s.mode) (hmodels : s'.models = s.models) (hnotices : s'.notices = s.notices)
    (hclaimed : s'.workspace.claimed = s.workspace.claimed) (node : DeckNode) : (s.select node).Matches (s'.select node) := by
  refine ⟨hmode, hmodels, rfl, hnotices, hclaimed, _, l'.deferred, select_laidOut hl node, ?_, rfl, rfl⟩
  have hselect := select_laidOut hl' node
  rw [hlinks, hlibrary, hmode] at hselect
  exact hselect

/-- What a session has taken in is as it was: the models, the addresses claimed, and what stands on the page for them. The element that is found
by the name of the region for libraries is as it was, too, if no card had an element of that name. -/
structure KeepsResources (s s' : Session) : Prop where
  models : s'.models = s.models
  claimed : s'.workspace.claimed = s.workspace.claimed
  links : s'.page.links = s.page.links
  libraries : s'.page.libraries = s.page.libraries
  region : ¬ s.workspace.Astray → s'.page.byId? Page.libraryId = s.page.byId? Page.libraryId

end Session

/-! ## Errands that fail -/

namespace Errand

variable {e e' : Errand} {d : SessionDesk}

/-- The notes of a deck whose selection fails cannot be shown. -/
theorem notes_of_failed {s : Session} {r : DeckResult} (h : (e.result s).2 = .ok r) (hr : r.status = .failed) :
    ∃ failure, e.notes = .error failure := by
  cases hn : e.notes with
  | error failure => exact ⟨failure, rfl⟩
  | ok notes =>
    rw [result, hn] at h
    cases hm : e.models with
    | error failure =>
      rw [hm] at h
      cases h
    | ok models =>
      rw [hm] at h
      exact absurd hr (Session.showDeck_status h)

/-- What has been stored for a deck that cannot be shown changes nothing of what any path comes to. -/
theorem Covers.comesTo_of_failed (h : e.Covers d) {failure : Failure} (hn : e.notes = .error failure) (path : Json) :
    d.cache.comesTo e.source path = e.outcome path := by
  refine h.comesTo_eq fun p hl hkey => ?_
  obtain ⟨_, ha⟩ := hl.awaited
  cases ha with
  | data => exact (Json.eq_text_of_key hkey.symm).symm
  | models hn' _ =>
    rw [hn] at hn'
    cases hn'

/-- The notes of a deck and its models depend on what paths come to. -/
theorem fetched_congr (hnode : e'.selection.node = e.selection.node) (hs : e'.source = e.source)
    (ho : ∀ path, e'.outcome path = e.outcome path) : e'.notes = e.notes ∧ e'.models = e.models := by
  refine ⟨?_, ?_⟩
  · rw [notes, notes, markup, markup, dataPath, dataPath, ho, hnode, hs]
  · rw [models, models, modelsPath, modelsPath, ho, hnode]

end Errand

/-- How the selection of a deck has ended that a call was made for, if it has ended so. -/
def CallResult.status? : Except Failure CallResult → Option DeckStatus
  | .ok (.shown r) => some r.status
  | _ => none

namespace Visit

variable {source : Source} {before : Course} {node : DeckNode}

/-- The selection has failed. -/
def Failed (v : Visit source before node) : Prop := v.result?.bind CallResult.status? = some .failed

/-- A selection that has failed has left the word that it has, in the session in which it had begun. -/
theorem Failed.session_eq {v : Visit source before node} (hf : v.Failed) (hb : before.Idle) :
    ∃ failure, (before.errand source node).notes = .error failure ∧
      v.after.session = ((before.session.select node).fail (before.errand source node).selection failure).1 := by
  rw [Failed, v.result?_eq hb, Option.bind_some] at hf
  have hs := v.session_eq hb
  cases hr : ((before.errand source node).result (before.session.select node)).2 with
  | error failure =>
    rw [hr] at hf
    cases hf
  | ok r =>
    rw [hr] at hf
    obtain ⟨failure, hn⟩ := Errand.notes_of_failed hr (Option.some.inj hf)
    rw [Errand.result, hn] at hs
    exact ⟨failure, hn, hs⟩

/-- Then every path comes to what it came to before. -/
theorem Failed.outcome_eq {v : Visit source before node} (hf : v.Failed) (hb : before.Idle) (deck : DeckNode) (path : Json) :
    (v.after.errand source deck).outcome path = (before.errand source deck).outcome path := by
  obtain ⟨failure, hn, -⟩ := hf.session_eq hb
  exact (v.runs hb).covers.comesTo_of_failed hn path

/-- A selection that has failed leaves the page as it was, apart from the title, the controls, the cards and the scripts of the deck, and it
leaves the mode, the models, the notices and the addresses claimed as they were. -/
theorem Failed.leaves {v : Visit source before node} (hf : v.Failed) (hb : before.Idle) {l : Layout}
    (hl : before.session.page.LaidOut l) :
    (∃ failure : Failure, v.after.session.page.LaidOut
      { l with
        deck := some node.name
        mode := some before.session.mode.name
        cards := [Page.errorBox failure.message]
        deferred := [] }) ∧
      v.after.session.mode = before.session.mode ∧ v.after.session.models = before.session.models ∧
      v.after.session.notices = before.session.notices ∧ v.after.session.workspace.claimed = before.session.workspace.claimed := by
  obtain ⟨failure, -, hs⟩ := hf.session_eq hb
  have hnew := Session.select_isNewest before.agenda.state.calls node before.session
  have hpage := Session.fail_laidOut (Session.select_laidOut hl node) hnew rfl failure
  rw [hs]
  refine ⟨⟨failure, hpage⟩, ?_⟩
  rw [Session.fail]
  split <;> exact ⟨rfl, rfl, rfl, rfl⟩

/-- What has been taken in is as it was before a selection that has failed. -/
theorem Failed.keepsResources {v : Visit source before node} (hf : v.Failed) (hb : before.Idle) {l : Layout}
    (hl : before.session.page.LaidOut l) : before.session.KeepsResources v.after.session := by
  obtain ⟨⟨failure, hpage⟩, -, hmodels, -, hclaimed⟩ := hf.leaves hb hl
  refine ⟨hmodels, hclaimed, ?_, ?_, fun hstray => ?_⟩
  · rw [Page.links_eq hpage, Page.links_eq hl]
  · rw [Page.libraries_eq hpage, Page.libraries_eq hl]
  · have hc : carry Page.libraryId before.session.page.cards = false := Bool.eq_false_iff.2 hstray
    rw [Page.cards_eq hl] at hc
    rw [Page.byId?_library hpage rfl, Page.byId?_library hl hc]

/-- A deck that is visited comes to the same as in another visit: the call ends with the same result, and with the same models and the same
addresses claimed; and if it has not failed, the sessions are the same in everything but the number of the newest selection. -/
structure EndsLike {before' : Course} (v : Visit source before node) (w : Visit source before' node) : Prop where
  ends : w.result?.isSome = true
  result : v.result? = w.result?
  models : v.after.session.models = w.after.session.models
  claimed : v.after.session.workspace.claimed = w.after.session.workspace.claimed
  session : ∀ result, w.result? = some (.ok result) → ∃ token, v.after.session = w.after.session.numbered token

/-- A deck that is visited after a selection that has failed comes to what it comes to alone. -/
theorem Failed.endsLike {f : Visit source before node} (hf : f.Failed) (hb : before.Idle) {l : Layout}
    (hl : before.session.page.LaidOut l) {deck : DeckNode} (v : Visit source f.after deck) (w : Visit source before deck) :
    v.EndsLike w := by
  have hb' := f.idle hb
  obtain ⟨⟨_, hpage⟩, hmode, hmodels, hnotices, hclaimed⟩ := hf.leaves hb hl
  have hmatches := Session.select_matches hl hpage rfl rfl hmode hmodels hnotices hclaimed deck
  obtain ⟨hnotes, hown⟩ : (f.after.errand source deck).notes = (before.errand source deck).notes ∧
      (f.after.errand source deck).models = (before.errand source deck).models :=
    Errand.fetched_congr rfl rfl (hf.outcome_eq hb deck)
  have halike : Session.EndsAlike ((before.errand source deck).result (before.session.select deck))
      ((f.after.errand source deck).result (f.after.session.select deck)) := by
    rw [Errand.result, Errand.result, hnotes, hown]
    exact hmatches.deliver (Session.select_isNewest _ deck _) (Session.select_isNewest _ deck _) rfl _ _
  have hw := w.result?_eq hb
  refine ⟨by rw [hw]; rfl, ?_, ?_, ?_, fun result hr => ?_⟩
  · rw [v.result?_eq hb', hw, halike.result]
  · rw [v.session_eq hb', w.session_eq hb, halike.models]
  · rw [v.session_eq hb', w.session_eq hb, halike.claimed]
  · obtain ⟨r, hok, -⟩ := SessionDesk.ok_of_map (Option.some.inj (hw.symm.trans hr))
    rw [v.session_eq hb', w.session_eq hb]
    exact ⟨_, halike.session r hok⟩

end Visit

namespace History

/-- Every selection that is gathering lacks something, in every history. -/
theorem lacking (mode : RenderMode) (rootModels : Json) (xs : List Happening) : ((fresh mode rootModels).through xs).desk.Lacking := by
  have h : ((fresh mode rootModels).through xs).course.Orderly ∧ ((fresh mode rootModels).through xs).desk.Lacking := by
    refine through_induction (P := fun h => h.course.Orderly ∧ h.desk.Lacking)
      ⟨Course.fresh_orderly mode rootModels, fun _ hg => by cases hg⟩ (fun h x hx => ⟨hx.1.happen x, ?_⟩) xs
    cases x with
    | event event => exact hx.1.balanced.lacking_step hx.2 event
    | outside intervention =>
      intro g hg
      exact hx.2 g ((intervention.sameCalls h.desk).gathering ▸ hg)
  exact h.2

theorem idle {mode : RenderMode} {rootModels : Json} {xs : List Happening}
    (hr : ((fresh mode rootModels).through xs).course.AtRest) : ((fresh mode rootModels).through xs).course.Idle :=
  ⟨orderly mode rootModels xs, lacking mode rootModels xs, hr⟩

/-- A selection that fails when no call is under way leaves what the session has taken in as it was; and the call for a deck that is selected then
can be brought to its end, and comes to what it comes to alone. Whatever happens to a session, the keys that have models stay, and so do the addresses that have been claimed. -/
theorem failure_leaves_no_trace (mode : RenderMode) (rootModels : Json) (xs : List Happening) :
    (((fresh mode rootModels).through xs).course.AtRest →
      ∀ (source : Source) (failing : DeckNode) (f : Visit source ((fresh mode rootModels).through xs).course failing), f.Failed →
        ((fresh mode rootModels).through xs).session.KeepsResources f.after.session ∧
        ∀ deck : DeckNode,
          Nonempty (Visit source f.after deck) ∧ Nonempty (Visit source ((fresh mode rootModels).through xs).course deck) ∧
            ∀ (v : Visit source f.after deck) (w : Visit source ((fresh mode rootModels).through xs).course deck), v.EndsLike w) ∧
      ∀ more,
        ((fresh mode rootModels).through xs).session.models.keys <+: ((fresh mode rootModels).through (xs ++ more)).session.models.keys ∧
        ((fresh mode rootModels).through xs).session.workspace.claimed.items ⊆
          ((fresh mode rootModels).through (xs ++ more)).session.workspace.claimed.items := by
  refine ⟨fun hr source failing f hf => ?_, fun more => ?_⟩
  · have hidle := idle hr
    obtain ⟨l, hl⟩ := exists_laidOut mode rootModels xs
    refine ⟨hf.keepsResources hidle hl, fun deck => ⟨?_, ?_, fun v w => hf.endsLike hidle hl v w⟩⟩
    · exact Course.exists_visit source (f.idle hidle).orderly deck
    · exact Course.exists_visit source hidle.orderly deck
  · have hkeys := keys_prefix xs more (fresh mode rootModels)
    exact ⟨hkeys, claimed_subset mode rootModels xs more⟩

/-! ## Runs in which a selection fails -/

/-- The files of two decks, one of which has a card. -/
def twoDecks : Source :=
  Contents.answer (Rendering.holding [("d.json", "\x7b\x7d"), ("d.html", "<b class=cards>" ++ Rendering.noteText "m" "q"),
    ("e.json", "\x7b\x7d"), ("e.html", "")])

/-- A deck whose files are missing. -/
def missing : DeckNode := Rendering.deckAt "x" .null

/-- The deck that has a card. -/
def carded : DeckNode := Rendering.deckAt "d" .null

/-- The other deck, with a list in the place of the path of its models. -/
def unpathed : DeckNode := Rendering.deckAt "e" (.list [.null])

/-- A deck is visited, where jobs run and fetches end one after the other. -/
def visiting (before : Course) (node : DeckNode) : Course :=
  before.visit twoDecks node (List.replicate 6 [Progress.run 0, Progress.run 0, Progress.answer 0]).flatten

/-- This is a visit if nothing is left to do. -/
def visitOf {before : Course} {node : DeckNode} (h : (visiting before node).AtRest) : Visit twoDecks before node := ⟨_, h⟩

/-- How the visit has ended. -/
def status? (before : Course) (node : DeckNode) : Option DeckStatus :=
  ((visiting before node).agenda.result? before.agenda.state.calls).bind CallResult.status?

/-- A deck whose files are missing leaves no trace where a library has been taken in, and a deck that has a card is shown after it as it is
shown alone. -/
theorem failure_leaves_no_trace_missing :
    ∃ (f : Visit twoDecks ((fresh .raw (.text "models.json")).through keepsLibrary).course missing)
      (v : Visit twoDecks f.after carded) (w : Visit twoDecks ((fresh .raw (.text "models.json")).through keepsLibrary).course carded),
      ((fresh .raw (.text "models.json")).through keepsLibrary).course.AtRest ∧ f.Failed ∧
        w.result?.bind CallResult.status? = some .rendered ∧
        ((fresh .raw (.text "models.json")).through keepsLibrary).session.KeepsResources f.after.session ∧ v.EndsLike w := by
  obtain ⟨hr, hf, hfailed, hv, hw, hrendered⟩ :
      ((fresh .raw (.text "models.json")).through keepsLibrary).course.AtRest ∧
        (visiting ((fresh .raw (.text "models.json")).through keepsLibrary).course missing).AtRest ∧
        status? ((fresh .raw (.text "models.json")).through keepsLibrary).course missing = some .failed ∧
        (visiting (visiting ((fresh .raw (.text "models.json")).through keepsLibrary).course missing) carded).AtRest ∧
        (visiting ((fresh .raw (.text "models.json")).through keepsLibrary).course carded).AtRest ∧
        status? ((fresh .raw (.text "models.json")).through keepsLibrary).course carded = some .rendered := by
    decide +kernel
  obtain ⟨hkeeps, hlike⟩ :=
    (failure_leaves_no_trace .raw (.text "models.json") keepsLibrary).1 hr twoDecks missing (visitOf hf) hfailed
  obtain ⟨-, -, halike⟩ := hlike carded
  exact ⟨visitOf hf, visitOf hv, visitOf hw, hr, hfailed, hrendered, hkeeps, halike (visitOf hv) (visitOf hw)⟩

/-- A deck is shown whose card has an element of the name of the region for libraries, and then a library is taken in. -/
def straying : List Happening := (selected "a" strayNotes ++ rootLibrary).map Happening.event

/-- It is not true that a failed selection leaves what is found by the name of the region for libraries as it was, nor that a deck selected after it
comes to what it comes to alone: where its call fails, the cards of the deck that was shown before are kept only if nothing was selected in
between. -/
theorem failure_leaves_traces :
    (¬ ∀ (mode : RenderMode) (rootModels : Json) (xs : List Happening), ((fresh mode rootModels).through xs).course.AtRest →
      ∀ (source : Source) (failing : DeckNode) (f : Visit source ((fresh mode rootModels).through xs).course failing), f.Failed →
        f.after.session.page.innerMarkup Page.libraryId =
          ((fresh mode rootModels).through xs).session.page.innerMarkup Page.libraryId) ∧
      ¬ ∀ (mode : RenderMode) (rootModels : Json) (xs : List Happening), ((fresh mode rootModels).through xs).course.AtRest →
        ∀ (source : Source) (failing : DeckNode) (f : Visit source ((fresh mode rootModels).through xs).course failing), f.Failed →
          ∀ (deck : DeckNode) (v : Visit source f.after deck) (w : Visit source ((fresh mode rootModels).through xs).course deck),
            v.after.session.cards = w.after.session.cards := by
  obtain ⟨hr, hf, hfailed, hregion, hv, hw, hcards⟩ :
      ((fresh .raw (.text "models.json")).through straying).course.AtRest ∧
        (visiting ((fresh .raw (.text "models.json")).through straying).course missing).AtRest ∧
        status? ((fresh .raw (.text "models.json")).through straying).course missing = some .failed ∧
        (visiting ((fresh .raw (.text "models.json")).through straying).course missing).session.page.innerMarkup Page.libraryId ≠
          ((fresh .raw (.text "models.json")).through straying).session.page.innerMarkup Page.libraryId ∧
        (visiting (visiting ((fresh .raw (.text "models.json")).through straying).course missing) unpathed).AtRest ∧
        (visiting ((fresh .raw (.text "models.json")).through straying).course unpathed).AtRest ∧
        (visiting (visiting ((fresh .raw (.text "models.json")).through straying).course missing) unpathed).session.cards.length ≠
          (visiting ((fresh .raw (.text "models.json")).through straying).course unpathed).session.cards.length := by
    decide +kernel
  refine ⟨fun h => ?_, fun h => ?_⟩
  · exact hregion (h .raw (.text "models.json") straying hr twoDecks missing (visitOf hf) hfailed)
  · have hsame := h .raw (.text "models.json") straying hr twoDecks missing (visitOf hf) hfailed unpathed (visitOf hv) (visitOf hw)
    exact hcards (congrArg List.length hsame)

end History

end Flashcards
