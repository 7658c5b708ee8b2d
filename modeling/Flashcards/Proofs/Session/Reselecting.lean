import Flashcards.Proofs.Session.Failing
import Flashcards.Proofs.Session.Modes
import Flashcards.Proofs.Session.Scripts
import Flashcards.Proofs.Session.Stock

/-!
# A deck that is selected again

When no call is under way, a deck is selected, and its call ends with a result. If the deck is selected again right after that, the call ends with
the same result, and everything is as it was (`History.reselection_changes_nothing`), also if cards have been clicked in between. The session
tells of the second selection only in its number and in the notices.

The second call takes another way to the same end. What it needs is partly stored (`Errand.Covers.fetched_again`), and what its deck brings has
been taken in (`Session.showDeck_takes_nothing`). The rest is cleared for it and made again, of the same notes and the same models
(`Session.showDeck_result_eq`). A page is told by what is seen of the selection, and by the style sheets and the libraries (`Session.SameStock.page_eq`).

A card that has an element of the name of the region for libraries is the exception. A library goes into it the first time, and is not taken in
again.
-/

namespace Flashcards

open Text Markup Markup.Node

namespace Session

variable {s s' t t' : Session} {l : Layout} {deck mode : Option Text} {scripts : List Text} {r r' : DeckResult}

/-- A session with another number for the newest selection, and with other notices. -/
def renewed (token : Nat) (notices : List Notice) (s : Session) : Session := { s with token := token, notices := notices }

/-! ## What is seen of a selection -/

/-- All that is seen of a selection that has come to a result: the title and the mode, the scripts that have been run, and what the result says.
The session holds the cards that the result says, or none. -/
structure Displays (deck mode : Option Text) (scripts : List Text) (r : DeckResult) (s : Session) : Prop where
  titled : s.Titled deck mode
  ran : s.Ran scripts
  shows : s.Shows r
  deal : s.deal = if r.status = .rendered then .standing (r.cards.map Card.side) else .taken []

/-- What stands in the container of the cards is told by the result. -/
theorem Shows.cards_eq (hs : s.Shows r) (ht : t.Shows r) : t.page.cards = s.page.cards := by
  obtain ⟨-, hs⟩ := hs
  obtain ⟨-, ht⟩ := ht
  cases hr : r.status with
  | rendered | empty =>
    rw [hr] at hs ht
    exact ht.trans hs.symm
  | failed =>
    rw [hr] at hs ht
    obtain ⟨failure, he, hs⟩ := hs
    obtain ⟨failure', he', ht⟩ := ht
    obtain rfl := Option.some.inj (he'.symm.trans he)
    exact ht.trans hs.symm
  | superseded =>
    rw [hr] at hs
    exact hs.elim

/-- Sessions with the same stock in which the same is seen of a selection have the same page. -/
theorem SameStock.page_eq (h : s.SameStock t) (hs : s.Displays deck mode scripts r) (ht : t.Displays deck mode scripts r) :
    t.page = s.page := by
  obtain ⟨l, hl, hdeck, hmode⟩ := hs.titled
  obtain ⟨k, hk, hdeck', hmode'⟩ := ht.titled
  obtain ⟨l', hl', hdeferred⟩ := hs.ran.region
  obtain ⟨k', hk', hdeferred'⟩ := ht.ran.region
  obtain ⟨k'', hk'', hlinks, hlibrary⟩ := h.layout l hl
  have hcards := hs.shows.cards_eq ht.shows
  rw [Page.cards_eq hl, Page.cards_eq hk] at hcards
  -- Each page has one layout, of which all of this is said.
  obtain rfl := hl.unique hl'
  obtain rfl := hk.unique hk'
  obtain rfl := hk'.unique hk''
  have hsame : k'' = l' := by
    obtain ⟨deck, mode, links, cards, library, deferred⟩ := k''
    obtain ⟨deck', mode', links', cards', library', deferred'⟩ := l'
    dsimp only at *
    subst hdeck hmode hlinks hlibrary hcards
    rw [hdeck', hmode', hdeferred, hdeferred']
  rw [hsame] at hk
  exact Page.eq_of_laidOut hl hk (ht.ran.executed.trans hs.ran.executed.symm)

/-- If the deck is the same, they differ at most in the number of the newest selection and in the notices. -/
theorem SameStock.session_eq (h : s.SameStock t) (hs : s.Displays deck mode scripts r) (ht : t.Displays deck mode scripts r)
    (hcurrent : t.current = s.current) : t = s.renewed t.token t.notices := by
  have hpage := h.page_eq hs ht
  have hdeferred : t.workspace.deferred = s.workspace.deferred := Collection.eq_of_items (ht.ran.collected.trans hs.ran.collected.symm)
  have hdeal : t.deal = s.deal := ht.deal.trans hs.deal.symm
  obtain ⟨hmode, hmodels, hclaimed, -⟩ := h
  obtain ⟨mode, ⟨page, claimed, deferred⟩, models, current, deal, token, notices⟩ := s
  obtain ⟨mode', ⟨page', claimed', deferred'⟩, models', current', deal', token', notices'⟩ := t
  simp only [Session.page] at *
  subst hpage hdeferred hdeal hmode hmodels hclaimed hcurrent
  rfl

/-! ## The end of a selection -/

/-- The cards of a session tell which sides are shown. -/
theorem Dealt.deal_eq (h : s.Dealt deck mode) : s.deal = .standing (s.cards.map Card.side) := by
  obtain ⟨l, sides, hl, -, -, hdeal, hlength⟩ := h
  have hcards : s.cards = l.cards.zipWith Card.mk sides := by rw [Session.cards, hdeal, ← Page.cards_eq hl]
  have hsides : ∀ (nodes : List Node) (sides : List (Option Side)), nodes.length = sides.length →
      (nodes.zipWith Card.mk sides).map Card.side = sides := by
    intro nodes
    induction nodes with
    | nil =>
      intro sides hn
      rw [List.length_eq_zero_iff.1 hn.symm]
      rfl
    | cons n nodes ih =>
      intro sides hn
      cases sides with
      | nil => cases hn
      | cons side sides => exact congrArg (List.cons side) (ih sides (Nat.succ.inj hn))
  rw [hdeal, hcards, hsides l.cards sides hlength]

section Brought

variable {selection selection' : Selection} {notes : List Note} {own : Option Json}

/-- The session holds the cards of a deck that has been rendered, and no cards where there are no notes. -/
theorem Brought.deal_eq (h : s.Brought selection notes own s' r) (hl : s.page.LaidOut l) (hr : r.status ≠ .superseded) :
    s'.deal = if r.status = .rendered then .standing (r.cards.map Card.side) else .taken [] := by
  cases h with
  | overtaken => exact absurd rfl hr
  | empty => rfl
  | @rendered s₂ notice _ _ hrender =>
    obtain ⟨l₁, hl₁, -⟩ := (s.register_aside ((own.map NoteModel.listOf).getD [])).titled ⟨l, hl, rfl, rfl⟩
    obtain ⟨hdealt, -⟩ := clearTable_renderFrom_deals hl₁ selection.node notes
    rw [hrender] at hdealt
    exact (runDeferred_dealt hdealt).deal_eq

/-- Where no deck has been rendered, there are no cards, and no scripts have been run. -/
theorem Brought.bare (h : s.Brought selection notes own s' r) (hr : r.status ≠ .rendered) : r.cards = [] ∧ r.scriptsRun = 0 := by
  cases h with
  | rendered => exact absurd rfl hr
  | overtaken | empty => exact ⟨rfl, rfl⟩

/-- Two selections of a deck that have been brought to their ends have the same result if they have the same cards and have run as many
scripts. -/
theorem Brought.result_eq (h : s.Brought selection notes own s' r) (h' : t.Brought selection' notes own t' r')
    (hnode : selection'.node = selection.node) (hstatus : r'.status = r.status) (hcards : r'.cards = r.cards)
    (hscripts : r'.scriptsRun = r.scriptsRun) : r' = r := by
  cases h <;> cases h' <;> simp_all [superseded]

/-- All that is seen of a selection that has been brought to its end. -/
theorem showDeck_displays (hl : s.page.LaidOut l) (hnew : s.isNewest selection = true)
    (hok : (s.showDeck selection notes own).2 = .ok r) :
    (s.showDeck selection notes own).1.Displays l.deck l.mode
      (if r.status = .rendered then
        distinct (notes.flatMap (Note.scripts (s.showDeck selection notes own).1.models (s.showDeck selection notes own).1.mode)) else [])
      r := by
  have hb := brought_of_ok hok
  obtain ⟨htitled, hshows⟩ := showDeck_of_newest hl hnew notes own
  obtain ⟨-, hshows⟩ := hshows r hok
  obtain ⟨hrendered, hempty, hfailed⟩ := hb.ran hl
  refine ⟨htitled, ?_, hshows, hb.deal_eq hl hshows.status_ne⟩
  cases hr : r.status with
  | rendered =>
    rw [if_pos rfl]
    exact (hrendered hr).1
  | empty => exact hempty hr
  | failed => exact absurd hr hfailed
  | superseded => exact absurd hr hshows.status_ne

/-- All that is seen of a selection that has failed. -/
theorem fail_displays (hl : s.page.LaidOut l) (hw : s.Waits) (hnew : s.isNewest selection = true) (failure : Failure) :
    (s.fail selection failure).1.Displays l.deck l.mode [] (s.fail selection failure).2 := by
  obtain ⟨hresult, htitled, hshows⟩ := fail_of_newest hl hnew failure
  refine ⟨htitled, hw.fail hl hnew failure, hshows, ?_⟩
  rw [hresult, fail, if_pos hnew]
  rfl

/-- Cards that show the same notes are the same if their elements are. -/
theorem cards_eq_of_shownAs {models : ModelRegistry} {m : RenderMode} {cs ds : List Card}
    (hc : List.Forall₂ (Note.ShownAs models m) notes cs) (hd : List.Forall₂ (Note.ShownAs models m) notes ds)
    (he : ds.map Card.element = cs.map Card.element) : ds = cs := by
  induction hc generalizing ds with
  | nil =>
    cases hd
    rfl
  | @cons note c notes cs hnote _ ih =>
    cases hd with
    | @cons _ d _ ds hnote' hrest =>
      rw [List.map_cons, List.map_cons] at he
      obtain ⟨helement, helements⟩ := List.cons.inj he
      obtain ⟨made, hmade, hside, -⟩ := hnote
      obtain ⟨made', hmade', hside', -⟩ := hnote'
      obtain rfl := Except.ok.inj (hmade.symm.trans hmade')
      obtain ⟨element, side⟩ := c
      obtain ⟨element', side'⟩ := d
      obtain rfl : element' = element := helement
      obtain rfl : side' = side := hside'.trans hside.symm
      rw [ih hrest helements]

/-- A deck that has been shown comes to the same result when it is shown again. -/
theorem showDeck_result_eq {k : Layout} (hl : s.page.LaidOut l) (hk : t.page.LaidOut k) (hnew : s.isNewest selection = true)
    (hnew' : t.isNewest selection' = true) (hnode : selection'.node = selection.node) (hmode : t.mode = s.mode)
    (hok : (s.showDeck selection notes own).2 = .ok r) (hok' : (t.showDeck selection' notes own).2 = .ok r')
    (hstatus : r'.status = r.status) (hstock : (s.showDeck selection notes own).1.SameStock (t.showDeck selection' notes own).1)
    (hc : carry Page.libraryId (r.cards.map Card.element) = false) : r' = r := by
  have hb := brought_of_ok hok
  have hb' := brought_of_ok hok'
  by_cases hr : r.status = .rendered
  · have hr' := hstatus.trans hr
    have hpage := ((showDeck_of_newest hl hnew notes own).2 r hok).2.2
    have hpage' := ((showDeck_of_newest hk hnew' notes own).2 r' hok').2.2
    rw [hr] at hpage
    rw [hr'] at hpage'
    rw [← hpage] at hc
    have halike := showDeck_alike hk hl hmode hnode hok' hr' hok hr (fun note _ => by rw [hstock.models]) hc
    obtain ⟨hcards, -⟩ := hb.cards hr hl
    obtain ⟨hcards', -⟩ := hb'.cards hr' hk
    rw [hstock.models, hstock.mode] at hcards'
    refine hb.result_eq hb' hnode hstatus (cards_eq_of_shownAs hcards hcards' ?_) ?_
    · rw [← hpage, ← hpage', halike.cards]
    · rw [((hb.ran hl).1 hr).2, ((hb'.ran hk).1 hr').2, halike.executed]
  · obtain ⟨hcards, hscripts⟩ := hb.bare hr
    obtain ⟨hcards', hscripts'⟩ := hb'.bare fun h => hr (hstatus.symm.trans h)
    exact hb.result_eq hb' hnode hstatus (hcards'.trans hcards.symm) (hscripts'.trans hscripts.symm)

end Brought

/-! ## A selection again -/

section Again

variable {node : DeckNode} {selection selection' : Selection} {k : Layout}

/-- A selection that has failed fails again, and everything is as it was. -/
theorem fail_again (hl : s.page.LaidOut l) (hk : t.page.LaidOut k) (hmode : t.mode = s.mode)
    (hnew : (s.select node).isNewest selection = true) (hnew' : (t.select node).isNewest selection' = true)
    (hnode : selection'.node = selection.node) {failure : Failure}
    (hstock : ((s.select node).fail selection failure).1.SameStock t) :
    ((t.select node).fail selection' failure).2 = ((s.select node).fail selection failure).2 ∧
      ∃ token notices, ((t.select node).fail selection' failure).1 =
        ((s.select node).fail selection failure).1.renewed token notices := by
  have hls := select_laidOut hl node
  have hlt := select_laidOut hk node
  rw [hmode] at hlt
  have hseen := fail_displays hls (select_waits hl node) hnew failure
  have hseen' := fail_displays hlt (select_waits hk node) hnew' failure
  have hresult : ((t.select node).fail selection' failure).2 = ((s.select node).fail selection failure).2 := by
    rw [(fail_of_newest hls hnew failure).1, (fail_of_newest hlt hnew' failure).1, hnode]
  rw [hresult] at hseen'
  have hsame := (hstock.trans (sameStock_select node t)).trans (sameStock_fail selection' failure _)
  have hcurrent := (fail_sameDeck selection failure (s.select node)).current
  have hcurrent' := (fail_sameDeck selection' failure (t.select node)).current
  exact ⟨hresult, _, _, hsame.session_eq hseen hseen' (hcurrent'.trans hcurrent.symm)⟩

/-- A deck that has been shown is shown again, and everything is as it was. -/
theorem showDeck_again (hl : s.page.LaidOut l) (hk : t.page.LaidOut k) (hmode : t.mode = s.mode) {keys : Collection}
    (hkeys : s.models.keys = keys.items) (hnew : (s.select node).isNewest selection = true)
    (hnew' : (t.select node).isNewest selection' = true) (hnode : selection'.node = selection.node) {notes : List Note}
    {own : Option Json} (hok : ((s.select node).showDeck selection notes own).2 = .ok r)
    (hc : carry Page.libraryId (r.cards.map Card.element) = false)
    (hstock : ((s.select node).showDeck selection notes own).1.SameStock t) :
    ((t.select node).showDeck selection' notes own).2 = .ok r ∧
      ∃ token notices, ((t.select node).showDeck selection' notes own).1 =
        ((s.select node).showDeck selection notes own).1.renewed token notices := by
  have hls := select_laidOut hl node
  have hlt := select_laidOut hk node
  rw [hmode] at hlt
  have hselect := hstock.trans (sameStock_select node t)
  obtain ⟨r', hok', hstatus, hagain⟩ := showDeck_takes_nothing (s := s.select node) hkeys hls hnew hok hselect hnew' hnode
  have hsame := hselect.trans hagain
  obtain rfl := showDeck_result_eq hls hlt hnew hnew' hnode hmode hok hok' hstatus hsame hc
  have hseen := showDeck_displays hls hnew hok
  have hseen' := showDeck_displays hlt hnew' hok'
  rw [hsame.models, hsame.mode] at hseen'
  have hcurrent := (showDeck_sameDeck selection notes own (s.select node)).current
  have hcurrent' := (showDeck_sameDeck selection' notes own (t.select node)).current
  exact ⟨hok', _, _, hsame.session_eq hseen hseen' (hcurrent'.trans hcurrent.symm)⟩

variable {notes : Except Failure (List Note)} {own : Except Failure (Option Json)}

/-- The end of the newest selection with a result, and with no card that shows its back. -/
theorem deliver_shows (hl : s.page.LaidOut l) (hnew : s.isNewest selection = true) (hok : (s.deliver selection notes own).2 = .ok r) :
    (s.deliver selection notes own).1.Shows r ∧ (∃ l', (s.deliver selection notes own).1.page.LaidOut l') ∧
      (s.deliver selection notes own).1.mode = s.mode ∧ ∀ card ∈ r.cards, card.side ≠ some .back := by
  cases notes with
  | error failure =>
    obtain ⟨hresult, ⟨l', hl', -⟩, hshows⟩ := fail_of_newest hl hnew failure
    obtain rfl : (s.fail selection failure).2 = r := Except.ok.inj hok
    refine ⟨hshows, ⟨l', hl'⟩, fail_mode selection failure s, fun card hcard => ?_⟩
    rw [hresult] at hcard
    cases hcard
  | ok notes =>
    cases own with
    | error failure => cases hok
    | ok own =>
      obtain ⟨⟨l', hl', -⟩, hshows⟩ := showDeck_of_newest hl hnew notes own
      have hb := brought_of_ok hok
      refine ⟨(hshows r hok).2, ⟨l', hl'⟩, showDeck_mode selection notes own s, fun card hcard => ?_⟩
      by_cases hr : r.status = .rendered
      · obtain ⟨note, -, made, hmade, hside, -⟩ := exists_of_forall₂ (hb.cards hr hl).1 hcard
        rw [hside]
        exact Card.side_of_render hmade
      · rw [(hb.bare hr).1] at hcard
        cases hcard

/-- What has been fetched for a deck that has come to a result comes to it again, and everything is as it was. -/
theorem deliver_again (hl : s.page.LaidOut l) {keys : Collection} (hkeys : s.models.keys = keys.items)
    (hnew : (s.select node).isNewest selection = true) (hnew' : (t.select node).isNewest selection' = true)
    (hnode : selection'.node = selection.node) (hok : ((s.select node).deliver selection notes own).2 = .ok r)
    (hc : carry Page.libraryId (r.cards.map Card.element) = false)
    (hstock : ((s.select node).deliver selection notes own).1.SameStock t) :
    ((t.select node).deliver selection' notes own).2 = .ok r ∧
      ∃ token notices, ((t.select node).deliver selection' notes own).1 =
        ((s.select node).deliver selection notes own).1.renewed token notices := by
  obtain ⟨-, ⟨l', hl'⟩, hkept, -⟩ := deliver_shows (select_laidOut hl node) hnew hok
  obtain ⟨k, hk, -⟩ := hstock.layout l' hl'
  have hmode : t.mode = s.mode := hstock.mode.trans hkept
  cases notes with
  | error failure =>
    obtain ⟨hresult, hsession⟩ := fail_again hl hk hmode hnew hnew' hnode hstock
    exact ⟨(congrArg Except.ok hresult).trans hok, hsession⟩
  | ok notes =>
    cases own with
    | error failure => cases hok
    | ok own => exact showDeck_again hl hk hmode hkeys hnew hnew' hnode hok hc hstock

end Again

end Session

/-! ## A deck visited again -/

namespace Course

/-- Cards are clicked, one after the other. -/
def clicked (clicks : List Nat) (c : Course) : Course :=
  clicks.foldl (fun c i => { c with agenda := c.agenda.change fun d => (Intervention.click i).apply d }) c

/-- Cards that are clicked when no call is under way leave the stock of the session as it is, and what is stored. -/
theorem Idle.clicked {c : Course} (h : c.Idle) (clicks : List Nat) :
    (c.clicked clicks).Idle ∧ (c.clicked clicks).agenda.state.cache = c.agenda.state.cache ∧ c.session.SameStock (c.clicked clicks).session := by
  induction clicks generalizing c with
  | nil => exact ⟨h, rfl, Session.SameStock.refl _⟩
  | cons i clicks ih =>
    have hcalls := (Intervention.click i).sameCalls c.agenda.state
    have hone : ({ c with agenda := c.agenda.change fun d => (Intervention.click i).apply d } : Course).Idle :=
      ⟨h.orderly.outside hcalls, fun g hg => h.lacking g (hcalls.gathering ▸ hg), h.rest⟩
    obtain ⟨hidle, hcache, hstock⟩ := ih hone
    exact ⟨hidle, hcache, (Session.sameStock_click i c.session).trans hstock⟩

end Course

/-- An errand for a deck that another has just been done for comes to the same notes, and if there are notes, to the same models. -/
theorem Errand.Covers.fetched_again {e e' : Errand} {d : SessionDesk} (h : e.Covers d) (hcache : e'.cache = d.cache)
    (hsource : e'.source = e.source) (hnode : e'.selection.node = e.selection.node) :
    e'.notes = e.notes ∧ ∀ notes, e.notes = .ok notes → e'.models = e.models := by
  have houtcome : ∀ {waiter : Waiter} {path : Json}, e.Awaits waiter path → e'.outcome path = e.outcome path := by
    intro waiter path ha
    rw [outcome, hcache, hsource, h.comesTo_of_awaits ha]
  have hdata : e'.dataPath = e.dataPath := by rw [dataPath, dataPath, hnode]
  have hmodels : e'.modelsPath = e.modelsPath := by rw [modelsPath, modelsPath, hnode]
  refine ⟨?_, fun notes hn => ?_⟩
  · rw [Errand.notes, Errand.notes, markup, markup, hdata, hsource, hnode, houtcome .data]
  · rw [models, models, hmodels]
    cases hb : e.modelsPath.isBlank with
    | true => rfl
    | false => rw [houtcome (.models hn hb)]

namespace Visit

variable {source : Source} {before : Course} {node : DeckNode} {r : DeckResult}

/-- A deck that has been visited comes to the same when it is visited again, and everything is as it was, also if its cards have been clicked in
between. -/
theorem again (v : Visit source before node) (hb : before.Idle) {l : Layout} (hl : before.session.page.LaidOut l) {keys : Collection}
    (hkeys : before.session.models.keys = keys.items) (hv : v.result? = some (.ok (.shown r)))
    (hc : carry Page.libraryId (r.cards.map Card.element) = false) (clicks : List Nat) (w : Visit source (v.after.clicked clicks) node) :
    w.result? = some (.ok (.shown r)) ∧ (∃ token notices, w.after.session = v.after.session.renewed token notices) ∧
      v.after.session.cards = r.cards ∧ ∀ card ∈ r.cards, card.side ≠ some .back := by
  obtain ⟨hidle, hcache, hstock⟩ := (v.idle hb).clicked clicks
  rw [v.result?_eq hb] at hv
  obtain ⟨r', hok, hr⟩ := SessionDesk.ok_of_map (Option.some.inj hv)
  obtain rfl := CallResult.shown.inj hr
  rw [v.session_eq hb] at hstock ⊢
  rw [w.result?_eq hidle, w.session_eq hidle]
  have hnew := Session.select_isNewest before.agenda.state.calls node before.session
  have hnew' : ((v.after.clicked clicks).session.select node).isNewest ((v.after.clicked clicks).errand source node).selection = true :=
    Session.select_isNewest _ node _
  obtain ⟨hnotes, hmodels⟩ : ((v.after.clicked clicks).errand source node).notes = (before.errand source node).notes ∧
      ∀ notes, (before.errand source node).notes = .ok notes →
        ((v.after.clicked clicks).errand source node).models = (before.errand source node).models :=
    (v.runs hb).covers.fetched_again hcache rfl rfl
  have hresult : ((v.after.clicked clicks).errand source node).result ((v.after.clicked clicks).session.select node) =
      ((v.after.clicked clicks).session.select node).deliver ((v.after.clicked clicks).errand source node).selection
        (before.errand source node).notes (before.errand source node).models := by
    rw [Errand.result, hnotes]
    cases hn : (before.errand source node).notes with
    | error failure => rfl
    | ok notes => rw [hmodels notes hn]
  obtain ⟨hsame, hsession⟩ := Session.deliver_again hl hkeys hnew hnew' rfl hok hc hstock
  obtain ⟨hshows, -, -, hsides⟩ := Session.deliver_shows (Session.select_laidOut hl node) hnew hok
  rw [hresult]
  refine ⟨?_, hsession, hshows.1, hsides⟩
  rw [hsame]
  rfl

end Visit

/-- What came of the selection of a deck, if a call has ended with that. -/
def CallResult.shown? : Except Failure CallResult → Option DeckResult
  | .ok (.shown r) => some r
  | _ => none

theorem CallResult.eq_of_shown? {result : Except Failure CallResult} {r : DeckResult} (h : shown? result = some r) :
    result = .ok (.shown r) := by
  unfold shown? at h
  split at h
  · rw [Option.some.inj h]
  · cases h

namespace History

/-- The models of a session are those of lists that have been merged one after the other. -/
theorem exists_mergeAll (mode : RenderMode) (rootModels : Json) (xs : List Happening) :
    ∃ lists, ((fresh mode rootModels).through xs).session.models = ModelRegistry.mergeAll lists := by
  refine through_induction (P := fun h => ∃ lists, h.session.models = ModelRegistry.mergeAll lists) ⟨[], rfl⟩ ?_ xs
  rintro h x ⟨lists, hlists⟩
  obtain ⟨models, hmodels⟩ := (h.becomes x).models
  refine ⟨lists ++ [models], ?_⟩
  rw [hmodels, hlists, ModelRegistry.mergeAll_concat]

/-- A deck is selected when no call is under way, and its call ends with a result. If the deck is selected again, the call can be brought to its
end, and it ends with the same result. It leaves the session as the first has left it, in everything but the number of the newest selection and
the notices; clicks on the cards in between are undone, and no card shows its back. Only the cards must have no element of the name of the region
for libraries. -/
theorem reselection_changes_nothing (mode : RenderMode) (rootModels : Json) (xs : List Happening)
    (hr : ((fresh mode rootModels).through xs).course.AtRest) (source : Source) (node : DeckNode)
    (v : Visit source ((fresh mode rootModels).through xs).course node) (r : DeckResult) (hv : v.result? = some (.ok (.shown r)))
    (hc : carry Page.libraryId (r.cards.map Card.element) = false) (clicks : List Nat) :
    Nonempty (Visit source (v.after.clicked clicks) node) ∧
      ∀ w : Visit source (v.after.clicked clicks) node,
        w.result? = some (.ok (.shown r)) ∧
          (∃ token notices, w.after.session = v.after.session.renewed token notices) ∧
          w.after.session.cards = r.cards ∧ ∀ card ∈ r.cards, card.side ≠ some .back := by
  have hidle := idle hr
  obtain ⟨l, hl⟩ := exists_laidOut mode rootModels xs
  obtain ⟨lists, hlists⟩ := exists_mergeAll mode rootModels xs
  have hkeys := ModelRegistry.keys_mergeAll lists
  rw [← hlists] at hkeys
  refine ⟨Course.exists_visit source ((v.idle hidle).clicked clicks).1.orderly node, fun w => ?_⟩
  obtain ⟨hresult, ⟨token, notices, hsession⟩, hcards, hsides⟩ := v.again hidle hl hkeys hv hc clicks w
  refine ⟨hresult, ⟨token, notices, hsession⟩, ?_, hsides⟩
  rw [hsession]
  exact hcards

/-! ## A run in which a deck is selected again -/

/-- The files of a deck whose model has a library and a script. -/
def bringing : Source :=
  Contents.answer (Rendering.holding [("d.json", "\x7b\x7d"), ("d.html", "<b class=cards>" ++ Rendering.noteText "m" "q"),
    ("d-models.json", Rendering.modelText "m" "<script src=k></script><script>f()</script>\x7b\x7ba\x7d\x7d")])

/-- This deck. -/
def bringer : DeckNode := Rendering.deckAt "d" (.text "d-models.json")

/-- The deck is selected, where jobs run and fetches end one after the other. -/
def selecting (before : Course) : Course :=
  before.visit bringing bringer (List.replicate 9 [Progress.run 0, Progress.run 0, Progress.answer 0]).flatten

/-- The session before that, in which another library has been taken in. -/
def stocking : Course := ((fresh .model (.text "models.json")).through keepsLibrary).course

/-- The deck has one card, which shows its back when it has been clicked, and it is selected again then. -/
theorem reselection_changes_nothing_bringer :
    ∃ (v : Visit bringing stocking bringer) (r : DeckResult) (w : Visit bringing (v.after.clicked [0]) bringer),
      stocking.AtRest ∧ v.result? = some (.ok (.shown r)) ∧ r.status = .rendered ∧ r.scriptsRun = 1 ∧
        carry Page.libraryId (r.cards.map Card.element) = false ∧
        (v.after.clicked [0]).session.cards.map Card.side = [some .back] ∧ w.result? = some (.ok (.shown r)) ∧
        (∃ token notices, w.after.session = v.after.session.renewed token notices) ∧
        w.after.session.cards = r.cards ∧ ∀ card ∈ r.cards, card.side ≠ some .back := by
  obtain ⟨hr, hv, hw, hclicked, hresult⟩ :
      stocking.AtRest ∧ (selecting stocking).AtRest ∧ (selecting ((selecting stocking).clicked [0])).AtRest ∧
        ((selecting stocking).clicked [0]).session.cards.map Card.side = [some .back] ∧
        (((selecting stocking).agenda.result? stocking.agenda.state.calls).bind CallResult.shown?).any
          (fun r => r.status = .rendered ∧ r.scriptsRun = 1 ∧ carry Page.libraryId (r.cards.map Card.element) = false) = true := by
    decide +kernel
  obtain ⟨r, hshown, hprops⟩ := (Option.any_eq_true _ _).1 hresult
  obtain ⟨hrendered, hscripts, hc⟩ := of_decide_eq_true hprops
  obtain ⟨result, hcall, hshown⟩ := Option.bind_eq_some_iff.1 hshown
  have hended : (selecting stocking).agenda.result? stocking.agenda.state.calls = some (.ok (.shown r)) := by
    rw [hcall, CallResult.eq_of_shown? hshown]
  obtain ⟨-, hagain⟩ := reselection_changes_nothing .model (.text "models.json") keepsLibrary hr bringing bringer ⟨_, hv⟩ r hended hc [0]
  exact ⟨⟨_, hv⟩, r, ⟨_, hw⟩, hr, hended, hrendered, hscripts, hc, hclicked, hagain ⟨_, hw⟩⟩

end History

end Flashcards
