import Flashcards.Proofs.Session.Growing
import Flashcards.Proofs.Session.Shown

/-!
# The mode of the cards

A session may be asked to change its mode at any time, also while a deck is being loaded. Its mode is read twice for a deck: when the controls
are set, and when the cards are rendered. Since a change of mode selects the deck anew, the controls name the mode of the session whenever a
deck has been selected, and whatever cards stand in the page have been rendered in that mode (`History.controls_name_mode`).

Where cards stand is followed through all that can happen: each step leaves the cards that stood before, to which scripts may have been added and
which may have been clicked (`Card.Becomes`), or it puts a message in their place (`Session.Bare`), or it renders the notes of a deck
(`Session.Deals`).
-/

namespace Flashcards

open Text Markup Markup.Node

/-! ## Cards that stand in the page -/

theorem exists_of_forall₂ {α β : Type} {R : α → β → Prop} {as : List α} {bs : List β} (h : List.Forall₂ R as bs) {b : β} (hb : b ∈ bs) :
    ∃ a ∈ as, R a b := by
  induction h with
  | nil => cases hb
  | @cons a b' as bs hab _ ih =>
    rcases List.mem_cons.1 hb with rfl | hb
    · exact ⟨a, List.mem_cons_self, hab⟩
    · obtain ⟨a', ha', hab'⟩ := ih hb
      exact ⟨a', List.mem_cons_of_mem _ ha', hab'⟩

namespace Card

/-- A card after it has been made: scripts may have been put into its element, and it may have been clicked. -/
inductive Becomes (c : Card) : Card → Prop
  | refl : Becomes c c
  | grown {d : Card} {element : Node} (h : Becomes c d) (hg : Grows d.element element) : Becomes c ⟨element, d.side⟩
  | clicked {d : Card} (h : Becomes c d) : Becomes c d.click

variable {c d e : Card}

theorem Becomes.trans (h : c.Becomes d) (h' : d.Becomes e) : c.Becomes e := by
  induction h' with
  | refl => exact h
  | grown _ hg ih => exact ih.grown hg
  | clicked _ ih => exact ih.clicked

/-- A card that has been made from a template stays one, and so does a raw card. -/
theorem Becomes.templated_eq (h : c.Becomes d) : d.templated = c.templated := by
  induction h with
  | refl => rfl
  | grown _ _ ih => exact ih
  | @clicked d _ ih =>
    rw [← ih]
    obtain ⟨element, _ | side⟩ := d <;> rfl

/-- Cards that have each become what they are. -/
abbrev BecomeAll : List Card → List Card → Prop := List.Forall₂ Becomes

theorem BecomeAll.refl (cs : List Card) : BecomeAll cs cs := List.forall₂_same.2 fun _ _ => Becomes.refl

theorem BecomeAll.trans {cs ds es : List Card} (h : BecomeAll cs ds) (h' : BecomeAll ds es) : BecomeAll cs es := by
  induction h generalizing es with
  | nil => exact h'
  | cons hc _ ih =>
    cases h' with
    | cons hd hds => exact List.Forall₂.cons (hc.trans hd) (ih hds)

theorem becomeAll_of_growAll {ns ns' : List Node} (h : GrowAll ns ns') (sides : List (Option Side)) :
    BecomeAll (ns.zipWith Card.mk sides) (ns'.zipWith Card.mk sides) := by
  induction h generalizing sides with
  | nil => exact BecomeAll.refl []
  | cons hn _ ih =>
    cases sides with
    | nil => exact List.Forall₂.nil
    | cons side sides => exact List.Forall₂.cons (Becomes.refl.grown hn) (ih sides)

theorem becomeAll_modify (i : Nat) (cs : List Card) : BecomeAll cs (cs.modify i click) := by
  induction cs generalizing i with
  | nil => rw [List.modify_nil]; exact List.Forall₂.nil
  | cons c cs ih =>
    cases i with
    | zero =>
      rw [List.modify_zero_cons]
      exact List.Forall₂.cons Becomes.refl.clicked (BecomeAll.refl cs)
    | succ i =>
      rw [List.modify_succ_cons]
      exact List.Forall₂.cons Becomes.refl (ih i)

/-- A click on a card that has a side turns its element and its side. -/
theorem modify_turned {ns : List Node} {sides : List (Option Side)} {i : Nat} {side : Side} (h : sides[i]? = some (some side)) :
    (ns.modify i (turnTo side.toggle)).zipWith Card.mk (sides.set i (some side.toggle)) = (ns.zipWith Card.mk sides).modify i click := by
  induction sides generalizing ns i with
  | nil => cases h
  | cons s sides ih =>
    cases ns with
    | nil => rw [List.modify_nil, List.zipWith_nil_left, List.zipWith_nil_left, List.modify_nil]
    | cons n ns =>
      cases i with
      | zero =>
        cases h
        rfl
      | succ i => exact congrArg (List.cons (Card.mk n s)) (ih h)

/-- A click on a raw card, or past the last card, does nothing. -/
theorem modify_raw {ns : List Node} {sides : List (Option Side)} {i : Nat} (h : ∀ side, sides[i]? ≠ some (some side)) :
    (ns.zipWith Card.mk sides).modify i click = ns.zipWith Card.mk sides := by
  induction sides generalizing ns i with
  | nil => rw [List.zipWith_nil_right, List.modify_nil]
  | cons s sides ih =>
    cases ns with
    | nil => rw [List.zipWith_nil_left, List.modify_nil]
    | cons n ns =>
      cases i with
      | zero =>
        cases s with
        | none => rfl
        | some side => exact absurd rfl (h side)
      | succ i => exact congrArg (List.cons (Card.mk n s)) (ih h)

end Card

namespace Page

/-- What stands in the container of the cards is a message. -/
inductive Message : List Node → Prop
  | loading : Message [plain Chrome.loading]
  | noNotes : Message [noNotesBox]
  | error (t : Text) : Message [errorBox t]

/-- No script goes into a message. -/
theorem Message.eq_of_growAll {ns ns' : List Node} (h : Message ns) (hg : GrowAll ns ns') : ns' = ns := by
  have hone : ∀ n, (∀ id, id = libraryId ∨ id = deferredId → carry id [n] = false) → GrowAll [n] ns' → ns' = [n] := by
    intro n hn hgrow
    cases hgrow with
    | cons hm hms =>
      cases hms with
      | nil => rw [hm.eq_of_unnamed hn]
  cases h with
  | loading | noNotes | error =>
    refine hone _ ?_ hg
    rintro id (rfl | rfl) <;> rfl

/-- The controls are shown, and the place for the mode holds its name. -/
structure Names (mode : RenderMode) (p : Page) : Prop where
  shown : (p.byId? controlsId).bind (attributeText? "style") = some "display:block"
  named : (p.byId? modeId).map textContent = some mode.name

theorem names_of_laidOut {p : Page} {l : Layout} (hl : p.LaidOut l) {mode : RenderMode} (hm : l.mode = some mode.name) : p.Names mode := by
  constructor
  · rw [byId?_controls hl, Layout.regions, hm]
    rfl
  · rw [byId?_mode hl, Layout.regions, hm]
    cases mode <;> rfl

end Page

namespace Session

variable {s s' : Session} {l : Layout} {deck mode : Option Text}

/-- No card stands in the page: there is a message. -/
def Bare (s : Session) : Prop := (∃ cards, s.deal = .taken cards) ∧ Page.Message s.page.cards

/-- Cards stand in the page. -/
def Standing (s : Session) : Prop := ∃ deck mode, s.Dealt deck mode

/-- The cards that stand in the page of a session are still those of an earlier one. -/
structure Leaves (s s' : Session) : Prop where
  bare : s.Bare → s'.Bare
  standing : s.Standing → s'.Standing ∧ Card.BecomeAll s.cards s'.cards

theorem Leaves.of_eq (hp : s'.page = s.page) (hd : s'.deal = s.deal) : s.Leaves s' := by
  have hcards : s'.cards = s.cards := by rw [cards, cards, hp, hd]
  constructor
  · intro h
    rw [Bare, hp, hd]
    exact h
  · rintro ⟨deck, mode, h⟩
    refine ⟨⟨deck, mode, ?_⟩, ?_⟩
    · rw [Dealt, hp, hd]
      exact h
    · rw [hcards]
      exact Card.BecomeAll.refl _

/-- Scripts and style sheets may be added to the page. -/
theorem leaves_of_adds (ha : s.page.Adds s'.page) (hd : s'.deal = s.deal) (hl : s.page.LaidOut l) : s.Leaves s' := by
  obtain ⟨l', hl', hgrow⟩ := ha.cards hl
  constructor
  · rintro ⟨hdeal, hm⟩
    rw [Page.cards_eq hl] at hm
    refine ⟨hd ▸ hdeal, ?_⟩
    rw [Page.cards_eq hl', hm.eq_of_growAll hgrow]
    exact hm
  · rintro ⟨deck, mode, k, sides, hk, -, -, hs, hn⟩
    rw [← Page.cards_eq hk, Page.cards_eq hl] at hn
    refine ⟨⟨l'.deck, l'.mode, l', sides, hl', rfl, rfl, hd.trans hs, ?_⟩, ?_⟩
    · rw [← hn]
      exact hgrow.length_eq.symm
    · rw [cards, cards, hd, hs, Page.cards_eq hl, Page.cards_eq hl']
      exact Card.becomeAll_of_growAll hgrow sides

/-- A click turns the card at its position, wherever the cards are. -/
theorem cards_click (hl : s.page.LaidOut l) (i : Nat) : (s.click i).cards = s.cards.modify i Card.click := by
  unfold click
  cases hd : s.deal with
  | taken cards => rw [Session.cards, Session.cards, hd]
  | standing sides =>
    have hcards : s.cards = s.page.cards.zipWith Card.mk sides := by rw [Session.cards, hd]
    rw [hcards]
    dsimp only
    split
    · rename_i side hi
      rw [← Card.modify_turned hi]
      exact congrArg (List.zipWith Card.mk · (sides.set i (some side.toggle))) (Page.cards_eq (Page.showNodes_laidOut hl _))
    · rename_i hi
      rw [hcards, Card.modify_raw fun side h => hi side h]

/-- The cards that are clicked stay where they are. -/
theorem leaves_click (hl : s.page.LaidOut l) (i : Nat) : s.Leaves (s.click i) := by
  have hcards := cards_click hl i
  constructor
  · rintro ⟨⟨cards, hd⟩, hm⟩
    rw [click, hd]
    exact ⟨⟨_, rfl⟩, hm⟩
  · rintro ⟨deck, mode, k, sides, hk, hdeck, hmode, hs, hn⟩
    rw [hcards]
    refine ⟨⟨deck, mode, ?_⟩, Card.becomeAll_modify i s.cards⟩
    unfold click
    rw [hs]
    dsimp only
    split
    · rename_i side hi
      refine ⟨_, sides.set i (some side.toggle), Page.showNodes_laidOut hk _, hdeck, hmode, rfl, ?_⟩
      rw [List.length_set, ← hn, ← Page.cards_eq hk]
      exact List.length_modify _ _ _
    · exact ⟨k, sides, hk, hdeck, hmode, hs, hn⟩

theorem click_mode (i : Nat) (s : Session) : (s.click i).mode = s.mode := by
  unfold click
  split
  · rfl
  · split <;> rfl

theorem click_titled (hl : s.page.LaidOut l) (i : Nat) : (s.click i).Titled l.deck l.mode := by
  unfold click
  split
  · exact ⟨l, hl, rfl, rfl⟩
  · split
    · exact ⟨_, Page.showNodes_laidOut hl _, rfl, rfl⟩
    · exact ⟨l, hl, rfl, rfl⟩

/-! ## Decks -/

theorem select_bare (hl : s.page.LaidOut l) (node : DeckNode) : (s.select node).Bare := by
  refine ⟨⟨_, rfl⟩, ?_⟩
  rw [Page.cards_eq (select_laidOut hl node)]
  exact Page.Message.loading

/-- The newest selection has been brought to its end, and cards stand in the page: they are those of notes of the deck, from the first on,
rendered in the mode of the session. -/
structure Renders (s : Session) (selection : Selection) (notes : List Note) (own : Option Json) (s' : Session) : Prop where
  newest : s.isNewest selection = true
  session : s' = (s.showDeck selection notes own).1
  standing : s'.Standing
  cards : ∃ shown, shown <+: notes ∧ s'.Deals s'.models s.mode shown

/-- A failure leaves the cards where they are, or a message in their place. -/
theorem fail_leaves (hl : s.page.LaidOut l) (selection : Selection) (failure : Failure) :
    s.Leaves (s.fail selection failure).1 ∨ (s.fail selection failure).1.Bare := by
  cases hnew : s.isNewest selection with
  | false =>
    rw [fail_of_overtaken hnew]
    exact Or.inl (Leaves.of_eq rfl rfl)
  | true =>
    have hm := showMessage_laidOut (Page.resetScripts_laidOut hl) (Page.fragment_errorMarkup failure.message)
    rw [fail, hnew, if_pos rfl]
    refine Or.inr ⟨⟨[], rfl⟩, ?_⟩
    have hcards := Page.cards_eq hm
    unfold Page.cards at hcards ⊢
    exact hcards ▸ Page.Message.error _

theorem register_leaves (hl : s.page.LaidOut l) (models : List NoteModel) : s.Leaves (s.register models).1 :=
  leaves_of_adds (Workspace.preloadAll_adds (Workspace.templateTexts models) s.workspace) rfl hl

theorem takeRootModels_leaves (hl : s.page.LaidOut l) (resource : Option Json) : s.Leaves (s.takeRootModels resource).1 := by
  cases resource with
  | none => exact Leaves.of_eq rfl rfl
  | some data =>
    have hregistered := register_leaves hl (NoteModel.listOf data)
    unfold takeRootModels
    dsimp only
    generalize s.register (NoteModel.listOf data) = p at hregistered ⊢
    obtain ⟨t, _ | failure⟩ := p
    · exact ⟨hregistered.bare, hregistered.standing⟩
    · exact hregistered

/-- Notes that are rendered on a cleared page stand there as cards, also where one of them fails. -/
theorem renderDeck_deals (hl : s.page.LaidOut l) (node : DeckNode) (notes : List Note) :
    (s.renderDeck node notes).1.Bare ∨
      (s.renderDeck node notes).1.Standing ∧ ∃ shown, shown <+: notes ∧ (s.renderDeck node notes).1.Deals s.models s.mode shown := by
  obtain ⟨hdealt, shown, hprefix, -, hdeals⟩ := clearTable_renderFrom_deals hl node notes
  rw [renderDeck]
  dsimp only
  split
  · have hm := showMessage_laidOut (Page.resetScripts_laidOut (Page.clearCards_laidOut hl)) Page.fragment_noNotes
    refine Or.inl ⟨⟨[], rfl⟩, ?_⟩
    exact (Page.cards_eq hm).symm ▸ Page.Message.noNotes
  · generalize s.clearTable.renderFrom node notes.length 0 notes = q at hdealt hdeals ⊢
    obtain ⟨t, _ | failure⟩ := q
    · have hrun := runDeferred_dealt hdealt
      exact Or.inr ⟨⟨_, _, notify_dealt hrun _⟩, shown, hprefix, hdeals.runDeferred hdealt⟩
    · exact Or.inr ⟨⟨_, _, hdealt⟩, shown, hprefix, hdeals⟩

/-- A selection that is brought to its end leaves the cards where they are, or a message in their place, or it renders its deck. -/
theorem showDeck_leaves (hl : s.page.LaidOut l) (selection : Selection) (notes : List Note) (own : Option Json) :
    s.Leaves (s.showDeck selection notes own).1 ∨ (s.showDeck selection notes own).1.Bare ∨
      s.Renders selection notes own (s.showDeck selection notes own).1 := by
  have hleaves := register_leaves hl ((own.map NoteModel.listOf).getD [])
  cases hp : (s.register ((own.map NoteModel.listOf).getD [])).2 with
  | some failure =>
    rw [showDeck_of_rejected hp]
    exact Or.inl hleaves
  | none =>
    cases hnew : s.isNewest selection with
    | false =>
      rw [showDeck_of_registered_overtaken hp hnew]
      exact Or.inl hleaves
    | true =>
      obtain ⟨l', hl', -⟩ := (s.register_aside ((own.map NoteModel.listOf).getD [])).gains.layout l hl
      have hshow := showDeck_of_registered hp hnew notes
      have hmodels := showDeck_models selection notes own s
      rcases renderDeck_deals hl' selection.node notes with hbare | ⟨hstanding, shown, hprefix, hdeals⟩
      · rw [hshow]
        exact Or.inr (Or.inl hbare)
      · refine Or.inr (Or.inr ⟨hnew, rfl, ?_, shown, hprefix, ?_⟩)
        · rw [hshow]
          exact hstanding
        · rw [hmodels, hshow]
          exact hdeals

end Session

/-! ## Whatever happens -/

/-- What a call's end does to the cards and to what names their mode. -/
theorem SessionDesk.Ending.cards {d : SessionDesk} {job : CallJob} {call : Nat} {session : Session} {result : Except Failure CallResult}
    (h : SessionDesk.Ending d job call session result) {l : Layout} (hl : d.session.page.LaidOut l) :
    d.session.Leaves session ∨ session.Bare ∨
      ∃ selection notes own, SessionDesk.DeckReady d job selection notes own ∧ d.session.Renders selection notes own session := by
  cases h with
  | badMode | noRootModels | noDeckModels | noDeck => exact Or.inl (Session.Leaves.of_eq rfl rfl)
  | rootModels => exact Or.inl (Session.takeRootModels_leaves hl _)
  | failed =>
    rcases Session.fail_leaves hl _ _ with h | h
    · exact Or.inl h
    · exact Or.inr (Or.inl h)
  | shown hready =>
    rcases Session.showDeck_leaves hl _ _ _ with h | h | h
    · exact Or.inl h
    · exact Or.inr (Or.inl h)
    · exact Or.inr (Or.inr ⟨_, _, _, hready, h⟩)

/-- The end of a call keeps the mode, unless there is no deck. -/
theorem SessionDesk.Ending.mode {d : SessionDesk} {job : CallJob} {call : Nat} {session : Session} {result : Except Failure CallResult}
    (h : SessionDesk.Ending d job call session result) : session.mode = d.session.mode ∨ session.current = none := by
  cases h with
  | badMode | noRootModels | noDeckModels => exact Or.inl rfl
  | noDeck _ hc => exact Or.inr hc
  | rootModels => exact Or.inl (Session.takeRootModels_mode _ _)
  | failed => exact Or.inl (Session.fail_mode _ _ _)
  | shown => exact Or.inl (Session.showDeck_mode _ _ _ _)

/-- The end of a call keeps the mode that the page names. -/
theorem SessionDesk.Ending.titled {d : SessionDesk} {job : CallJob} {call : Nat} {session : Session} {result : Except Failure CallResult}
    (h : SessionDesk.Ending d job call session result) {l : Layout} (hl : d.session.page.LaidOut l) : session.Titled l.deck l.mode := by
  rcases h.effect hl with ⟨haside, -⟩ | ⟨_, -, -, -, htitled, -⟩
  · exact haside.titled ⟨l, hl, rfl, rfl⟩
  · exact htitled

namespace History

variable {h h' : History} {l : Layout}

/-- A deck whose notes and models have come is rendered, by a job. -/
def Deals (h h' : History) : Prop :=
  ∃ job ∈ h.course.agenda.ready, ∃ selection notes own,
    SessionDesk.DeckReady h.desk job selection notes own ∧ h.session.Renders selection notes own h'.session

/-- What becomes of the cards of a session, and of what names their mode. -/
inductive Sequel (h h' : History) : Prop
  /-- No deck has been selected. -/
  | undecked (hcurrent : h'.session.current = none)
  /-- The selection of a deck begins. -/
  | begun {deck : Option Text} (hbare : h'.session.Bare) (htitled : h'.session.Titled deck (some h'.session.mode.name))
  /-- The session goes on in the mode in which it is. -/
  | goes (hmode : h'.session.mode = h.session.mode) (hcurrent : h'.session.current = h.session.current)
    (htitled : ∀ l : Layout, h.session.page.LaidOut l → h'.session.Titled l.deck l.mode)
    (hcards : h.session.Leaves h'.session ∨ h'.session.Bare ∨ h.Deals h')

/-- It is one of these, whatever becomes of the session. -/
theorem Becomes.sequel (hb : h.Becomes h') (hl : h.session.page.LaidOut l) : h.Sequel h' := by
  cases hb with
  | @ends i job call session result hj hending hs =>
    rw [← hs] at hending
    rcases hending.mode with hmode | hnone
    · refine .goes hmode hending.sameDeck.current (fun k hk => hending.titled hk) ?_
      rcases hending.cards hl with h | h | ⟨selection, notes, own, hready, hrenders⟩
      · exact Or.inl h
      · exact Or.inr (Or.inl h)
      · exact Or.inr (Or.inr ⟨job, List.mem_of_getElem? hj, selection, notes, own, hready, hrenders⟩)
    · exact .undecked hnone
  | @opens i job call node mode hj ho hs =>
    have hl' : Page.LaidOut l ({ h.session with mode := mode } : Session).page := hl
    have htitled : h'.session.Titled (some node.name) (some h'.session.mode.name) := by
      rw [hs]
      exact ⟨_, Session.select_laidOut hl' node, rfl, rfl⟩
    refine .begun ?_ htitled
    rw [hs]
    exact Session.select_bare hl' node
  | hoisted librariesOnly fragment hs =>
    have hleaves : h.session.Leaves (h.session.strip librariesOnly fragment).1 :=
      Session.leaves_of_adds (Workspace.strip_adds librariesOnly fragment h.session.workspace) rfl hl
    rw [← hs] at hleaves
    refine .goes (by rw [hs]; rfl) (by rw [hs]; rfl) (fun k hk => ?_) (Or.inl hleaves)
    obtain ⟨k', hk', hgain⟩ := (Workspace.strip_gains librariesOnly fragment h.session.workspace).layout k hk
    rw [hs]
    exact ⟨k', hk', hgain.deck, hgain.mode⟩
  | clicked i hs =>
    have hleaves := Session.leaves_click hl i
    rw [← hs] at hleaves
    refine .goes ?_ ?_ (fun k hk => ?_) (Or.inl hleaves)
    · rw [hs, Session.click_mode]
    · rw [hs, (Session.click_sameDeck i _).current]
    · rw [hs]
      exact Session.click_titled hk i
  | stays hs =>
    refine .goes (by rw [hs]) (by rw [hs]) (fun k hk => ?_) (Or.inl ?_)
    · rw [hs]
      exact ⟨k, hk, rfl, rfl⟩
    · exact Session.Leaves.of_eq (by rw [hs]) (by rw [hs])

/-! ## In every history -/

/-- What stands in the place for the cards after all that has happened to a session: a message, or cards that were rendered earlier, when the
session was in the mode in which it still is. Since then scripts may have been put into them, and they may have been clicked. -/
inductive OnTable (start : History) (xs : List Happening) : Prop
  | message (hbare : (start.through xs).session.Bare)
  | cards {before after : List Happening} {x : Happening} (hxs : xs = before ++ x :: after)
    (hmode : (start.through before).session.mode = (start.through xs).session.mode)
    (hdeals : (start.through before).Deals ((start.through before).happen x))
    (hstanding : (start.through xs).session.Standing)
    (hcards : Card.BecomeAll ((start.through before).happen x).session.cards (start.through xs).session.cards)

variable {start : History} {xs : List Happening}

theorem through_snoc (start : History) (xs : List Happening) (x : Happening) : start.through (xs ++ [x]) = (start.through xs).happen x :=
  through_append xs [x] start

/-- Cards stay, and so does a message, while the session goes on in its mode. -/
theorem OnTable.goes {x : Happening} (h : OnTable start xs)
    (hmode : (start.through (xs ++ [x])).session.mode = (start.through xs).session.mode)
    (hleaves : (start.through xs).session.Leaves (start.through (xs ++ [x])).session) : OnTable start (xs ++ [x]) := by
  cases h with
  | message hbare => exact .message (hleaves.bare hbare)
  | @cards before after y hxs hmode' hdeals hstanding hcards =>
    obtain ⟨hstanding', hmore⟩ := hleaves.standing hstanding
    have hsplit : xs ++ [x] = before ++ y :: (after ++ [x]) := by
      rw [hxs, List.append_assoc]
      rfl
    exact .cards hsplit (hmode'.trans hmode.symm) hdeals hstanding' (hcards.trans hmore)

/-- Once a deck has been selected, the page names the mode of the session, and its cards have been rendered in it. -/
theorem titled_onTable (mode : RenderMode) (rootModels : Json) (xs : List Happening) {node : DeckNode}
    (hcurrent : ((fresh mode rootModels).through xs).session.current = some node) :
    (∃ deck, ((fresh mode rootModels).through xs).session.Titled deck
        (some ((fresh mode rootModels).through xs).session.mode.name)) ∧ OnTable (fresh mode rootModels) xs := by
  induction xs using List.reverseRecOn generalizing node with
  | nil => cases hcurrent
  | append_singleton xs x ih =>
    have hlast := through_snoc (fresh mode rootModels) xs x
    obtain ⟨l, hl⟩ := exists_laidOut mode rootModels xs
    have hsequel := (becomes ((fresh mode rootModels).through xs) x).sequel hl
    rw [← hlast] at hsequel
    cases hsequel with
    | undecked hnone => rw [hnone] at hcurrent; cases hcurrent
    | begun hbare htitled => exact ⟨⟨_, htitled⟩, .message hbare⟩
    | goes hmode hkept htitled hcards =>
      obtain ⟨⟨deck, k, hk, -, hnamed⟩, htable⟩ := ih (hkept ▸ hcurrent)
      refine ⟨⟨k.deck, ?_⟩, ?_⟩
      · rw [hmode, ← hnamed]
        exact htitled k hk
      · rcases hcards with hleaves | hbare | hdeals
        · exact htable.goes hmode hleaves
        · exact .message hbare
        · obtain ⟨_, -, _, _, _, -, hrenders⟩ := id hdeals
          refine .cards rfl hmode.symm (hlast ▸ hdeals) hrenders.standing ?_
          rw [hlast]
          exact Card.BecomeAll.refl _

/-! ## The mode and the cards -/

/-- The controls are shown and name the mode of the session, and the cards on the page have been rendered in it. -/
structure Labelled (start : History) (xs : List Happening) : Prop where
  names : (start.through xs).session.page.Names (start.through xs).session.mode
  table : OnTable start xs
  /-- The cards that stand in the page are those of the session. -/
  elements : (start.through xs).session.Standing →
    (start.through xs).session.page.cards = (start.through xs).session.cards.map Card.element
  /-- A card that is templated is there only when cards are shown by their models. -/
  templated : (start.through xs).session.Standing → ∀ card ∈ (start.through xs).session.cards, card.templated = true →
    (start.through xs).session.mode = .model

/-- A card has been rendered in the mode in which the session is. -/
theorem OnTable.templated (h : OnTable start xs) (hstanding : (start.through xs).session.Standing) {card : Card}
    (hcard : card ∈ (start.through xs).session.cards) (ht : card.templated = true) : (start.through xs).session.mode = .model := by
  cases h with
  | message hbare =>
    obtain ⟨⟨_, htaken⟩, -⟩ := hbare
    obtain ⟨_, _, _, _, -, -, -, hdeal, -⟩ := hstanding
    rw [htaken] at hdeal
    cases hdeal
  | cards hxs hmode hdeals _ hcards =>
    obtain ⟨_, -, _, _, _, -, hrenders⟩ := hdeals
    obtain ⟨shown, -, hshown⟩ := hrenders.cards
    obtain ⟨made, hmade, hbecomes⟩ := exists_of_forall₂ hcards hcard
    obtain ⟨note, -, hnote⟩ := exists_of_forall₂ hshown hmade
    rw [hbecomes.templated_eq] at ht
    rw [← hmode]
    exact (hnote.templated_iff.1 ht).1

theorem labelled (mode : RenderMode) (rootModels : Json) (xs : List Happening) {node : DeckNode}
    (hcurrent : ((fresh mode rootModels).through xs).session.current = some node) : Labelled (fresh mode rootModels) xs := by
  obtain ⟨⟨_, l, hl, -, hnamed⟩, htable⟩ := titled_onTable mode rootModels xs hcurrent
  refine ⟨Page.names_of_laidOut hl hnamed, htable, ?_, fun hstanding _ hcard ht => htable.templated hstanding hcard ht⟩
  rintro ⟨_, _, hdealt⟩
  exact hdealt.map_element.symm

/-- A call to change the mode, whose job is at a position, has been given a value that names none. The call ends with a failure that says so;
the session with its page, its models and its current deck is as it was, and so are the cache and all that goes on for other calls. -/
structure Refuses (h : History) (i call : Nat) (value : Json) (h' : History) : Prop where
  desk : h'.desk = h.desk.finish call (.error (.unknownMode value.plain))
  ready : h'.course.agenda.ready = h.course.agenda.ready.eraseIdx i
  out : h'.course.agenda.out = h.course.agenda.out
  requested : h'.course.agenda.requested = h.course.agenda.requested
  started : h'.course.started = h.course.started
  answers : h'.answers = h.answers

theorem unknownMode_of_error {value : Json} {failure : Failure} (hv : RenderMode.ofJson value = .error failure) :
    failure = .unknownMode value.plain := by
  unfold RenderMode.ofJson at hv
  split at hv
  · cases hv
  · exact (Except.error.inj hv).symm

theorem refuses {h : History} {i call : Nat} {value : Json} {failure : Failure} (hv : RenderMode.ofJson value = .error failure)
    (hj : h.course.agenda.ready[i]? = some (.begin call (.setMode value))) : h.Refuses i call value (h.happen (.event (.run i))) := by
  obtain rfl := unknownMode_of_error hv
  have hperform : SessionDesk.perform (.begin call (.setMode value)) h.desk =
      .rest (h.desk.finish call (.error (.unknownMode value.plain))) := by
    simp only [SessionDesk.perform, SessionDesk.begin, SessionDesk.beginSetMode, hv]
  have hbegins : (CallJob.begin call (.setMode value)).begins? h.session = none := by
    simp only [CallJob.begins?, hv]
  rw [happen_run hj, hperform, hbegins]
  exact ⟨rfl, List.append_nil _, List.append_nil _, List.append_nil _, List.append_nil _, rfl⟩

/-- However calls overlap, and whatever is done from outside: once a deck has been selected, the controls are shown and name the mode of the
session, and the cards on the page have been rendered in it. A value that names no mode changes nothing. -/
theorem controls_name_mode (mode : RenderMode) (rootModels : Json) (xs : List Happening) :
    (∀ node, ((fresh mode rootModels).through xs).session.current = some node → Labelled (fresh mode rootModels) xs) ∧
      ∀ value failure i call, RenderMode.ofJson value = .error failure →
        ((fresh mode rootModels).through xs).course.agenda.ready[i]? = some (.begin call (.setMode value)) →
          Refuses ((fresh mode rootModels).through xs) i call value (((fresh mode rootModels).through xs).happen (.event (.run i))) :=
  ⟨fun _ hcurrent => labelled mode rootModels xs hcurrent, fun _ _ _ _ hv hj => refuses hv hj⟩

/-- A call that is made leaves the session as it is, and its job comes last. -/
theorem called (request : Request) (h : History) :
    (h.happen (.event (.call request))).session = h.session ∧
      (h.happen (.event (.call request))).course.agenda.ready = h.course.agenda.ready ++ [.begin h.desk.calls request] :=
  ⟨rfl, rfl⟩

/-- A deck is selected whose card has a model that all decks share, and while its data are on their way, the mode is changed. -/
def changing : List Happening :=
  ([.call .loadRootModels, .run 0, .run 0, .answer 0 (.ok (modelsText [modelNamed "m" "x"])), .run 0, .run 0,
    .call (.select (Course.deckNamed "a")), .run 0, .run 0, .call (.setMode (.text "model"))] ++ List.replicate 5 (.run 0) ++
    [.answer 0 (.ok (notesText ["m"])), .answer 0 (.ok "\x7b\x7d"), .answer 0 (.ok (notesText ["m"]))] ++
    List.replicate 9 (.run 0) : List CallEvent).map Happening.event

/-- A word is given that is no mode. -/
def changingAgain : List Happening := changing ++ [.event (.call (.setMode (.text "bold")))]

/-- The card is templated, as the controls say, and the word that is no mode is refused. -/
theorem controls_name_mode_changing :
    ((fresh .raw (.text "models.json")).through changingAgain).session.cards.map Card.templated = [true] ∧
      Labelled (fresh .raw (.text "models.json")) changingAgain ∧
      Refuses ((fresh .raw (.text "models.json")).through changingAgain) 0 3 (.text "bold")
        (((fresh .raw (.text "models.json")).through changingAgain).happen (.event (.run 0))) := by
  have hrun : ((fresh .raw (.text "models.json")).through changing).session.cards.map Card.templated = [true] ∧
      ((fresh .raw (.text "models.json")).through changing).session.current.isSome = true ∧
      ((fresh .raw (.text "models.json")).through changing).course.agenda.ready.isEmpty = true ∧
      ((fresh .raw (.text "models.json")).through changing).desk.calls = 3 := by
    decide +kernel
  obtain ⟨hcards, hcurrent, hready, hcalls⟩ := hrun
  obtain ⟨hsession, hjobs⟩ := called (.setMode (.text "bold")) ((fresh .raw (.text "models.json")).through changing)
  rw [← through_snoc] at hsession hjobs
  rw [List.isEmpty_iff.1 hready, hcalls] at hjobs
  obtain ⟨hlabelled, hrefuses⟩ := controls_name_mode .raw (.text "models.json") changingAgain
  obtain ⟨node, hnode⟩ := Option.isSome_iff_exists.1 hcurrent
  refine ⟨?_, hlabelled node ?_, hrefuses (.text "bold") _ 0 3 rfl ?_⟩
  · rw [changingAgain, hsession]
    exact hcards
  · rw [changingAgain, hsession]
    exact hnode
  · rw [changingAgain, hjobs]
    rfl

end History

end Flashcards
