import Flashcards.Proofs.Hoist.Again
import Flashcards.Proofs.Models.Registry
import Flashcards.Proofs.Page.Regions
import Flashcards.Proofs.Session.Supplied

/-!
# What only grows

Whatever happens to a session, the keys that have models stay, in their order (`History.keys_prefix`), and so do the addresses that have
been claimed (`History.claimed_subset`). What a fragment comes to when it is hoisted does not depend on either: it is the same after any
two histories, and a fragment that has been hoisted at any time brings nothing when it is hoisted again
(`History.hoist_independent`).
-/

namespace Flashcards

open Text Markup Markup.Node

namespace Session

variable {s : Session}

/-! ## The models -/

theorem renderDeck_models (node : DeckNode) (notes : List Note) (s : Session) : (s.renderDeck node notes).1.models = s.models := by
  have hf := (renderFrom_models node notes.length notes 0 s.clearTable).1
  rw [renderDeck]
  dsimp only
  split
  · rfl
  · split <;> rename_i h <;> rw [h] at hf <;> exact hf

/-- A selection that is brought to its end registers the models of its deck. -/
theorem showDeck_models (selection : Selection) (notes : List Note) (models : Option Json) (s : Session) :
    (s.showDeck selection notes models).1.models = s.models.merge ((models.map NoteModel.listOf).getD []) := by
  have hr : (s.register ((models.map NoteModel.listOf).getD [])).1.models = s.models.merge ((models.map NoteModel.listOf).getD []) := rfl
  rw [showDeck]
  generalize s.register ((models.map NoteModel.listOf).getD []) = p at hr ⊢
  obtain ⟨s', _ | failure⟩ := p
  · dsimp only at hr ⊢
    split
    · exact (renderDeck_models _ _ _).trans hr
    · exact hr
  · exact hr

theorem fail_models (selection : Selection) (failure : Failure) (s : Session) : (s.fail selection failure).1.models = s.models := by
  rw [fail]
  split <;> rfl

theorem takeRootModels_models (resource : Option Json) (s : Session) :
    (s.takeRootModels resource).1.models = s.models.merge ((resource.map NoteModel.listOf).getD []) := by
  cases resource with
  | none => rfl
  | some data =>
    have hr : (s.register (NoteModel.listOf data)).1.models = s.models.merge (NoteModel.listOf data) := rfl
    rw [takeRootModels]
    generalize s.register (NoteModel.listOf data) = p at hr ⊢
    obtain ⟨s', _ | failure⟩ := p <;> exact hr

theorem click_models (i : Nat) (s : Session) : (s.click i).models = s.models := by
  rw [click]
  split
  · rfl
  · split <;> rfl

/-! ## Hoisting -/

/-- A fragment that is hoisted leaves everything of a session as it is, apart from its page and what belongs to that. -/
theorem strip_of_hoist {s' : Session} {librariesOnly : Bool} {fragment rest : Text}
    (h : s.hoist librariesOnly fragment = .ok (rest, s')) :
    ∃ w, s.workspace.strip librariesOnly fragment = (w, .ok rest) ∧ s' = { s with workspace := w } := by
  rw [hoist] at h
  cases hw : s.workspace.hoist librariesOnly fragment with
  | error failure => rw [hw] at h; cases h
  | ok r =>
    rw [hw] at h
    obtain ⟨rfl, rfl⟩ := Prod.mk.inj (Except.ok.inj h)
    exact ⟨r.2, Workspace.strip_of_hoist hw, rfl⟩

end Session

/-- The end of a call registers models, or none. -/
theorem SessionDesk.Ending.models {d : SessionDesk} {job : CallJob} {call : Nat} {session : Session} {result : Except Failure CallResult}
    (h : SessionDesk.Ending d job call session result) : ∃ models, session.models = d.session.models.merge models := by
  cases h with
  | badMode | noRootModels | noDeckModels | noDeck => exact ⟨[], rfl⟩
  | rootModels => exact ⟨_, Session.takeRootModels_models _ _⟩
  | failed => exact ⟨[], Session.fail_models _ _ _⟩
  | shown => exact ⟨_, Session.showDeck_models _ _ _ _⟩

/-- What has been claimed is still claimed when a workspace has been supplied. -/
theorem Workspace.Supplies.claimed_subset {w w' : Workspace} {astray : Prop} (h : w.Supplies astray w') {l : Layout}
    (hl : w.page.LaidOut l) : w.claimed.items ⊆ w'.claimed.items := by
  obtain ⟨_, _, _, -, -, hp, -⟩ := h l hl
  intro t ht
  exact hp.mem_iff.2 (List.mem_append_left _ (List.mem_append_left _ ht))

namespace History

variable {h h' : History}

/-- Whatever becomes of a session registers models, or none. -/
theorem Becomes.models (hb : h.Becomes h') : ∃ models, h'.session.models = h.session.models.merge models := by
  cases hb with
  | ends _ he hs _ _ =>
    rw [hs]
    exact he.models
  | opens _ _ hs _ _ =>
    rw [hs]
    exact ⟨[], rfl⟩
  | hoisted librariesOnly fragment hs _ _ =>
    rw [hs]
    exact ⟨[], rfl⟩
  | clicked i hs _ _ =>
    rw [hs]
    exact ⟨[], Session.click_models i h.session⟩
  | stays hs _ _ =>
    rw [hs]
    exact ⟨[], rfl⟩

theorem through_singleton (x : Happening) (h : History) : h.through [x] = h.happen x := rfl

theorem through_concat (xs more : List Happening) (x : Happening) (h : History) :
    h.through (xs ++ (more ++ [x])) = (h.through (xs ++ more)).happen x := by
  rw [← List.append_assoc]
  exact through_append (xs ++ more) [x] h

/-- The keys that have models stay, in their order. -/
theorem keys_prefix (xs more : List Happening) (h : History) :
    (h.through xs).session.models.keys <+: (h.through (xs ++ more)).session.models.keys := by
  induction more using List.reverseRecOn with
  | nil => simp only [List.append_nil, List.prefix_refl]
  | append_singleton more x ih =>
    obtain ⟨models, hm⟩ := (becomes (h.through (xs ++ more)) x).models
    rw [through_concat, hm]
    exact ih.trans (ModelRegistry.keys_prefix_merge models _)

/-- The addresses that have been claimed stay. -/
theorem claimed_subset (mode : RenderMode) (rootModels : Json) (xs more : List Happening) :
    ((fresh mode rootModels).through xs).session.workspace.claimed.items ⊆
      ((fresh mode rootModels).through (xs ++ more)).session.workspace.claimed.items := by
  induction more using List.reverseRecOn with
  | nil => simp only [List.append_nil, List.Subset.refl]
  | append_singleton more x ih =>
    obtain ⟨l, hl⟩ := exists_laidOut mode rootModels (xs ++ more)
    have hs := (becomes ((fresh mode rootModels).through (xs ++ more)) x).supplies
    rw [through_concat]
    exact List.Subset.trans ih (hs.claimed_subset hl)

/-! ## Hoisting a fragment -/

/-- A fragment that has been hoisted in an earlier state of a session brings nothing when it is hoisted in a later one, with the same
choice or the other: the addresses claimed and the page stay as they are, and no script is added to those that wait if the choice is the
same and those that waited then still do. -/
def BringsNothing (librariesOnly : Bool) (fragment : Text) (earlier later : Session) : Prop :=
  ∀ librariesOnly', ∃ rest session, later.hoist librariesOnly' fragment = .ok (rest, session) ∧
    session.workspace.claimed = later.workspace.claimed ∧ session.page = later.page ∧
    (librariesOnly' = librariesOnly → earlier.workspace.deferred.items ⊆ later.workspace.deferred.items →
      session.workspace.deferred = later.workspace.deferred)

/-- A fragment that is hoisted leaves the session that it says. -/
theorem session_hoisted {h : History} {librariesOnly : Bool} {fragment rest : Text} {session : Session}
    (hh : h.session.hoist librariesOnly fragment = .ok (rest, session)) :
    (h.happen (.outside (.hoist librariesOnly fragment))).session = session := by
  obtain ⟨w, hw, rfl⟩ := Session.strip_of_hoist hh
  show (h.session.strip librariesOnly fragment).1 = _
  rw [Session.strip, hw]

/-- What a fragment comes to when it is hoisted, or how it fails, is the same after any two histories, in which the places for what it
brings are found on the page. And once it has been hoisted it brings nothing, at once or after anything else has happened. -/
theorem hoist_independent (mode mode' : RenderMode) (rootModels rootModels' : Json) (xs ys : List Happening) (librariesOnly : Bool)
    (fragment : Text) :
    (((fresh mode rootModels).through xs).session.hoist librariesOnly fragment).map Prod.fst =
        (((fresh mode' rootModels').through ys).session.hoist librariesOnly fragment).map Prod.fst ∧
      (∀ (href : Text) (source : Page.ScriptSource),
        (Page.Change.appendStylesheet href).Succeeds ((fresh mode rootModels).through xs).session.page ∧
          (Page.Change.appendScript source).Succeeds ((fresh mode rootModels).through xs).session.page) ∧
      ∀ rest session, ((fresh mode rootModels).through xs).session.hoist librariesOnly fragment = .ok (rest, session) →
        ∀ more, BringsNothing librariesOnly fragment session
          ((fresh mode rootModels).through (xs ++ .outside (.hoist librariesOnly fragment) :: more)).session := by
  refine ⟨?_, ?_, ?_⟩
  · have hrest := Workspace.hoist_rest_congr librariesOnly fragment ((fresh mode rootModels).through xs).session.workspace
      ((fresh mode' rootModels').through ys).session.workspace
    simp only [Session.hoist]
    generalize ((fresh mode rootModels).through xs).session.workspace.hoist librariesOnly fragment = r at hrest ⊢
    generalize ((fresh mode' rootModels').through ys).session.workspace.hoist librariesOnly fragment = r' at hrest ⊢
    cases r <;> cases r' <;> exact hrest
  · intro href source
    obtain ⟨l, hl⟩ := exists_laidOut mode rootModels xs
    exact ⟨⟨Page.isSome_sought hl _, rfl⟩, ⟨Page.isSome_sought hl _, rfl⟩⟩
  · intro rest session hh more librariesOnly'
    obtain ⟨w, hw, rfl⟩ := Session.strip_of_hoist hh
    have hsub := claimed_subset mode rootModels (xs ++ [.outside (.hoist librariesOnly fragment)]) more
    rw [through_append xs, through_singleton, session_hoisted hh, List.append_assoc, List.singleton_append] at hsub
    generalize ((fresh mode rootModels).through (xs ++ .outside (.hoist librariesOnly fragment) :: more)).session = later at hsub ⊢
    obtain ⟨rest', w', hw', hpage, hclaimed, hdeferred⟩ := Workspace.strip_of_taken hw hsub librariesOnly'
    refine ⟨rest', { later with workspace := w' }, ?_, hclaimed, hpage, hdeferred⟩
    rw [Session.hoist, Workspace.hoist, hw']
    rfl

/-- A fragment with two libraries and a script. -/
def libraryFragment : Text := "<script src=l></script><script src=m></script><script>f()</script>q"

/-- A fragment that is hoisted when one of its libraries has been taken in leaves the same as on a page on which nothing has been shown,
and nothing is left to take in when another deck has been shown. -/
theorem hoist_independent_libraryFragment :
    ∃ rest session,
      ((fresh .raw (.text "models.json")).through keepsLibrary).session.hoist false libraryFragment = .ok (rest, session) ∧
      ((fresh .raw (.text "models.json")).session.hoist false libraryFragment).map Prod.fst = .ok rest ∧
      session.workspace.claimed.items = [("l" : Text), "m"] ∧ session.workspace.deferred.items = [("f()" : Text)] ∧
      BringsNothing false libraryFragment session
        ((fresh .raw (.text "models.json")).through
          (keepsLibrary ++ .outside (.hoist false libraryFragment) :: (selected "b" []).map Happening.event)).session := by
  have hrun : (((fresh .raw (.text "models.json")).through keepsLibrary).session.hoist false libraryFragment).toOption.map
      (fun r => (r.2.workspace.claimed.items, r.2.workspace.deferred.items)) =
        some ([("l" : Text), "m"], [("f()" : Text)]) := by
    decide +kernel
  cases hh : ((fresh .raw (.text "models.json")).through keepsLibrary).session.hoist false libraryFragment with
  | error failure =>
    rw [hh] at hrun
    cases hrun
  | ok r =>
    rw [hh] at hrun
    obtain ⟨hclaimed, hdeferred⟩ := Prod.mk.inj (Option.some.inj hrun)
    obtain ⟨hsame, -, hagain⟩ := hoist_independent .raw .raw (.text "models.json") (.text "models.json") keepsLibrary [] false libraryFragment
    rw [hh] at hsame
    exact ⟨r.1, r.2, rfl, hsame.symm, hclaimed, hdeferred, hagain r.1 r.2 hh _⟩

end History

end Flashcards
