import Flashcards.Proofs.Hoist.Again
import Flashcards.Proofs.Hoist.Order
import Flashcards.Proofs.Session.Rejection

/-!
# Registering models

When models are registered, the libraries of their templates are taken in, text by text. Whether that comes to an end is decided by the texts
alone (`Session.register_eq_none_iff`). Where a text cannot be hoisted, the models have been registered already, and everything that the texts
before it bring has been taken in, and what it has given up itself (`Workspace.preloadAll_eq_some`): nothing of that is undone.

So the resources of the session are as they were before exactly if there was nothing to bring: the models change no entry, and all that the
texts have given up by then had been claimed (`Session.register_extent`).
-/

namespace Flashcards

open Text Markup

theorem Script.source?_eq_some {s : Script} {source : Page.ScriptSource} : s.source? = some source ↔ s = .external source := by
  cases s <;> simp [Script.source?]

/-- What is given up at an address is a script there, or a style sheet. -/
theorem Harvest.exists_reference_iff {h : Harvest} {t : Text} :
    (∃ r ∈ h.references, r.address = t) ↔ (∃ source, Script.external source ∈ h.scripts ∧ source.address = t) ∨ t ∈ h.stylesheets := by
  constructor
  · rintro ⟨r, hr, rfl⟩
    rcases List.mem_append.1 hr with hr | hr
    · obtain ⟨href, hhref, rfl⟩ := List.mem_map.1 hr
      exact Or.inr hhref
    · obtain ⟨source, hsource, rfl⟩ := List.mem_map.1 hr
      obtain ⟨s, hs, hsource⟩ := List.mem_filterMap.1 hsource
      obtain rfl := Script.source?_eq_some.1 hsource
      exact Or.inl ⟨source, hs, rfl⟩
  · rintro (⟨source, hs, rfl⟩ | ht)
    · exact ⟨.library source, List.mem_append_right _ (List.mem_map.2 ⟨source, List.mem_filterMap.2 ⟨_, hs, rfl⟩, rfl⟩), rfl⟩
    · exact ⟨.stylesheet t, List.mem_append_left _ (List.mem_map.2 ⟨t, ht, rfl⟩), rfl⟩

namespace Workspace

open Harvest

variable {w w' : Workspace} {fragment : Text}

/-! ## What has been claimed -/

/-- What is claimed when a fragment has been stripped: the addresses at which it gives something up, and what was claimed before. -/
theorem mem_strip {librariesOnly : Bool} {t : Text} : t ∈ (w.strip librariesOnly fragment).1.claimed.items ↔
    (∃ r ∈ (ofFragment librariesOnly fragment).references, r.address = t) ∨ t ∈ w.claimed.items := by
  rw [strip_eq, take, mem_takeScripts, mem_takeStylesheets, exists_reference_iff, or_assoc]

/-- The libraries of a fragment change nothing if all that it gives up has been claimed. -/
theorem strip_of_claimed (hs : ∀ r ∈ (ofFragment true fragment).references, r.address ∈ w.claimed.items) :
    (w.strip true fragment).1 = w := by
  have hmem : ∀ t, (∃ r ∈ (ofFragment true fragment).references, r.address = t) → t ∈ w.claimed.items := by
    rintro t ⟨r, hr, rfl⟩
    exact hs r hr
  have htaken : w.Taken (ofFragment true fragment) :=
    ⟨fun href hm => hmem href (exists_reference_iff.2 (Or.inr hm)),
      fun source hm => hmem _ (exists_reference_iff.2 (Or.inl ⟨source, hm, rfl⟩))⟩
  obtain ⟨hpage, hclaimed⟩ := take_of_taken htaken
  have hdeferred := strip_librariesOnly_deferred fragment w
  rw [strip_eq] at hdeferred ⊢
  exact eq_of_parts hpage hclaimed hdeferred

/-! ## One text after the other -/

/-- Where libraries are not all taken in, there is a first text that cannot be hoisted. The libraries of those before it have been taken in,
and what it has given up itself. -/
theorem preloadAll_eq_some {fragments : List Text} {failure : Failure} (h : w.preloadAll fragments = (w', some failure)) :
    ∃ before failing after, fragments = before ++ failing :: after ∧ (w.preloadAll before).2 = none ∧
      leftOf true failing = .error failure ∧ w' = ((w.preloadAll before).1.strip true failing).1 := by
  induction fragments generalizing w with
  | nil => cases h
  | cons fragment fragments ih =>
    rw [preloadAll] at h
    cases hstrip : w.strip true fragment with
    | mk w₁ left =>
      rw [hstrip] at h
      cases left with
      | error failure' =>
        obtain ⟨rfl, hfailure⟩ := Prod.mk.inj h
        obtain rfl := Option.some.inj hfailure
        refine ⟨[], fragment, fragments, rfl, rfl, leftOf_of_strip hstrip, ?_⟩
        rw [preloadAll, hstrip]
      | ok rest =>
        obtain ⟨before, failing, after, rfl, hbefore, hfailing, hw⟩ := ih h
        have hcons : w.preloadAll (fragment :: before) = w₁.preloadAll before := by rw [preloadAll, hstrip]
        refine ⟨fragment :: before, failing, after, rfl, ?_, hfailing, ?_⟩
        · rw [hcons]
          exact hbefore
        · rw [hcons]
          exact hw

/-- What is claimed when the libraries of fragments have been taken in: what the fragments give up, and what was claimed before. -/
theorem mem_preloadAll {fragments : List Text} (h : (w.preloadAll fragments).2 = none) {t : Text} :
    t ∈ (w.preloadAll fragments).1.claimed.items ↔
      (∃ fragment ∈ fragments, ∃ r ∈ (ofFragment true fragment).references, r.address = t) ∨ t ∈ w.claimed.items := by
  induction fragments generalizing w with
  | nil => simp [preloadAll]
  | cons fragment fragments ih =>
    have hall : w.preloadAll (fragment :: fragments) = ((w.preloadAll (fragment :: fragments)).1, none) := Prod.ext rfl h
    obtain ⟨rest, w₁, hstrip, hrest⟩ := exists_strip_of_preloadAll hall
    have hone : t ∈ (w.strip true fragment).1.claimed.items ↔ _ := mem_strip
    have hi := ih (congrArg Prod.snd hrest)
    rw [hstrip] at hone
    rw [hrest, hone] at hi
    rw [hi, List.exists_mem_cons_iff, ← or_assoc]
    exact or_congr_left or_comm

/-- The libraries of fragments change nothing if all that the fragments give up has been claimed. -/
theorem preloadAll_of_claimed {fragments : List Text}
    (hs : ∀ fragment ∈ fragments, ∀ r ∈ (ofFragment true fragment).references, r.address ∈ w.claimed.items) :
    (w.preloadAll fragments).1 = w := by
  induction fragments with
  | nil => rfl
  | cons fragment fragments ih =>
    obtain ⟨hone, hrest⟩ := List.forall_mem_cons.1 hs
    have hstrip := strip_of_claimed hone
    rw [preloadAll]
    generalize w.strip true fragment = r at hstrip
    obtain ⟨w₁, failure | rest⟩ := r
    · exact hstrip
    · obtain rfl : w₁ = w := hstrip
      exact ih hrest

end Workspace

namespace Session

/-- The resources of a session are those of another one: the models, the addresses claimed, the style sheets in the head and what is found by
the name of the region for libraries. -/
structure SameResources (s t : Session) : Prop where
  models : t.models = s.models
  claimed : t.workspace.claimed = s.workspace.claimed
  links : t.page.links = s.page.links
  library : t.page.byId? Page.libraryId = s.page.byId? Page.libraryId

open Workspace

/-- The registering of models comes to an end exactly if every text of their templates can be hoisted; then the models are registered, and
all that the texts bring has been claimed. Otherwise it fails at the first text that cannot be hoisted: one that is rejected, or one with a
link to a style sheet in one that is taken out. The models are registered all the same, the texts before that one have been taken in, and
what that one has given up, and nothing else is done; the resources are as they were before exactly if the models change no entry and all
that those texts have given up had been claimed. -/
theorem register_extent (models : List NoteModel) (s : Session) :
    ((s.register models).2 = none ↔ ∀ t ∈ templateTexts models, ¬ Page.Unhoistable t) ∧
      ((s.register models).2 = none → (s.register models).1.models = s.models.merge models ∧
        ∀ address, address ∈ (s.register models).1.workspace.claimed.items ↔
          (∃ t ∈ templateTexts models, ∃ r ∈ (Harvest.ofFragment true t).references, r.address = address) ∨
            address ∈ s.workspace.claimed.items) ∧
      ∀ failure, (s.register models).2 = some failure → ∃ before failing after,
        templateTexts models = before ++ failing :: after ∧ (∀ t ∈ before, ¬ Page.Unhoistable t) ∧
        (Page.fragment failing = .error failure ∨
          failure = .notAnObject .null ∧ ∃ nodes, Page.fragment failing = .ok nodes ∧ Tangled nodes) ∧
        (s.register models).1 = { s with
          models := s.models.merge models, workspace := ((s.workspace.preloadAll before).1.strip true failing).1 } ∧
        (s.SameResources (s.register models).1 ↔ s.models.merge models = s.models ∧
          ∀ t ∈ before ++ [failing], ∀ r ∈ (Harvest.ofFragment true t).references, r.address ∈ s.workspace.claimed.items) := by
  refine ⟨register_eq_none_iff models s, fun hnone => ⟨rfl, fun address => mem_preloadAll hnone⟩, fun failure hfailure => ?_⟩
  have hall : s.workspace.preloadAll (templateTexts models) = ((s.register models).1.workspace, some failure) :=
    Prod.ext rfl hfailure
  obtain ⟨before, failing, after, htexts, hnone, hfailing, hworkspace⟩ := preloadAll_eq_some hall
  have hbefore := (preloadAll_eq_none_iff before s.workspace).1 hnone
  simp only [exists_leftOf_iff] at hbefore
  refine ⟨before, failing, after, htexts, hbefore, leftOf_eq_error_iff.1 hfailing, ?_, ?_⟩
  · rw [← hworkspace]
    rfl
  -- What is claimed in the end: what was, what the texts before bring, and what the failing one has given up.
  have hclaimed : ∀ address, address ∈ (s.register models).1.workspace.claimed.items ↔
      (∃ r ∈ (Harvest.ofFragment true failing).references, r.address = address) ∨
        (∃ t ∈ before, ∃ r ∈ (Harvest.ofFragment true t).references, r.address = address) ∨ address ∈ s.workspace.claimed.items := by
    intro address
    rw [hworkspace, mem_strip, mem_preloadAll hnone]
  constructor
  · intro h
    refine ⟨h.models, fun t ht r hr => ?_⟩
    have hmem := hclaimed r.address
    rw [h.claimed] at hmem
    rcases List.mem_append.1 ht with ht | ht
    · exact hmem.2 (Or.inr (Or.inl ⟨t, ht, r, hr, rfl⟩))
    · obtain rfl := List.mem_singleton.1 ht
      exact hmem.2 (Or.inl ⟨r, hr, rfl⟩)
  · rintro ⟨hmodels, hgiven⟩
    rw [List.forall_mem_append, List.forall_mem_singleton] at hgiven
    have hsame : (s.register models).1.workspace = s.workspace := by
      rw [hworkspace, preloadAll_of_claimed hgiven.1, strip_of_claimed hgiven.2]
    refine ⟨hmodels, congrArg Workspace.claimed hsame, ?_, ?_⟩
    · exact congrArg (fun w : Workspace => w.page.links) hsame
    · exact congrArg (fun w : Workspace => w.page.byId? Page.libraryId) hsame

/-- A model whose question links to a style sheet and to a library, and whose answer is rejected. -/
def partlyRejected : List NoteModel :=
  [⟨none, some "m", [], [], [⟨[], "<link rel=stylesheet href=s><script src=l></script>", "<![x[y]]>"⟩], []⟩]

/-- The question is read, and the answer is not. -/
theorem register_extent_partlyRejected :
    ∃ failure, (register partlyRejected (fresh .raw)).2 = some failure ∧
      ¬ (fresh .raw).SameResources (register partlyRejected (fresh .raw)).1 := by
  have hfails : (register partlyRejected (fresh .raw)).2.isSome = true := by decide +kernel
  obtain ⟨failure, hfailure⟩ := Option.isSome_iff_exists.1 hfails
  refine ⟨failure, hfailure, fun hsame => ?_⟩
  obtain ⟨before, failing, after, -, -, -, -, hiff⟩ := (register_extent partlyRejected (fresh .raw)).2.2 failure hfailure
  have hmodels := (hiff.1 hsame).1
  cases hmodels

/-- Registering it fails, and leaves the model registered, both addresses claimed, and the style sheet and the library on the page, where
there was nothing before. -/
theorem register_leaves_part :
    (register partlyRejected (fresh .raw)).2.isSome = true ∧
      (fresh .raw).models.keys = [] ∧ (register partlyRejected (fresh .raw)).1.models.keys = [("m" : Text)] ∧
      (fresh .raw).workspace.claimed.items = [] ∧
      (register partlyRejected (fresh .raw)).1.workspace.claimed.items = [("s" : Text), "l"] ∧
      (fresh .raw).page.links = [] ∧ (register partlyRejected (fresh .raw)).1.page.links = [Page.stylesheet "s"] ∧
      ((fresh .raw).page.byId? Page.libraryId).map Node.children = some [] ∧
      ((register partlyRejected (fresh .raw)).1.page.byId? Page.libraryId).map Node.children =
        some [Page.script ⟨"l", false, false, []⟩] := by
  decide +kernel

end Session

end Flashcards
