import Mathlib.Data.List.Basic
import Flashcards.Proofs.Hoist.Pruning
import Flashcards.Proofs.Hoist.Scripts
import Flashcards.Proofs.Page.Resources

/-!
# The order of hoisted resources

What a fragment refers to is its style sheets and then the scripts at addresses, each in document order (`references`). Over any calls
that take fragments in, the first reference to each address decides what stands on the page, where it stands, and when a script is to
run (`resources_in_order`): the order in which a library and the libraries that depend on it are loaded is that of first references.

The scripts are looked for when the style sheets have been taken out of the fragment. What is given up is then all that a fragment refers to
if the links to style sheets have no content, with which something would go (`references_ofFragment`).
-/

namespace Flashcards

open Text Markup Markup.Node

/-! ## References -/

/-- What a fragment refers to at an address. -/
inductive Reference where
  | stylesheet (href : Text)
  | library (source : Page.ScriptSource)
  deriving DecidableEq

namespace Reference

/-- The address that is referred to. -/
def address : Reference → Text
  | stylesheet href => href
  | library source => source.address

/-- The address of a style sheet, if it is one. -/
def stylesheet? : Reference → Option Text
  | stylesheet href => some href
  | library _ => none

/-- The script, if it is one. -/
def library? : Reference → Option Page.ScriptSource
  | stylesheet _ => none
  | library source => some source

/-- The first reference to each address. -/
def earliest : List Reference → List Reference
  | [] => []
  | r :: rs => r :: (earliest rs).filter fun s => s.address != r.address

end Reference

/-- The script at an address that an element is, if it is one. -/
def librarySource? (n : Node) : Option Page.ScriptSource :=
  match script? n with
  | some (.external source) => some source
  | _ => none

/-- What nodes refer to: their style sheets, and then their scripts. -/
def referencesOf (nodes : List Node) : List Reference :=
  ((preorderAll nodes).filterMap stylesheetAddress?).map .stylesheet ++ ((preorderAll nodes).filterMap librarySource?).map .library

/-- What a fragment refers to; one that is rejected refers to nothing. -/
def references (fragment : Text) : List Reference :=
  match Page.fragment fragment with
  | .ok nodes => referencesOf nodes
  | .error _ => []

/-! ## Calls -/

/-- A call that takes in what fragments refer to. -/
inductive HoistCall where
  | hoist (librariesOnly : Bool) (fragment : Text)
  | preload (models : List NoteModel)

namespace HoistCall

/-- The fragments that a call takes in, in order. -/
def fragments : HoistCall → List Text
  | hoist _ fragment => [fragment]
  | preload models => Workspace.templateTexts models

/-- Whether a call takes in libraries alone. -/
def librariesOnly : HoistCall → Bool
  | hoist librariesOnly _ => librariesOnly
  | preload _ => true

/-- What a call refers to. -/
def references (c : HoistCall) : List Reference := c.fragments.flatMap Flashcards.references

/-- The workspace that a call leaves, if it returns. -/
def perform : HoistCall → Workspace → Except Failure Workspace
  | hoist librariesOnly fragment, w => (w.hoist librariesOnly fragment).map Prod.snd
  | preload models, w =>
    match w.preload models with
    | (w, none) => .ok w
    | (_, some failure) => .error failure

/-- The workspace that calls leave, if all of them return. -/
def performAll : List HoistCall → Workspace → Except Failure Workspace
  | [], w => .ok w
  | c :: cs, w => c.perform w >>= performAll cs

end HoistCall

/-! ## First references -/

namespace Reference

/-- One more reference counts if its address has not been referred to. -/
theorem earliest_concat (rs : List Reference) (r : Reference) :
    earliest (rs ++ [r]) = if r.address ∈ (earliest rs).map address then earliest rs else earliest rs ++ [r] := by
  induction rs with
  | nil => simp [earliest]
  | cons s rs ih =>
    rw [List.cons_append, earliest, earliest, ih]
    by_cases hs : r.address = s.address
    · have hmem : r.address ∈ (s :: (earliest rs).filter fun t => t.address != s.address).map address := by simp [hs]
      rw [if_pos hmem]
      split
      · rfl
      · simp [hs]
    · have hiff : r.address ∈ (s :: (earliest rs).filter fun t => t.address != s.address).map address ↔
          r.address ∈ (earliest rs).map address := by
        simp only [List.map_cons, List.mem_cons, hs, false_or, List.mem_map, List.mem_filter, bne_iff_ne]
        constructor
        · rintro ⟨t, ⟨ht, -⟩, hta⟩
          exact ⟨t, ht, hta⟩
        · rintro ⟨t, ht, hta⟩
          exact ⟨t, ⟨ht, fun h => hs (hta.symm.trans h)⟩, hta⟩
      simp only [hiff]
      split
      · rfl
      · simp [hs]

end Reference

/-! ## What a fragment gives up at addresses -/

/-- The script at an address that is taken, if it is one. -/
def Script.source? : Script → Option Page.ScriptSource
  | .external source => some source
  | .inline _ => none

/-- What is given up at addresses. -/
def Harvest.references (h : Harvest) : List Reference :=
  h.stylesheets.map .stylesheet ++ (h.scripts.filterMap Script.source?).map .library

/-- What a call brings: what its fragments give up at addresses. -/
def HoistCall.brought (c : HoistCall) : List Reference :=
  c.fragments.flatMap fun t => (Harvest.ofFragment c.librariesOnly t).references

/-- The scripts at addresses that nodes give up are all that they have. -/
theorem filterMap_ofNodes (librariesOnly : Bool) {t : Text} {nodes : List Node} (h : parse t = .ok nodes) (hlinks : BareLinks nodes) :
    (Harvest.ofNodes librariesOnly nodes).scripts.filterMap Script.source? = (preorderAll nodes).filterMap librarySource? := by
  have htaken : (fun n => (scriptTaken? librariesOnly n).bind Script.source?) = librarySource? := by
    funext n
    unfold scriptTaken? librarySource?
    cases script? n with
    | none => rfl
    | some s => cases s <;> cases librariesOnly <;> rfl
  rw [scripts_ofNodes librariesOnly h hlinks, List.filterMap_filterMap, htaken]

/-- Where no link to a style sheet has content, a fragment gives up all that it refers to. -/
theorem references_ofFragment (librariesOnly : Bool) {fragment : Text}
    (hlinks : ∀ nodes, Page.fragment fragment = .ok nodes → BareLinks nodes) :
    (Harvest.ofFragment librariesOnly fragment).references = references fragment := by
  rw [Harvest.ofFragment, references]
  cases hf : Page.fragment fragment with
  | error failure => rfl
  | ok nodes =>
    have hparse := parse_of_fragment hf
    have hcut : Harvest.isCutShort librariesOnly nodes = false :=
      eq_false_of_ne_true fun hcut => (hlinks nodes hf).not_tangled ((isCutShort_iff_tangled librariesOnly hparse).1 hcut)
    dsimp only
    rw [Harvest.reached_eq_ofNodes hcut, Harvest.references, filterMap_ofNodes librariesOnly hparse (hlinks nodes hf)]
    rfl

/-! ## What is taken in -/

namespace Workspace

open Reference

/-- What has been claimed and stands on the page is what has been referred to: the first reference to each address. -/
structure Holds (rs : List Reference) (w : Workspace) : Prop where
  claimed : w.claimed.items = (earliest rs).map address
  page : w.page.LaidOut { Layout.initial with links := (earliest rs).filterMap stylesheet?, library := (earliest rs).filterMap library? }

variable {rs : List Reference} {w w' : Workspace}

theorem blank_holds : blank.Holds [] := ⟨rfl, Page.blank_laidOut⟩

/-- Only what is claimed and the page count. -/
theorem Holds.of_eq (h : w.Holds rs) (hc : w'.claimed = w.claimed) (hp : w'.page = w.page) : w'.Holds rs := by
  refine ⟨?_, ?_⟩
  · rw [hc]
    exact h.claimed
  · rw [hp]
    exact h.page

/-- A reference taken in: its address is claimed, and what it refers to is put at the end if it had not been claimed. -/
theorem Holds.claim (h : w.Holds rs) (r : Reference) {change : Page → Page}
    (hchange : (change w.page).LaidOut { Layout.initial with
      links := (earliest rs).filterMap stylesheet? ++ r.stylesheet?.toList
      library := (earliest rs).filterMap library? ++ r.library?.toList }) :
    (w.claim r.address change).Holds (rs ++ [r]) := by
  have hcontains : w.claimed.contains r.address = true ↔ r.address ∈ (earliest rs).map address := by
    rw [← h.claimed, Collection.contains, List.contains_iff_mem]
  unfold Workspace.claim
  by_cases hr : r.address ∈ (earliest rs).map address
  · have hearliest : earliest (rs ++ [r]) = earliest rs := by rw [earliest_concat, if_pos hr]
    rw [if_pos (hcontains.2 hr)]
    exact ⟨hearliest ▸ h.claimed, hearliest ▸ h.page⟩
  · have hearliest : earliest (rs ++ [r]) = earliest rs ++ [r] := by rw [earliest_concat, if_neg hr]
    rw [if_neg (fun hc => hr (hcontains.1 hc))]
    refine ⟨?_, ?_⟩
    · simp only [Collection.items_insert, h.claimed, if_neg hr, hearliest, List.map_append, List.map_cons, List.map_nil]
    · have hone : ∀ {β : Type} (f : Reference → Option β), [r].filterMap f = (f r).toList := by
        intro β f
        rw [List.filterMap_cons]
        cases f r <;> rfl
      rw [hearliest, List.filterMap_append, List.filterMap_append, hone, hone]
      exact hchange

theorem Holds.takeStylesheet (h : w.Holds rs) (href : Text) : (w.takeStylesheet href).Holds (rs ++ [.stylesheet href]) := by
  refine h.claim (.stylesheet href) ?_
  have hl := Page.appendStylesheet_laidOut h.page href
  rw [library?, Option.toList_none, List.append_nil]
  exact hl

theorem Holds.takeScript (h : w.Holds rs) (s : Script) : (w.takeScript s).Holds (rs ++ (s.source?.map Reference.library).toList) := by
  cases s with
  | external source =>
    refine h.claim (.library source) ?_
    have hl := Page.appendScript_laidOut h.page source
    rw [Layout.addScript_eq rfl] at hl
    rw [stylesheet?, Option.toList_none, List.append_nil]
    exact hl
  | inline content =>
    rw [Script.source?, Option.map_none, Option.toList_none, List.append_nil, Workspace.takeScript]
    split
    · exact h
    · exact h.of_eq rfl rfl

theorem Holds.takeStylesheets (h : w.Holds rs) (hrefs : List Text) :
    (hrefs.foldl Workspace.takeStylesheet w).Holds (rs ++ hrefs.map .stylesheet) := by
  induction hrefs generalizing rs w with
  | nil =>
    rw [List.map_nil, List.append_nil]
    exact h
  | cons href hrefs ih =>
    have hi := ih (h.takeStylesheet href)
    rw [List.append_assoc] at hi
    exact hi

theorem Holds.takeScripts (h : w.Holds rs) (ss : List Script) :
    (ss.foldl Workspace.takeScript w).Holds (rs ++ (ss.filterMap Script.source?).map .library) := by
  induction ss generalizing rs w with
  | nil =>
    rw [List.filterMap_nil, List.map_nil, List.append_nil]
    exact h
  | cons s ss ih =>
    have hi := ih (h.takeScript s)
    have hcons : ((s :: ss).filterMap Script.source?).map Reference.library =
        (s.source?.map Reference.library).toList ++ (ss.filterMap Script.source?).map Reference.library := by
      rw [List.filterMap_cons]
      cases s.source? <;> rfl
    rw [hcons, ← List.append_assoc]
    exact hi

/-- A fragment is taken in with all that it gives up, also if it cannot be hoisted. -/
theorem Holds.strip (h : w.Holds rs) (librariesOnly : Bool) (fragment : Text) :
    (w.strip librariesOnly fragment).1.Holds (rs ++ (Harvest.ofFragment librariesOnly fragment).references) := by
  have htake := (h.takeStylesheets (Harvest.ofFragment librariesOnly fragment).stylesheets).takeScripts
    (Harvest.ofFragment librariesOnly fragment).scripts
  rw [List.append_assoc] at htake
  rw [strip_eq]
  exact htake

theorem Holds.preloadAll (h : w.Holds rs) {fragments : List Text} (hw : w.preloadAll fragments = (w', none)) :
    w'.Holds (rs ++ fragments.flatMap fun t => (Harvest.ofFragment true t).references) := by
  induction fragments generalizing rs w with
  | nil =>
    obtain ⟨rfl, -⟩ := Prod.mk.inj hw
    rw [List.flatMap_nil, List.append_nil]
    exact h
  | cons fragment fragments ih =>
    obtain ⟨rest, w₁, hstrip, hrest⟩ := exists_strip_of_preloadAll hw
    have hone := h.strip true fragment
    rw [hstrip] at hone
    have hi := ih hone hrest
    rw [List.append_assoc] at hi
    rw [List.flatMap_cons]
    exact hi

/-- A call that returns has hoisted a fragment, or taken in the libraries of templates. -/
theorem perform_cases {c : HoistCall} (hw : c.perform w = .ok w') :
    (∃ librariesOnly fragment rest, c = .hoist librariesOnly fragment ∧ w.strip librariesOnly fragment = (w', .ok rest)) ∨
      ∃ models, c = .preload models ∧ w.preloadAll (templateTexts models) = (w', none) := by
  cases c with
  | hoist librariesOnly fragment =>
    left
    rw [HoistCall.perform] at hw
    cases hh : w.hoist librariesOnly fragment with
    | error failure => rw [hh] at hw; cases hw
    | ok r =>
      rw [hh] at hw
      obtain rfl := Except.ok.inj hw
      exact ⟨librariesOnly, fragment, r.1, rfl, strip_of_hoist hh⟩
  | preload models =>
    right
    rw [HoistCall.perform] at hw
    split at hw
    · rename_i w₁ hp
      obtain rfl := Except.ok.inj hw
      exact ⟨models, rfl, hp⟩
    · cases hw

/-- A call that returns has taken in all that it brings. -/
theorem Holds.perform (h : w.Holds rs) {c : HoistCall} (hw : c.perform w = .ok w') : w'.Holds (rs ++ c.brought) := by
  obtain ⟨librariesOnly, fragment, rest, rfl, hstrip⟩ | ⟨models, rfl, hpreload⟩ := perform_cases hw
  · have hone := h.strip librariesOnly fragment
    rw [hstrip] at hone
    rw [HoistCall.brought, HoistCall.fragments, HoistCall.librariesOnly, List.flatMap_cons, List.flatMap_nil, List.append_nil]
    exact hone
  · exact h.preloadAll hpreload

theorem Holds.performAll (h : w.Holds rs) {cs : List HoistCall} (hw : HoistCall.performAll cs w = .ok w') :
    w'.Holds (rs ++ cs.flatMap HoistCall.brought) := by
  induction cs generalizing rs w with
  | nil =>
    obtain rfl := Except.ok.inj hw
    rw [List.flatMap_nil, List.append_nil]
    exact h
  | cons c cs ih =>
    rw [HoistCall.performAll] at hw
    cases hc : c.perform w with
    | error failure => rw [hc] at hw; cases hw
    | ok w₁ =>
      rw [hc] at hw
      have hi := ih (h.perform hc) hw
      rw [List.append_assoc] at hi
      rw [List.flatMap_cons]
      exact hi

/-- A call that takes in libraries alone makes no script wait. -/
theorem perform_deferred {c : HoistCall} (hc : c.librariesOnly = true) (hw : c.perform w = .ok w') : w'.deferred = w.deferred := by
  obtain ⟨librariesOnly, fragment, rest, rfl, hstrip⟩ | ⟨models, rfl, hpreload⟩ := perform_cases hw
  · obtain rfl : librariesOnly = true := hc
    have hd := strip_librariesOnly_deferred fragment w
    rw [hstrip] at hd
    exact hd
  · have hd := (preloadAll_gains (templateTexts models) w).2
    rw [hpreload] at hd
    exact hd

/-- After calls on a page on which nothing has been shown, all of which return, the addresses claimed are those referred to, where no link to
a style sheet has content in the fragments; the style sheets in the head and the scripts in the region for libraries are those of the first
references, in their order, each script as the first reference to it has it. A call that takes in libraries alone makes no script wait. -/
theorem resources_in_order {calls : List HoistCall} {w : Workspace} (h : HoistCall.performAll calls blank = .ok w)
    (hlinks : ∀ c ∈ calls, ∀ t ∈ c.fragments, ∀ nodes, Page.fragment t = .ok nodes → BareLinks nodes) :
    w.claimed.items = (earliest (calls.flatMap HoistCall.references)).map address ∧
      w.page.links = ((earliest (calls.flatMap HoistCall.references)).filterMap stylesheet?).map Page.stylesheet ∧
      (w.page.byId? Page.libraryId).map Node.children =
        some (((earliest (calls.flatMap HoistCall.references)).filterMap library?).map Page.script) ∧
      ∀ c ∈ calls, c.librariesOnly = true → ∀ w₁ w₂ : Workspace, c.perform w₁ = .ok w₂ → w₂.deferred = w₁.deferred := by
  have hw := blank_holds.performAll h
  have hbrought : calls.flatMap HoistCall.brought = calls.flatMap HoistCall.references := by
    refine List.flatMap_congr fun c hc => ?_
    exact List.flatMap_congr fun t ht => references_ofFragment c.librariesOnly (hlinks c hc t ht)
  rw [List.nil_append, hbrought] at hw
  refine ⟨hw.claimed, ?_, ?_, ?_⟩
  · rw [Page.links_eq hw.page]
  · rw [Page.byId?_library hw.page rfl]
    rfl
  · intro c _ hc w₁ w₂ hc'
    exact perform_deferred hc hc'

/-- The libraries of a template are taken in, and then two fragments that refer to one of them again, in another way. -/
def referringAgain : List HoistCall :=
  [.preload [⟨none, none, [], [], [⟨[], "<script src=l defer></script><link rel=stylesheet href=s>", "<script>f()</script>"⟩], []⟩],
    .hoist false "<script src=l async></script><script src=m onload=\"g()\"></script>",
    .hoist true "<link rel=stylesheet href=s><link rel=stylesheet href=t><script src=s></script>"]

/-- The links in these fragments have no content. -/
theorem bareLinks_referringAgain : ∀ c ∈ referringAgain, ∀ t ∈ c.fragments, ∀ nodes, Page.fragment t = .ok nodes → BareLinks nodes := by
  have hall : (referringAgain.all fun c => c.fragments.all fun t => (Page.fragment t).toOption.all fun nodes => decide (BareLinks nodes)) =
      true := by decide +kernel
  intro c hc t ht nodes hf
  have hone := List.all_eq_true.1 (List.all_eq_true.1 hall c hc) t ht
  rw [hf] at hone
  exact of_decide_eq_true hone

/-- The script stays as it was first referred to, and the address of a style sheet is not loaded as a script. -/
theorem resources_in_order_again :
    ∃ w, HoistCall.performAll referringAgain blank = .ok w ∧ w.claimed.items = [("s" : Text), "l", "m", "t"] ∧
      w.page.links = [Page.stylesheet "s", Page.stylesheet "t"] ∧
      (w.page.byId? Page.libraryId).map Node.children =
        some [Page.script ⟨"l", true, false, []⟩, Page.script ⟨"m", false, false, "g()"⟩] := by
  have hreturns : (HoistCall.performAll referringAgain blank).toOption.isSome = true := by decide +kernel
  cases hw : HoistCall.performAll referringAgain blank with
  | error failure =>
    rw [hw] at hreturns
    cases hreturns
  | ok w =>
    obtain ⟨hclaimed, hlinks, hlibraries, -⟩ := resources_in_order hw bareLinks_referringAgain
    have hearliest : earliest (referringAgain.flatMap HoistCall.references) =
        [.stylesheet "s", .library ⟨"l", true, false, []⟩, .library ⟨"m", false, false, "g()"⟩, .stylesheet "t"] := by
      decide +kernel
    rw [hearliest] at hclaimed hlinks hlibraries
    exact ⟨w, rfl, hclaimed, hlinks, hlibraries⟩

end Workspace

end Flashcards
