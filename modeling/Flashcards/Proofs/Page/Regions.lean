import Mathlib.Data.List.DropRight
import Flashcards.Proofs.Page.Resources
import Flashcards.Proofs.Page.Scripts

/-!
# The regions of a page are independent

All regions of a page stand in one tree, and each change finds its region by a search of that tree from the start. The tree nevertheless
behaves as a record: after any changes it is the skeleton, each region filled from the changes of that region alone
(`Page.Change.layout`), no change fails, and what the other regions hold stays as it was (`Page.after_independent`).

The two regions for scripts come after the cards, so this holds as long as nothing that is shown in the place of the cards has an
element of the name of one of them (`Page.Change.Admitted`). The cards may use the other names of the skeleton.
-/

namespace Flashcards

open Text Markup Markup.Node

/-- Among nodes, an element of a name is among the first or among the others. -/
theorem Markup.Node.carry_append (id : Text) (ns ms : List Node) : carry id (ns ++ ms) = (carry id ns || carry id ms) := by
  rw [carry, preorderAll_append, List.any_append]
  rfl

namespace Page

/-! ## Changes -/

/-- A change that may be asked of a page. -/
inductive Change where
  | appendStylesheet (href : Text)
  | appendScript (source : ScriptSource)
  | runScript (content : Text)
  | resetScripts
  | setTitle (name : Text)
  | setControls (mode : Text)
  | showMessage (message : Text)
  | clearCards
  | appendCard (card : Node)

namespace Change

/-- The page after a change, and what went wrong with it. -/
def apply : Change → Page → Page × Option Failure
  | appendStylesheet href, p => (p.appendStylesheet href, none)
  | appendScript source, p => (p.appendScript source, none)
  | runScript content, p => (p.runScript content, none)
  | resetScripts, p => (p.resetScripts, none)
  | setTitle name, p => (p.setTitle name, none)
  | setControls mode, p => (p.setControls mode, none)
  | showMessage message, p => p.showMessage message
  | clearCards, p => (p.clearCards, none)
  | appendCard card, p => (p.appendCard card, none)

/-- The elements that a change looks for. -/
def sought : Change → List (Node → Bool)
  | appendStylesheet _ => [isNamed "head"]
  | appendScript _ => [hasId libraryId]
  | runScript _ | resetScripts => [hasId deferredId]
  | setTitle _ => [hasId titleId, isNamed "title"]
  | setControls _ => [hasId controlsId, hasId modeId]
  | showMessage _ | clearCards | appendCard _ => [hasId cardsId]

/-- A change succeeds: the elements that it looks for are there, and nothing goes wrong. -/
structure Succeeds (c : Change) (p : Page) : Prop where
  found : ∀ wanted ∈ c.sought, (p.find? wanted).isSome
  accepted : (c.apply p).2 = none

/-- The nodes that a change shows in the place of the cards. -/
def brings : Change → Except Failure (List Node)
  | showMessage message => fragment message
  | appendCard card => .ok [card]
  | _ => .ok []

end Change

/-- Nodes leave the regions for scripts to the page: none of their elements has the name of one. -/
def LeaveScripts (nodes : List Node) : Prop := carry libraryId nodes = false ∧ carry deferredId nodes = false

/-- What a change shows is not rejected, and leaves the regions for scripts to the page. -/
def Change.Admitted (c : Change) : Prop := ∃ nodes, c.brings = .ok nodes ∧ LeaveScripts nodes

/-- A page on which nothing has been shown, after changes. -/
def after (cs : List Change) : Page := cs.foldl (fun p c => (c.apply p).1) blank

/-! ## Regions -/

/-- The regions of a page. -/
inductive Region where
  | title
  | controls
  | stylesheets
  | cards
  | libraries
  | scripts
  deriving DecidableEq

/-- What a page holds in a region. The title stands in two places, and the mode is within the controls. -/
def Region.content : Region → Page → List Node
  | title, p => (p.find? (isNamed "title")).toList ++ (p.byId? titleId).toList
  | controls, p => (p.byId? controlsId).toList
  | stylesheets, p => p.links
  | cards, p => (p.byId? cardsId).toList
  | libraries, p => (p.byId? libraryId).toList
  | scripts, p => (p.byId? deferredId).toList

namespace Change

/-- The region that a change is for. -/
def region : Change → Region
  | appendStylesheet _ => .stylesheets
  | appendScript _ => .libraries
  | runScript _ | resetScripts => .scripts
  | setTitle _ => .title
  | setControls _ => .controls
  | showMessage _ | clearCards | appendCard _ => .cards

/-! ## What changes leave in their regions -/

/-- The title that a change sets. -/
def title? : Change → Option Text
  | setTitle name => some name
  | _ => none

/-- The mode that a change sets. -/
def mode? : Change → Option Text
  | setControls mode => some mode
  | _ => none

/-- The style sheet that a change appends. -/
def stylesheet? : Change → Option Text
  | appendStylesheet href => some href
  | _ => none

/-- The script of a library that a change appends. -/
def library? : Change → Option ScriptSource
  | appendScript source => some source
  | _ => none

/-- The script that a change runs. -/
def script? : Change → Option Text
  | runScript content => some content
  | _ => none

/-- Whether a change resets the scripts. -/
def resets : Change → Bool
  | Change.resetScripts => true
  | _ => false

/-- The nodes that a change puts in the place of all cards. -/
def shown? : Change → Option (List Node)
  | showMessage message => some ((fragment message).toOption.getD [])
  | clearCards => some []
  | _ => none

/-- The card that a change appends. -/
def card? : Change → Option Node
  | appendCard card => some card
  | _ => none

/-- The regions after changes, each filled from its own: the last title and the last mode, all style sheets and libraries, what has been
shown last in the place of the cards with the cards appended since, and the scripts run since the last reset. -/
def layout (cs : List Change) : Layout where
  deck := (cs.filterMap title?).getLast?
  mode := (cs.filterMap mode?).getLast?
  links := cs.filterMap stylesheet?
  cards := (cs.filterMap shown?).getLast?.getD [] ++ (cs.rtakeWhile fun c => c.shown?.isNone).filterMap card?
  library := cs.filterMap library?
  deferred := (cs.rtakeWhile fun c => !c.resets).filterMap script?

/-- A layout with the region of a change filled as the change says. -/
def fill : Change → Layout → Layout
  | appendStylesheet href, l => { l with links := l.links ++ [href] }
  | appendScript source, l => { l with library := l.library ++ [source] }
  | runScript content, l => { l with deferred := l.deferred ++ [content] }
  | resetScripts, l => { l with deferred := [] }
  | setTitle name, l => { l with deck := some name }
  | setControls mode, l => { l with mode := some mode }
  | showMessage message, l => { l with cards := (fragment message).toOption.getD [] }
  | clearCards, l => { l with cards := [] }
  | appendCard card, l => { l with cards := l.cards ++ [card] }

/-- One more change fills one region. -/
theorem layout_concat (cs : List Change) (c : Change) : layout (cs ++ [c]) = c.fill (layout cs) := by
  unfold layout
  simp only [List.filterMap_append]
  cases c <;>
    simp [fill, title?, mode?, stylesheet?, library?, script?, resets, shown?, card?]

end Change

/-! ## One change -/

/-- A page is filled as a layout says, remembers the scripts that stand in their region, and has cards that leave it alone. -/
structure Filled (l : Layout) (p : Page) : Prop where
  laidOut : p.LaidOut l
  executed : p.executed = l.deferred
  cards : LeaveScripts l.cards

variable {l : Layout} {p : Page} {c : Change}

theorem blank_filled : blank.Filled Layout.initial := ⟨blank_laidOut, rfl, rfl, rfl⟩

/-- A change that is admitted fills its region, and nothing goes wrong. -/
theorem Filled.apply (h : p.Filled l) (hc : c.Admitted) : (c.apply p).1.Filled (c.fill l) ∧ (c.apply p).2 = none := by
  obtain ⟨nodes, hb, hlib, hdef⟩ := hc
  obtain ⟨hl, he, hcl, hcd⟩ := h
  cases c with
  | appendStylesheet href => exact ⟨⟨appendStylesheet_laidOut hl href, he, hcl, hcd⟩, rfl⟩
  | appendScript source =>
    have hs := appendScript_laidOut hl source
    rw [Layout.addScript_eq hcl] at hs
    exact ⟨⟨hs, he, hcl, hcd⟩, rfl⟩
  | runScript content =>
    have hs := runScript_laidOut hl content
    rw [Layout.run_eq hcd] at hs
    exact ⟨⟨hs, congrArg (· ++ [content]) he, hcl, hcd⟩, rfl⟩
  | resetScripts =>
    have hs := resetScripts_laidOut hl
    rw [Layout.reset_eq hcd] at hs
    exact ⟨⟨hs, rfl, hcl, hcd⟩, rfl⟩
  | setTitle name => exact ⟨⟨setTitle_laidOut hl name, he, hcl, hcd⟩, rfl⟩
  | setControls mode => exact ⟨⟨setControls_laidOut hl mode, he, hcl, hcd⟩, rfl⟩
  | showMessage message =>
    simp only [Change.brings] at hb
    simp only [Change.apply, Page.showMessage, Change.fill, hb]
    exact ⟨⟨showNodes_laidOut hl nodes, he, hlib, hdef⟩, trivial⟩
  | clearCards => exact ⟨⟨clearCards_laidOut hl, he, rfl, rfl⟩, rfl⟩
  | appendCard card =>
    obtain rfl := Except.ok.inj hb
    refine ⟨⟨appendCard_laidOut hl card, he, ?_, ?_⟩, rfl⟩
    · simp only [Change.fill, carry_append, hcl, hlib, Bool.or_self]
    · simp only [Change.fill, carry_append, hcd, hdef, Bool.or_self]

/-- What a change looks for is there on every page that has a layout. -/
theorem isSome_sought (h : p.LaidOut l) (c : Change) : ∀ wanted ∈ c.sought, (p.find? wanted).isSome := by
  have hid := isSome_byId? h
  simp only [List.forall_mem_cons, List.not_mem_nil, false_imp_iff, implies_true, and_true] at hid
  obtain ⟨htitle, hcontrols, hmode, hcards, hlibrary, hdeferred⟩ := hid
  have hhead : (p.find? (isNamed "head")).isSome := by
    rw [find?, show p.nodes = skeleton l.regions from h]
    rfl
  have hpageTitle : (p.find? (isNamed "title")).isSome := by
    rw [find?_pageTitle h]
    rfl
  cases c <;>
    simp only [Change.sought, List.forall_mem_cons, List.not_mem_nil, false_imp_iff, implies_true, and_true]
  case appendStylesheet => exact hhead
  case appendScript => exact hlibrary
  case runScript | resetScripts => exact hdeferred
  case setTitle => exact ⟨htitle, hpageTitle⟩
  case setControls => exact ⟨hcontrols, hmode⟩
  case showMessage | clearCards | appendCard => exact hcards

/-! ## What is found in a region -/

/-- What stands in a region for a layout. -/
def Region.filled : Region → Layout → List Node
  | title, l => [element "title" [] [plain l.regions.pageTitle], element "h1" [("id", titleId)] l.regions.title]
  | controls, l =>
    [element "div" [("id", controlsId), ("style", l.regions.controls)]
      [plain "Render mode: ", element "span" [("id", modeId)] l.regions.mode]]
  | stylesheets, l => l.regions.links
  | cards, l => [element "div" [("id", cardsId)] l.regions.cards]
  | libraries, l => [element "div" [("id", libraryId)] l.regions.library]
  | scripts, l => [element "div" [("id", deferredId)] l.regions.deferred]

/-- What is found in a region is what the layout says. -/
theorem Filled.content (h : p.Filled l) (r : Region) : r.content p = r.filled l := by
  cases r with
  | title =>
    rw [Region.content, find?_pageTitle h.laidOut, byId?_title h.laidOut]
    rfl
  | controls =>
    rw [Region.content, byId?_controls h.laidOut]
    rfl
  | stylesheets => exact links_eq h.laidOut
  | cards =>
    rw [Region.content, byId?_cards h.laidOut]
    rfl
  | libraries =>
    rw [Region.content, byId?_library h.laidOut h.cards.1]
    rfl
  | scripts =>
    rw [Region.content, byId?_deferred h.laidOut h.cards.2]
    rfl

/-- Filling the region of a change leaves every other region. -/
theorem Region.filled_fill {r : Region} (l : Layout) (hr : r ≠ c.region) : r.filled (c.fill l) = r.filled l := by
  cases c <;> cases r <;> first | rfl | exact absurd rfl hr

/-! ## All changes -/

theorem after_concat (cs : List Change) (c : Change) : after (cs ++ [c]) = (c.apply (after cs)).1 := by
  rw [after, List.foldl_append]
  rfl

/-- After changes that are admitted, a page is filled with what each region has from its own changes. -/
theorem after_filled {cs : List Change} (h : ∀ c ∈ cs, c.Admitted) : (after cs).Filled (Change.layout cs) := by
  induction cs using List.reverseRecOn with
  | nil => exact blank_filled
  | append_singleton cs c ih =>
    have hcs := ih fun d hd => h d (List.mem_append_left [c] hd)
    have hc := h c (List.mem_append_right cs List.mem_cons_self)
    rw [after_concat, Change.layout_concat]
    exact (hcs.apply hc).1

/-- A page is a record of independent regions. After changes that are admitted it is the skeleton, each region filled from its own
changes, and it remembers the scripts run since the last reset; each of the changes has succeeded, and has left what stood in every
region but its own, and the scripts remembered unless it is for them. -/
theorem after_independent {cs : List Change} (h : ∀ c ∈ cs, c.Admitted) :
    (after cs).nodes = skeleton (Change.layout cs).regions ∧
      (after cs).executed = (Change.layout cs).deferred ∧
      ∀ before c, before ++ [c] <+: cs →
        c.Succeeds (after before) ∧
          (∀ r, r ≠ c.region → r.content (after (before ++ [c])) = r.content (after before)) ∧
          (c.region ≠ .scripts → (after (before ++ [c])).executed = (after before).executed) := by
  have hcs := after_filled h
  refine ⟨hcs.laidOut, hcs.executed, fun before c hpre => ?_⟩
  have hall : ∀ d ∈ before ++ [c], d.Admitted := fun d hd => h d (hpre.subset hd)
  have hbefore := after_filled fun d hd => hall d (List.mem_append_left [c] hd)
  have hc := hall c (List.mem_append_right before List.mem_cons_self)
  obtain ⟨hafter, haccepted⟩ := hbefore.apply hc
  refine ⟨⟨isSome_sought hbefore.laidOut c, haccepted⟩, fun r hr => ?_, fun hr => ?_⟩
  · rw [after_concat, hafter.content, hbefore.content, Region.filled_fill _ hr]
  · rw [after_concat, hafter.executed, hbefore.executed]
    cases c <;> first | rfl | exact absurd rfl hr

/-- Changes with a message and a card that have names of the skeleton, after which the scripts are reset. -/
def reusingNames : List Change :=
  [.setTitle "a", .appendStylesheet "s", .appendScript ⟨"l", true, false, []⟩, .runScript "f()",
    .showMessage "<p id=\"cards-container\">", .appendCard (element "div" [("id", titleId)] []), .resetScripts, .setTitle "b",
    .runScript "g()", .setControls "raw"]

/-- The last title stands in the page's own heading, the card after the message, and the script that was run last by itself. -/
theorem after_reusingNames :
    (∀ c ∈ reusingNames, c.Admitted) ∧
      (after reusingNames).nodes =
        skeleton (Layout.mk (some "b") (some "raw") ["s"]
          [element "p" [("id", cardsId)] [], element "div" [("id", titleId)] []] [⟨"l", true, false, []⟩] ["g()"]).regions ∧
      (after reusingNames).executed = ["g()"] := by
  have hfragment : fragment "<p id=\"cards-container\">" = .ok [element "p" [("id", cardsId)] []] := by
    have h : (fragment "<p id=\"cards-container\">").toOption = some [element "p" [("id", cardsId)] []] := by decide +kernel
    cases hf : fragment "<p id=\"cards-container\">" <;> simp_all [Except.toOption]
  have hadmitted : ∀ c ∈ reusingNames, c.Admitted := by
    simp only [reusingNames, List.forall_mem_cons, List.not_mem_nil, false_imp_iff, implies_true, and_true]
    refine ⟨⟨_, rfl, rfl, rfl⟩, ⟨_, rfl, rfl, rfl⟩, ⟨_, rfl, rfl, rfl⟩, ⟨_, rfl, rfl, rfl⟩, ⟨_, hfragment, by decide, by decide⟩,
      ⟨_, rfl, by decide, by decide⟩, ⟨_, rfl, rfl, rfl⟩, ⟨_, rfl, rfl, rfl⟩, ⟨_, rfl, rfl, rfl⟩, ⟨_, rfl, rfl, rfl⟩⟩
  obtain ⟨hnodes, hexecuted, -⟩ := after_independent hadmitted
  have hlayout : Change.layout reusingNames =
      Layout.mk (some "b") (some "raw") ["s"] [element "p" [("id", cardsId)] [], element "div" [("id", titleId)] []]
        [⟨"l", true, false, []⟩] ["g()"] := by
    unfold Change.layout reusingNames
    simp only [List.filterMap_cons, Change.shown?, hfragment]
    rfl
  rw [hlayout] at hnodes hexecuted
  exact ⟨hadmitted, hnodes, hexecuted⟩

end Page

end Flashcards
