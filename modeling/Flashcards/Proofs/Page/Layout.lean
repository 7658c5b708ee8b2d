import Flashcards.Proofs.Markup.Search
import Flashcards.Page.Basic

/-!
# The layout of the page

A page is a skeleton whose regions are filled. `Layout` says what they are filled with: the last title and the last mode, if any have
been set, the style sheets and libraries taken in, the scripts that stand in their own region, and the nodes in the container of the
cards. `Page.LaidOut` says that a page has a layout. It has only one, since its tree tells what the regions hold (`Page.LaidOut.unique`).

Every change of a page is a change of its layout. Only two of them depend on what the cards hold: a script goes to the first element
of the region's name, and the cards come before both regions for scripts (`Layout.addScript`, `Layout.run`, `Layout.reset`).
-/

namespace Flashcards

open Text Markup Markup.Node

/-- What the regions of a page are filled with. -/
structure Layout where
  /-- The title, if one has been set. -/
  deck : Option Text
  /-- The name of the render mode, if the controls are shown. -/
  mode : Option Text
  links : List Text
  cards : List Node
  library : List Page.ScriptSource
  /-- The scripts in the region for those that a deck brings. -/
  deferred : List Text
  deriving DecidableEq

/-- Whether an element of a name stands among nodes or in them. -/
def Markup.Node.carry (id : Text) (nodes : List Node) : Bool := (preorderAll nodes).any (hasId id)

namespace Layout

/-- The regions of a layout. -/
def regions (l : Layout) : Page.Regions where
  pageTitle := l.deck.getD Chrome.title
  title := l.deck.toList.map Page.plain
  controls := if l.mode.isSome then "display:block" else "display:none"
  mode := l.mode.toList.map Page.plain
  links := l.links.map Page.stylesheet
  cards := l.cards
  library := l.library.map Page.script
  deferred := l.deferred.map Page.inlineScript

/-- The layout of a page on which nothing has been shown. -/
def initial : Layout := ⟨none, none, [], [], [], []⟩

/-- The layout with the script of a library: it goes into the cards if one of them has an element of the region's name. -/
def addScript (s : Page.ScriptSource) (l : Layout) : Layout :=
  match updateFirstAmong? (hasId Page.libraryId) (appendChild (Page.script s)) l.cards with
  | some cards => { l with cards := cards }
  | none => { l with library := l.library ++ [s] }

/-- The layout with a script of the deck: it goes into the cards if one of them has an element of the region's name. -/
def run (content : Text) (l : Layout) : Layout :=
  match updateFirstAmong? (hasId Page.deferredId) (appendChild (Page.inlineScript content)) l.cards with
  | some cards => { l with cards := cards }
  | none => { l with deferred := l.deferred ++ [content] }

/-- The layout with the region for the scripts of the deck emptied, or the element of its name in the cards. -/
def reset (l : Layout) : Layout :=
  match updateFirstAmong? (hasId Page.deferredId) (withChildren []) l.cards with
  | some cards => { l with cards := cards }
  | none => { l with deferred := [] }

section OwnRegions

variable {l : Layout}

/-- Where the cards have no element of the name of the region, a library stands there. -/
theorem addScript_eq (h : carry Page.libraryId l.cards = false) (s : Page.ScriptSource) :
    l.addScript s = { l with library := l.library ++ [s] } := by
  rw [addScript, updateFirstAmong?_eq_none h]

/-- Where the cards have no element of the name of the region, a script that is run stands there. -/
theorem run_eq (h : carry Page.deferredId l.cards = false) (content : Text) :
    l.run content = { l with deferred := l.deferred ++ [content] } := by
  rw [run, updateFirstAmong?_eq_none h]

/-- Where the cards have no element of the name of the region, resetting scripts empties it. -/
theorem reset_eq (h : carry Page.deferredId l.cards = false) : l.reset = { l with deferred := [] } := by
  rw [reset, updateFirstAmong?_eq_none h]

end OwnRegions

end Layout

namespace Page

/-- A page has a layout. -/
def LaidOut (l : Layout) (p : Page) : Prop := p.nodes = skeleton l.regions

/-! ## Names of elements -/

/-- The attributes of a script at an address do not name it. -/
theorem hasId_script (id : Text) (s : ScriptSource) : hasId id (script s) = false := by
  obtain ⟨address, deferred, async, onLoad⟩ := s
  cases deferred <;> cases async <;> cases h : nonEmpty onLoad <;> simp [script, attributeIf, h] <;> rfl

section Search

variable {id : Text} {f : Node → Node}

theorem updateFirst?_plain (t : Text) : updateFirst? (hasId id) f (plain t) = none := rfl

/-- Past an element without attributes, the change happens within it. -/
theorem updateFirst?_nameless (name : Text) (cs : List Node) :
    updateFirst? (hasId id) f (element name [] cs) = (updateFirstAmong? (hasId id) f cs).map (element name [] ·) := by rfl

/-- Past an element of another name, the change happens within it. -/
theorem updateFirst?_of_ne {name value : Text} {as : List (Text × Text)} {cs : List Node} (h : (value == id) = false) :
    updateFirst? (hasId id) f (element name (("id", value) :: as) cs) =
      (updateFirstAmong? (hasId id) f cs).map (element name (("id", value) :: as) ·) := by
  rw [element, updateFirst?, if_neg]
  · rfl
  · exact fun hid => Bool.false_ne_true (h.symm.trans hid)

/-- The element of the name is the one that is changed. -/
theorem updateFirst?_of_eq {name value : Text} {as : List (Text × Text)} {cs : List Node} (h : (value == id) = true) :
    updateFirst? (hasId id) f (element name (("id", value) :: as) cs) =
      some (f (element name (("id", value) :: as) cs)) := by
  rw [element, updateFirst?, if_pos]
  exact h

/-- Nothing is changed among nodes of which none is, or holds, an element of the name. -/
theorem updateFirstAmong?_map {α : Type} {g : α → Node} (xs : List α)
    (h : ∀ x, updateFirst? (hasId id) f (g x) = none) : updateFirstAmong? (hasId id) f (xs.map g) = none := by
  induction xs with
  | nil => rfl
  | cons x xs ih => simp only [List.map_cons, updateFirstAmong?, h, ih, Option.map_none]

theorem updateFirstAmong?_title (l : Layout) : updateFirstAmong? (hasId id) f l.regions.title = none :=
  updateFirstAmong?_map _ fun _ => rfl

theorem updateFirstAmong?_mode (l : Layout) : updateFirstAmong? (hasId id) f l.regions.mode = none :=
  updateFirstAmong?_map _ fun _ => rfl

theorem updateFirstAmong?_links (l : Layout) : updateFirstAmong? (hasId id) f l.regions.links = none :=
  updateFirstAmong?_map _ fun _ => rfl

theorem updateFirstAmong?_library (l : Layout) : updateFirstAmong? (hasId id) f l.regions.library = none := by
  refine updateFirstAmong?_map _ fun s => ?_
  have h := hasId_script id s
  rw [script, element] at h ⊢
  rw [updateFirst?, if_neg (by rw [h]; exact Bool.false_ne_true)]
  rfl

end Search

/-! ## Regions and the changes in them -/

/-- The body of a page with the elements of its regions. -/
def bodyWith (heading controls cards library deferred : Node) : Node :=
  element "body" []
    [newline, heading, newline, controls, newline, cards, newline, library, newline, deferred, newline,
      element "script" [("id", "viewer-flip")] [plain Chrome.flipScript], newline]

theorem bodyOf_eq (r : Regions) :
    bodyOf r =
      bodyWith (element "h1" [("id", titleId)] r.title)
        (element "div" [("id", controlsId), ("style", r.controls)]
          [plain "Render mode: ", element "span" [("id", modeId)] r.mode])
        (element "div" [("id", cardsId)] r.cards) (element "div" [("id", libraryId)] r.library)
        (element "div" [("id", deferredId)] r.deferred) := rfl

/-- A change in the body happens in the first region where it can. -/
theorem updateFirst?_bodyWith {id : Text} {f : Node → Node} (a b c d e : Node) (h : (("viewer-flip" : Text) == id) = false) :
    updateFirst? (hasId id) f (bodyWith a b c d e) =
      ((updateFirst? (hasId id) f a).map (bodyWith · b c d e)).or
        (((updateFirst? (hasId id) f b).map (bodyWith a · c d e)).or
          (((updateFirst? (hasId id) f c).map (bodyWith a b · d e)).or
            (((updateFirst? (hasId id) f d).map (bodyWith a b c · e)).or
              ((updateFirst? (hasId id) f e).map (bodyWith a b c d ·))))) := by
  simp only [bodyWith, updateFirst?_nameless, newline, updateFirstAmong?, updateFirst?_plain, updateFirst?_of_ne h]
  cases updateFirst? (hasId id) f a <;> cases updateFirst? (hasId id) f b <;> cases updateFirst? (hasId id) f c <;>
    cases updateFirst? (hasId id) f d <;> cases updateFirst? (hasId id) f e <;> rfl

/-- The head holds no element of a name, apart from the style sheet of the page. -/
theorem updateFirst?_headOf {id : Text} {f : Node → Node} (l : Layout) (h : (("viewer-style" : Text) == id) = false) :
    updateFirst? (hasId id) f (headOf l.regions) = none := by
  have hm : updateFirst? (hasId id) f (element "meta" [("charset", "utf-8")] []) = none := rfl
  simp only [headOf, updateFirst?_nameless, List.cons_append, List.nil_append, newline, updateFirstAmong?, updateFirst?_plain,
    hm, updateFirst?_of_ne h, updateFirstAmong?_links, Option.map_none]

/-- A change at the first element of a name that happens in the body. -/
theorem nodes_updateById {id : Text} {f : Node → Node} {p : Page} {q r : Regions} (hp : p.nodes = skeleton q)
    (hh : updateFirst? (hasId id) f (headOf q) = none) (hr : headOf q = headOf r)
    (hb : updateFirst? (hasId id) f (bodyOf q) = some (bodyOf r)) : (p.updateById id f).nodes = skeleton r := by
  have hd : updateFirst? (hasId id) f (.text .doctype "html") = none := rfl
  rw [updateById, update, hp]
  simp only [skeleton, updateFirstAmong?, hd, newline, updateFirst?_nameless, updateFirst?_plain, hh, hb, Option.map_some,
    Option.getD_some]
  rw [hr]

section Regions

variable {l : Layout} {p : Page} {f : Node → Node}

/-- The controls hold no element of a name that is neither theirs nor that of the mode. -/
theorem updateFirst?_controls {id : Text} (h : (controlsId == id) = false) (hm : (modeId == id) = false) :
    updateFirst? (hasId id) f (element "div" [("id", controlsId), ("style", l.regions.controls)]
      [plain "Render mode: ", element "span" [("id", modeId)] l.regions.mode]) = none := by
  rw [updateFirst?_of_ne h, updateFirstAmong?, updateFirst?_plain, updateFirstAmong?, updateFirst?_of_ne hm,
    updateFirstAmong?_mode]
  rfl

/-- The change of the heading. -/
theorem nodes_updateById_title (h : p.LaidOut l) {c : List Node}
    (hf : f (element "h1" [("id", titleId)] l.regions.title) = element "h1" [("id", titleId)] c) :
    (p.updateById titleId f).nodes = skeleton { l.regions with title := c } := by
  refine nodes_updateById h (updateFirst?_headOf l (by decide)) rfl ?_
  rw [bodyOf_eq, updateFirst?_bodyWith _ _ _ _ _ (by decide), updateFirst?_of_eq (by decide), hf]
  rfl

/-- The change of the controls. -/
theorem nodes_updateById_controls (h : p.LaidOut l) {v : Text}
    (hf : ∀ t cs, f (element "div" [("id", controlsId), ("style", t)] cs) =
      element "div" [("id", controlsId), ("style", v)] cs) :
    (p.updateById controlsId f).nodes = skeleton { l.regions with controls := v } := by
  refine nodes_updateById h (updateFirst?_headOf l (by decide)) rfl ?_
  rw [bodyOf_eq, updateFirst?_bodyWith _ _ _ _ _ (by decide), updateFirst?_of_ne (by decide), updateFirstAmong?_title,
    updateFirst?_of_eq (by decide), hf]
  rfl

/-- The change of the place for the mode, whatever the style of the controls. -/
theorem nodes_updateById_mode {v : Text} (h : p.nodes = skeleton { l.regions with controls := v }) {c : List Node}
    (hf : f (element "span" [("id", modeId)] l.regions.mode) = element "span" [("id", modeId)] c) :
    (p.updateById modeId f).nodes = skeleton { l.regions with controls := v, mode := c } := by
  refine nodes_updateById h (updateFirst?_headOf l (by decide)) rfl ?_
  rw [bodyOf_eq, updateFirst?_bodyWith _ _ _ _ _ (by decide), updateFirst?_of_ne (by decide), updateFirstAmong?_title,
    updateFirst?_of_ne (by decide), updateFirstAmong?, updateFirst?_plain, updateFirstAmong?, updateFirst?_of_eq (by decide), hf]
  rfl

/-- The change of the container of the cards. -/
theorem nodes_updateById_cards (h : p.LaidOut l) {c : List Node}
    (hf : f (element "div" [("id", cardsId)] l.cards) = element "div" [("id", cardsId)] c) :
    (p.updateById cardsId f).nodes = skeleton { l.regions with cards := c } := by
  refine nodes_updateById h (updateFirst?_headOf l (by decide)) rfl ?_
  have hc : l.regions.cards = l.cards := rfl
  rw [bodyOf_eq, updateFirst?_bodyWith _ _ _ _ _ (by decide), updateFirst?_of_ne (by decide), updateFirstAmong?_title,
    updateFirst?_controls (by decide) (by decide), updateFirst?_of_eq (by decide), hc, hf]
  rfl

/-- The change at the name of a region for scripts, where the cards have an element of that name. -/
theorem nodes_updateById_inCards {id : Text} (h : p.LaidOut l) (hid : id = libraryId ∨ id = deferredId) {c : List Node}
    (hf : updateFirstAmong? (hasId id) f l.cards = some c) :
    (p.updateById id f).nodes = skeleton { l.regions with cards := c } := by
  have hne : ∀ v ∈ [("viewer-style" : Text), "viewer-flip", titleId, controlsId, modeId, cardsId], (v == id) = false := by
    rcases hid with rfl | rfl <;> decide
  simp only [List.forall_mem_cons, List.not_mem_nil, false_imp_iff, implies_true, and_true] at hne
  obtain ⟨hs, hv, ht, hc, hm, hk⟩ := hne
  refine nodes_updateById h (updateFirst?_headOf l hs) rfl ?_
  have hcards : l.regions.cards = l.cards := rfl
  rw [bodyOf_eq, updateFirst?_bodyWith _ _ _ _ _ hv, updateFirst?_of_ne ht, updateFirstAmong?_title,
    updateFirst?_controls hc hm, updateFirst?_of_ne hk, hcards, hf]
  rfl

/-- The change of the region for the scripts of libraries, where the cards have no element of its name. -/
theorem nodes_updateById_library (h : p.LaidOut l) (hn : updateFirstAmong? (hasId libraryId) f l.cards = none) {c : List Node}
    (hf : f (element "div" [("id", libraryId)] l.regions.library) = element "div" [("id", libraryId)] c) :
    (p.updateById libraryId f).nodes = skeleton { l.regions with library := c } := by
  refine nodes_updateById h (updateFirst?_headOf l (by decide)) rfl ?_
  have hc : l.regions.cards = l.cards := rfl
  rw [bodyOf_eq, updateFirst?_bodyWith _ _ _ _ _ (by decide), updateFirst?_of_ne (by decide), updateFirstAmong?_title,
    updateFirst?_controls (by decide) (by decide), updateFirst?_of_ne (by decide), hc, hn, updateFirst?_of_eq (by decide), hf]
  rfl

/-- The change of the region for the scripts of the deck, where the cards have no element of its name. -/
theorem nodes_updateById_deferred (h : p.LaidOut l) (hn : updateFirstAmong? (hasId deferredId) f l.cards = none) {c : List Node}
    (hf : f (element "div" [("id", deferredId)] l.regions.deferred) = element "div" [("id", deferredId)] c) :
    (p.updateById deferredId f).nodes = skeleton { l.regions with deferred := c } := by
  refine nodes_updateById h (updateFirst?_headOf l (by decide)) rfl ?_
  have hc : l.regions.cards = l.cards := rfl
  rw [bodyOf_eq, updateFirst?_bodyWith _ _ _ _ _ (by decide), updateFirst?_of_ne (by decide), updateFirstAmong?_title,
    updateFirst?_controls (by decide) (by decide), updateFirst?_of_ne (by decide), hc, hn, updateFirst?_of_ne (by decide),
    updateFirstAmong?_library, updateFirst?_of_eq (by decide), hf]
  rfl

end Regions

/-! ## What the operations do to the layout -/

section Operations

variable {l : Layout} {p : Page}

theorem blank_laidOut : blank.LaidOut Layout.initial := rfl

theorem setTitle_laidOut (h : p.LaidOut l) (name : Text) : (p.setTitle name).LaidOut { l with deck := some name } := by
  have ht := nodes_updateById_title (c := [plain name]) (f := withChildren [plain name]) h rfl
  rw [LaidOut, setTitle, update, ht]
  rfl

theorem setControls_laidOut (h : p.LaidOut l) (mode : Text) : (p.setControls mode).LaidOut { l with mode := some mode } := by
  have hc := nodes_updateById_controls (v := "display:block")
    (f := setAttribute "style" (.text "display:block")) h fun _ _ => rfl
  exact nodes_updateById_mode (f := withChildren [plain mode]) hc rfl

theorem clearCards_laidOut (h : p.LaidOut l) : p.clearCards.LaidOut { l with cards := [] } :=
  nodes_updateById_cards h rfl

theorem showNodes_laidOut (h : p.LaidOut l) (ns : List Node) : (p.showNodes ns).LaidOut { l with cards := ns } :=
  nodes_updateById_cards h rfl

theorem appendCard_laidOut (h : p.LaidOut l) (card : Node) :
    (p.appendCard card).LaidOut { l with cards := l.cards ++ [card] } :=
  nodes_updateById_cards h rfl

theorem appendStylesheet_laidOut (h : p.LaidOut l) (href : Text) :
    (p.appendStylesheet href).LaidOut { l with links := l.links ++ [href] } := by
  have hl : ({ l with links := l.links ++ [href] } : Layout).regions.links = l.regions.links ++ [stylesheet href] := by
    rw [Layout.regions, Layout.regions, List.map_append]
    rfl
  rw [LaidOut, appendStylesheet, update, show p.nodes = skeleton l.regions from h]
  simp only [skeleton, headOf, hl, ← List.append_assoc]
  rfl

theorem appendScript_laidOut (h : p.LaidOut l) (s : ScriptSource) : (p.appendScript s).LaidOut (l.addScript s) := by
  rw [Layout.addScript]
  split
  · rename_i cards hc
    exact nodes_updateById_inCards h (Or.inl rfl) hc
  · rename_i hc
    refine (nodes_updateById_library h hc (c := (l.library ++ [s]).map script) ?_)
    rw [List.map_append]
    rfl

theorem runScript_laidOut (h : p.LaidOut l) (content : Text) : (p.runScript content).LaidOut (l.run content) := by
  rw [Layout.run]
  split
  · rename_i cards hc
    exact nodes_updateById_inCards h (Or.inr rfl) hc
  · rename_i hc
    refine (nodes_updateById_deferred h hc (c := (l.deferred ++ [content]).map inlineScript) ?_)
    rw [List.map_append]
    rfl

theorem resetScripts_laidOut (h : p.LaidOut l) : p.resetScripts.LaidOut l.reset := by
  rw [Layout.reset]
  split
  · rename_i cards hc
    exact nodes_updateById_inCards h (Or.inr rfl) hc
  · rename_i hc
    exact nodes_updateById_deferred h hc rfl

end Operations

/-! ## Looking regions up -/

section Lookup

variable {l : Layout} {p : Page} {id : Text}

/-- Among nodes, the first in document order is in the first node that has one. -/
theorem find?_cons (n : Node) (ns : List Node) :
    (preorderAll (n :: ns)).find? (hasId id) =
      ((preorder n).find? (hasId id)).or ((preorderAll ns).find? (hasId id)) := by
  rw [preorderAll, List.find?_append]

/-- What is not changed in a node is not found in it. -/
theorem find?_eq_none {n : Node} (h : updateFirst? (hasId id) (fun n => n) n = none) :
    (preorder n).find? (hasId id) = none := by
  rw [List.find?_eq_none]
  intro m hm
  rw [(updateFirst?_eq_none_iff _ _ n).1 h m hm]
  exact Bool.false_ne_true

theorem find?_nameless (name : Text) (cs : List Node) :
    (preorder (element name [] cs)).find? (hasId id) = (preorderAll cs).find? (hasId id) := by rfl

theorem find?_of_ne {name value : Text} {as : List (Text × Text)} {cs : List Node} (h : (value == id) = false) :
    (preorder (element name (("id", value) :: as) cs)).find? (hasId id) = (preorderAll cs).find? (hasId id) :=
  List.find?_cons_of_neg (fun hid => Bool.false_ne_true (h.symm.trans hid))

theorem find?_of_eq {name value : Text} {as : List (Text × Text)} {cs : List Node} (h : (value == id) = true) :
    (preorder (element name (("id", value) :: as) cs)).find? (hasId id) = some (element name (("id", value) :: as) cs) :=
  List.find?_cons_of_pos h

theorem find?_plain (t : Text) : (preorder (plain t)).find? (hasId id) = none := rfl

/-- The element of a name is looked for in the body, and there in one region after the other. -/
theorem byId?_eq (h : p.LaidOut l) (hs : (("viewer-style" : Text) == id) = false) (hv : (("viewer-flip" : Text) == id) = false) :
    p.byId? id =
      ((preorder (element "h1" [("id", titleId)] l.regions.title)).find? (hasId id)).or
        (((preorder (element "div" [("id", controlsId), ("style", l.regions.controls)]
          [plain "Render mode: ", element "span" [("id", modeId)] l.regions.mode])).find? (hasId id)).or
          (((preorder (element "div" [("id", cardsId)] l.cards)).find? (hasId id)).or
            (((preorder (element "div" [("id", libraryId)] l.regions.library)).find? (hasId id)).or
              ((preorder (element "div" [("id", deferredId)] l.regions.deferred)).find? (hasId id))))) := by
  have hd : (preorder (.text .doctype "html")).find? (hasId id) = none := rfl
  have hn : (preorderAll []).find? (hasId id) = none := rfl
  have hh := find?_eq_none (updateFirst?_headOf (f := fun n => n) l hs)
  have hc : l.regions.cards = l.cards := rfl
  rw [byId?, find?, show p.nodes = skeleton l.regions from h]
  simp only [skeleton, bodyOf, newline, find?_cons, find?_nameless, find?_plain, hd, hn, hh, find?_of_ne hv, hc,
    Option.none_or, Option.or_none]

theorem byId?_title (h : p.LaidOut l) : p.byId? titleId = some (element "h1" [("id", titleId)] l.regions.title) := by
  rw [byId?_eq h (by decide) (by decide), find?_of_eq (by decide), Option.some_or]

/-- Neither the heading nor its title is an element of another name. -/
theorem find?_heading (h : (titleId == id) = false) :
    (preorder (element "h1" [("id", titleId)] l.regions.title)).find? (hasId id) = none :=
  find?_eq_none (by rw [updateFirst?_of_ne h, updateFirstAmong?_title]; rfl)

theorem byId?_controls (h : p.LaidOut l) :
    p.byId? controlsId = some (element "div" [("id", controlsId), ("style", l.regions.controls)]
      [plain "Render mode: ", element "span" [("id", modeId)] l.regions.mode]) := by
  rw [byId?_eq h (by decide) (by decide), find?_heading (by decide), find?_of_eq (by decide), Option.none_or, Option.some_or]

theorem byId?_mode (h : p.LaidOut l) : p.byId? modeId = some (element "span" [("id", modeId)] l.regions.mode) := by
  rw [byId?_eq h (by decide) (by decide), find?_heading (by decide), find?_of_ne (by decide), find?_cons, find?_plain,
    find?_cons, find?_of_eq (by decide), Option.none_or, Option.none_or, Option.some_or, Option.some_or]

theorem byId?_cards (h : p.LaidOut l) : p.byId? cardsId = some (element "div" [("id", cardsId)] l.cards) := by
  rw [byId?_eq h (by decide) (by decide), find?_heading (by decide),
    find?_eq_none (updateFirst?_controls (by decide) (by decide)), find?_of_eq (by decide), Option.none_or, Option.none_or, Option.some_or]

theorem cards_eq (h : p.LaidOut l) : p.cards = l.cards := by
  rw [cards, byId?_cards h]
  rfl

/-- The title of the page is that in its head. -/
theorem find?_pageTitle (h : p.LaidOut l) : p.find? (isNamed "title") = some (element "title" [] [plain l.regions.pageTitle]) := by
  rw [find?, show p.nodes = skeleton l.regions from h]
  rfl

/-- There is an element of the name of each region, whatever the cards hold. -/
theorem isSome_byId? (h : p.LaidOut l) :
    ∀ id ∈ [titleId, controlsId, modeId, cardsId, libraryId, deferredId], (p.byId? id).isSome := by
  have hl : (preorder (element "div" [("id", libraryId)] l.regions.library)).find? (hasId libraryId) = some _ :=
    find?_of_eq (by decide)
  have hd : (preorder (element "div" [("id", deferredId)] l.regions.deferred)).find? (hasId deferredId) = some _ :=
    find?_of_eq (by decide)
  simp only [List.forall_mem_cons, List.not_mem_nil, false_imp_iff, implies_true, and_true]
  refine ⟨by rw [byId?_title h]; rfl, by rw [byId?_controls h]; rfl, by rw [byId?_mode h]; rfl, by rw [byId?_cards h]; rfl, ?_, ?_⟩
  · rw [byId?_eq h (by decide) (by decide), hl]
    simp only [Option.isSome_or, Option.isSome_some, Bool.or_true, Bool.true_or]
  · rw [byId?_eq h (by decide) (by decide), hd]
    simp only [Option.isSome_or, Option.isSome_some, Bool.or_true]

end Lookup

/-! ## One layout -/

theorem plain_injective : Function.Injective plain := by
  intro t t' h
  simpa [plain] using h

theorem stylesheet_injective : Function.Injective stylesheet := by
  intro href href' h
  simpa [stylesheet, element] using h

theorem inlineScript_injective : Function.Injective inlineScript := by
  intro content content' h
  simpa [inlineScript, element, plain] using h

/-- The element of a library tells all that is known of it: what is not there is not among the attributes. -/
theorem script_injective : Function.Injective script := by
  rintro ⟨address, deferred, async, onLoad⟩ ⟨address', deferred', async', onLoad'⟩ h
  cases deferred <;> cases deferred' <;> cases async <;> cases async' <;> cases onLoad <;> cases onLoad' <;>
    simp_all [script, element, attributeIf, nonEmpty]

/-- The tree of a page tells what its regions hold. -/
theorem skeleton_injective : Function.Injective skeleton := by
  rintro ⟨pageTitle, title, controls, mode, links, cards, library, deferred⟩
    ⟨pageTitle', title', controls', mode', links', cards', library', deferred'⟩ h
  simp only [skeleton, headOf, bodyOf, element, plain, List.map_nil, List.map_cons, List.cons_append, List.nil_append, List.cons.injEq,
    Node.element.injEq, Node.text.injEq, Prod.mk.injEq, AttributeValue.text.injEq, true_and, and_true] at h
  obtain ⟨⟨rfl, rfl⟩, rfl, ⟨rfl, rfl⟩, rfl, rfl, rfl⟩ := h
  rfl

/-- A page has one layout. -/
theorem LaidOut.unique {p : Page} {l l' : Layout} (h : p.LaidOut l) (h' : p.LaidOut l') : l' = l := by
  have hregions : l'.regions = l.regions := skeleton_injective (h'.symm.trans h)
  have hoption : ∀ {t t' : Option Text}, t'.toList.map plain = t.toList.map plain → t' = t := by
    intro t t' ht
    have hlist := (List.map_inj_right fun _ _ h => plain_injective h).1 ht
    cases t <;> cases t' <;> simp_all
  obtain ⟨deck, mode, links, cards, library, deferred⟩ := l
  obtain ⟨deck', mode', links', cards', library', deferred'⟩ := l'
  obtain ⟨-, htitle, -, hmode, hlinks, hcards, hlibrary, hdeferred⟩ := Regions.mk.inj hregions
  obtain rfl : deck' = deck := hoption htitle
  obtain rfl : mode' = mode := hoption hmode
  obtain rfl : links' = links := (List.map_inj_right fun _ _ h => stylesheet_injective h).1 hlinks
  obtain rfl : cards' = cards := hcards
  obtain rfl : library' = library := (List.map_inj_right fun _ _ h => script_injective h).1 hlibrary
  obtain rfl : deferred' = deferred := (List.map_inj_right fun _ _ h => inlineScript_injective h).1 hdeferred
  rfl

end Page

end Flashcards
