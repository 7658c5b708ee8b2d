import Flashcards.Hoist
import Flashcards.Proofs.Page.Layout

/-!
# What a page has loaded

The style sheets and the libraries that a page loads are found by looking through it from the start to the end, leaving out what the
container of the cards holds (`Page.resources`). A page that has a layout loads what the layout says and nothing else: its style sheets
stand in the head, and its libraries in the region for them that the page itself has (`Page.resources_eq`).
-/

namespace Flashcards

open Text Markup Markup.Node

/-- The address of the script that an element loads, if it loads one. -/
def libraryAddress? (n : Node) : Option Text :=
  match script? n with
  | some (.external source) => some source.address
  | _ => none

/-- The address of the style sheet or of the script that an element loads, if it loads one. -/
def resource? (n : Node) : Option Text := (stylesheetAddress? n).or (libraryAddress? n)

/-- The addresses of the style sheets and the libraries of a layout. -/
def Layout.addresses (l : Layout) : List Text := l.links ++ l.library.map Page.ScriptSource.address

namespace Page

/-- The nodes of a page that stand outside of the container of the cards. -/
def outside (p : Page) : List Node := preorderAll p.clearCards.nodes

/-- The addresses of the resources that a page loads, those of its cards apart. -/
def resources (p : Page) : List Text := p.outside.filterMap resource?

/-- The nodes in the region for libraries that the page itself has, whatever its cards hold. -/
def libraries (p : Page) : List Node := ((p.clearCards.byId? libraryId).map Node.children).getD []

/-! ## One element -/

theorem stylesheetAddress?_stylesheet {href : Text} (h : nonEmpty href = true) : stylesheetAddress? (stylesheet href) = some href := by
  have hr : (stylesheet href).attribute? "rel" = some (.text "stylesheet") := rfl
  have ha : (stylesheet href).attributeText? "href" = some href := rfl
  have hn : (stylesheet href).isNamed "link" = true := rfl
  have hs : (AttributeValue.text "stylesheet").holds "stylesheet" = true := rfl
  simp only [stylesheetAddress?, hr, ha, hn, hs, h, Bool.and_self, if_true]

theorem resource?_stylesheet {href : Text} (h : nonEmpty href = true) : resource? (stylesheet href) = some href := by
  rw [resource?, stylesheetAddress?_stylesheet h, Option.some_or]

theorem libraryAddress?_script {s : ScriptSource} (h : nonEmpty s.address = true) : libraryAddress? (script s) = some s.address := by
  obtain ⟨address, deferred, async, onLoad⟩ := s
  cases address with
  | nil => nomatch h
  | cons c address => rfl

theorem resource?_script {s : ScriptSource} (h : nonEmpty s.address = true) : resource? (script s) = some s.address := by
  have hs : stylesheetAddress? (script s) = none := by
    unfold stylesheetAddress?
    have hn : (script s).isNamed "link" = false := rfl
    split
    · simp only [hn, Bool.false_and, Bool.false_eq_true, if_false]
    · rfl
  rw [resource?, hs, Option.none_or, libraryAddress?_script h]

/-! ## All elements -/

section Layout

variable {l : Layout} {p : Page}

/-- Elements that hold nothing, in document order. -/
theorem preorderAll_map {α : Type} {f : α → Node} (h : ∀ x, preorder (f x) = [f x]) (xs : List α) :
    preorderAll (xs.map f) = xs.map f := by
  induction xs with
  | nil => rfl
  | cons x xs ih => rw [List.map_cons, preorderAll, h, ih]; rfl

/-- What a list of elements gives that are each made of something. -/
theorem filterMap_map_of_some {α β : Type} {f : α → Node} {g : Node → Option β} {k : α → β} {xs : List α}
    (h : ∀ x ∈ xs, g (f x) = some (k x)) : (xs.map f).filterMap g = xs.map k := by
  induction xs with
  | nil => rfl
  | cons x xs ih =>
    rw [List.map_cons, List.filterMap_cons, h x List.mem_cons_self, ih fun y hy => h y (List.mem_cons_of_mem x hy)]
    rfl

/-- Running text loads nothing, and neither do the scripts of a deck. -/
theorem filterMap_inline (ts : List Text) : (preorderAll (ts.map inlineScript)).filterMap resource? = [] := by
  induction ts with
  | nil => rfl
  | cons t ts ih =>
    rw [List.map_cons, preorderAll, List.filterMap_append, ih]
    rfl

theorem filterMap_plain (ts : List Text) : (preorderAll (ts.map plain)).filterMap resource? = [] := by
  induction ts with
  | nil => rfl
  | cons t ts ih =>
    rw [List.map_cons, preorderAll, List.filterMap_append, ih]
    rfl

/-- The resources in the head are its style sheets. -/
theorem resources_headOf (hn : ∀ t ∈ l.addresses, nonEmpty t = true) :
    (preorder (headOf l.regions)).filterMap resource? = l.links := by
  have hlinks : (preorderAll (l.links.map stylesheet)).filterMap resource? = l.links := by
    rw [preorderAll_map (fun _ => rfl), filterMap_map_of_some (k := id), List.map_id]
    intro t ht
    exact resource?_stylesheet (hn t (List.mem_append_left _ ht))
  have hr : l.regions.links = l.links.map stylesheet := rfl
  rw [headOf, element, preorder, preorderAll_append, List.filterMap_cons, List.filterMap_append, hr, hlinks]
  rfl

/-- An element that loads nothing itself loads what its children load. -/
theorem filterMap_element {name : Text} {as : List (Text × Text)} (cs : List Node) (h : resource? (element name as cs) = none) :
    (preorder (element name as cs)).filterMap resource? = (preorderAll cs).filterMap resource? := by
  rw [element, preorder, ← element, List.filterMap_cons, h]

/-- The resources in the body, the cards apart, are the libraries. -/
theorem resources_bodyOf (hn : ∀ t ∈ l.addresses, nonEmpty t = true) :
    (preorder (bodyOf { l.regions with cards := [] })).filterMap resource? = l.library.map ScriptSource.address := by
  have hlibrary : (preorderAll l.regions.library).filterMap resource? = l.library.map ScriptSource.address := by
    rw [Layout.regions, preorderAll_map (fun _ => rfl), filterMap_map_of_some (k := ScriptSource.address)]
    intro s hs
    exact resource?_script (hn _ (List.mem_append_right _ (List.mem_map_of_mem hs)))
  have htitle : (preorderAll l.regions.title).filterMap resource? = [] := filterMap_plain l.deck.toList
  have hmode : (preorderAll l.regions.mode).filterMap resource? = [] := filterMap_plain l.mode.toList
  have hdeferred : (preorderAll l.regions.deferred).filterMap resource? = [] := filterMap_inline l.deferred
  have hplain : ∀ t : Text, (preorder (plain t)).filterMap resource? = [] := fun _ => rfl
  have hcards : (preorder (element "div" [("id", cardsId)] [])).filterMap resource? = [] := rfl
  have hflip : (preorder (element "script" [("id", "viewer-flip")] [plain Chrome.flipScript])).filterMap resource? = [] := rfl
  rw [bodyOf, filterMap_element _ rfl]
  simp only [newline, preorderAll, List.filterMap_append, hplain, hcards, hflip, List.nil_append, List.append_nil]
  rw [filterMap_element _ rfl, filterMap_element _ rfl, filterMap_element _ rfl, filterMap_element _ rfl, htitle, hlibrary, hdeferred]
  simp only [preorderAll, List.filterMap_append, hplain]
  rw [filterMap_element _ rfl, hmode]
  simp only [List.nil_append, List.append_nil, List.filterMap_nil]

/-- A page loads what its layout says, besides what its cards hold: the style sheets, and then the libraries. -/
theorem resources_eq (h : p.LaidOut l) (hn : ∀ t ∈ l.addresses, nonEmpty t = true) : p.resources = l.addresses := by
  have hclear : p.clearCards.nodes = skeleton { l.regions with cards := [] } := clearCards_laidOut h
  have hdoctype : (preorder (.text .doctype "html")).filterMap resource? = [] := rfl
  have hnewline : (preorder newline).filterMap resource? = [] := rfl
  have hhtml : ∀ cs, (preorder (element "html" [] cs)).filterMap resource? = (preorderAll cs).filterMap resource? := fun _ => rfl
  have hhead : headOf { l.regions with cards := [] } = headOf l.regions := rfl
  rw [resources, outside, hclear, Layout.addresses]
  simp only [skeleton, preorderAll, List.filterMap_append, hdoctype, hnewline, hhtml, hhead, resources_headOf hn,
    resources_bodyOf hn, List.nil_append, List.append_nil]

/-! ## Where the resources stand -/

/-- The style sheets in the head of a page are those of its layout. -/
theorem links_eq (h : p.LaidOut l) : p.links = l.links.map stylesheet := by
  have hhead : p.find? (isNamed "head") = some (headOf l.regions) := by
    rw [find?, show p.nodes = skeleton l.regions from h]
    rfl
  have hd : (headOf l.regions).descendants.filter (isNamed "link") =
      (preorderAll (l.links.map stylesheet)).filter (isNamed "link") := by
    rw [descendants, headOf, element, children, preorderAll_append, List.filter_append]
    rfl
  rw [links, hhead, Option.map_some, Option.getD_some, hd, preorderAll_map (fun _ => rfl), List.filter_eq_self]
  intro n hn
  obtain ⟨t, -, rfl⟩ := List.mem_map.1 hn
  rfl

/-- The style sheets that a page loads stand in the head. -/
theorem filterMap_links (h : p.LaidOut l) (hn : ∀ t ∈ l.addresses, nonEmpty t = true) :
    p.links.filterMap stylesheetAddress? = l.links := by
  rw [links_eq h, filterMap_map_of_some (k := id), List.map_id]
  intro t ht
  exact stylesheetAddress?_stylesheet (hn t (List.mem_append_left _ ht))

/-- The region for libraries is the page's own where the cards have no element of its name. -/
theorem byId?_library (h : p.LaidOut l) (hc : carry libraryId l.cards = false) :
    p.byId? libraryId = some (element "div" [("id", libraryId)] (l.library.map script)) := by
  have hcards : (preorder (element "div" [("id", cardsId)] l.cards)).find? (hasId libraryId) = none := by
    rw [find?_of_ne (by decide)]
    exact List.find?_eq_none.2 (List.any_eq_false.1 hc)
  rw [byId?_eq h (by decide) (by decide), find?_heading (by decide),
    find?_eq_none (updateFirst?_controls (by decide) (by decide)), hcards, find?_of_eq (by decide)]
  rfl

/-- The libraries of a page are those of its layout. -/
theorem libraries_eq (h : p.LaidOut l) : p.libraries = l.library.map script := by
  rw [libraries, byId?_library (clearCards_laidOut h) rfl]
  rfl

/-- The libraries that a page loads stand in the region for them. -/
theorem filterMap_libraries (h : p.LaidOut l) (hn : ∀ t ∈ l.addresses, nonEmpty t = true) :
    p.libraries.filterMap libraryAddress? = l.library.map ScriptSource.address := by
  rw [libraries_eq h, filterMap_map_of_some (k := ScriptSource.address)]
  intro s hs
  exact libraryAddress?_script (hn _ (List.mem_append_right _ (List.mem_map_of_mem hs)))

end Layout

end Page

end Flashcards
