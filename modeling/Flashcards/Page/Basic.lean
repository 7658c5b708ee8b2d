import Flashcards.Failure
import Flashcards.Markup.Query
import Flashcards.Markup.Writer
import Flashcards.Page.Chrome

/-!
# The page

One page holds the cards of the deck that is shown and everything they share. It is a tree like any other document, so that what a
reader sees and what a search finds are the same. Its skeleton has regions: the title, which stands in two places; the controls with
the name of the render mode; the container of the cards; a region for the scripts of libraries, and one for the scripts that a deck
brings; style sheets go to the end of the head.

A region is found by its name, as the first element of the document that carries it. Cards may carry any name, and they come before
the two regions for scripts.

Beside its tree the page remembers which scripts have been run for the deck.
-/

namespace Flashcards

open Text Markup

/-- The page: its tree, and the scripts run since they were last reset. -/
structure Page where
  nodes : List Node
  executed : List Text
  deriving DecidableEq

namespace Page

/-! ## Names of regions -/

/-- The name of the heading with the title. -/
def titleId : Text := "deck-title"

/-- The name of the controls. -/
def controlsId : Text := "controls"

/-- The name of the place for the render mode. -/
def modeId : Text := "render-mode"

/-- The name of the container of the cards. -/
def cardsId : Text := "cards-container"

/-- The name of the region for the scripts of libraries. -/
def libraryId : Text := "library-scripts"

/-- The name of the region for the scripts that a deck brings. -/
def deferredId : Text := "deferred-scripts"

/-! ## Building nodes -/

/-- Running text. -/
def plain (t : Text) : Node := .text .plain t

/-- An element with attributes that are texts. -/
def element (name : Text) (attributes : List (Text × Text)) (children : List Node) : Node :=
  .element name (attributes.map fun a => (a.1, .text a.2)) children

/-- An element with classes, given as one text, and no other attributes. -/
def classed (name classes : Text) (children : List Node) : Node :=
  .element name [("class", .words (words classes))] children

/-- The element of a style sheet at an address. -/
def stylesheet (href : Text) : Node := element "link" [("rel", "stylesheet"), ("href", href)] []

/-- A script at an address, and when it is to run. -/
structure ScriptSource where
  address : Text
  deferred : Bool
  async : Bool
  /-- What is to run when the script has been loaded; an empty text is nothing. -/
  onLoad : Text
  deriving DecidableEq, Repr

/-- An attribute that is there or not. -/
def attributeIf (present : Bool) (name value : Text) : List (Text × Text) := if present then [(name, value)] else []

/-- The element of a script at an address. -/
def script (s : ScriptSource) : Node :=
  element "script"
    (attributeIf true "src" s.address ++ attributeIf s.deferred "defer" [] ++ attributeIf s.async "async" [] ++
      attributeIf (nonEmpty s.onLoad) "onload" s.onLoad)
    []

/-- The element of a script with its text. -/
def inlineScript (content : Text) : Node := element "script" [] [plain content]

/-! ## The skeleton -/

/-- What the regions of a page hold. -/
structure Regions where
  /-- The title in the head. -/
  pageTitle : Text
  /-- What the heading holds. -/
  title : List Node
  /-- The style of the controls. -/
  controls : Text
  /-- What the place for the render mode holds. -/
  mode : List Node
  /-- The style sheets at the end of the head. -/
  links : List Node
  cards : List Node
  library : List Node
  deferred : List Node
  deriving DecidableEq

/-- The regions of a page on which nothing has been shown. -/
def Regions.initial : Regions := ⟨Chrome.title, [], "display:none", [], [], [], [], []⟩

/-- A line feed between two elements. -/
def newline : Node := plain ['\n']

/-- The head of a page. -/
def headOf (r : Regions) : Node :=
  element "head" []
    ([newline, element "meta" [("charset", "utf-8")] [], newline, element "title" [] [plain r.pageTitle], newline,
      element "style" [("id", "viewer-style")] [plain Chrome.pageStyle], newline] ++ r.links)

/-- The body of a page. -/
def bodyOf (r : Regions) : Node :=
  element "body" []
    [newline, element "h1" [("id", titleId)] r.title, newline,
      element "div" [("id", controlsId), ("style", r.controls)]
        [plain "Render mode: ", element "span" [("id", modeId)] r.mode], newline,
      element "div" [("id", cardsId)] r.cards, newline,
      element "div" [("id", libraryId)] r.library, newline,
      element "div" [("id", deferredId)] r.deferred, newline,
      element "script" [("id", "viewer-flip")] [plain Chrome.flipScript], newline]

/-- The tree of a page with given regions. -/
def skeleton (r : Regions) : List Node :=
  [.text .doctype "html", newline, element "html" [] [newline, headOf r, newline, bodyOf r, newline], newline]

/-- The page on which nothing has been shown. -/
def blank : Page := ⟨skeleton Regions.initial, []⟩

/-! ## Looking things up -/

/-- The first element for which a condition holds. -/
def find? (p : Node → Bool) (page : Page) : Option Node := (Node.preorderAll page.nodes).find? p

/-- The first element of a name. -/
def byId? (id : Text) (page : Page) : Option Node := page.find? (Node.hasId id)

/-- The first element of a name, which has to be there. -/
def byId (id : Text) (page : Page) : Except Failure Node :=
  match page.byId? id with
  | some n => .ok n
  | none => .error (.missingElement id)

/-- What the first element of a name holds, as markup. -/
def innerMarkup (id : Text) (page : Page) : Text := ((page.byId? id).map Node.innerMarkup).getD []

/-- The nodes in the container of the cards. -/
def cards (page : Page) : List Node := ((page.byId? cardsId).map Node.children).getD []

/-- The elements of style sheets in the head. -/
def links (page : Page) : List Node :=
  ((page.find? (Node.isNamed "head")).map fun head => head.descendants.filter (Node.isNamed "link")).getD []

/-! ## Changing regions -/

/-- The page with the first element changed for which a condition holds. -/
def update (p : Node → Bool) (f : Node → Node) (page : Page) : Page :=
  { page with nodes := (Node.updateFirstAmong? p f page.nodes).getD page.nodes }

/-- The page with the first element of a name changed. -/
def updateById (id : Text) (f : Node → Node) (page : Page) : Page := page.update (Node.hasId id) f

/-- A style sheet put at the end of the head. -/
def appendStylesheet (href : Text) (page : Page) : Page :=
  page.update (Node.isNamed "head") (Node.appendChild (stylesheet href))

/-- A script of a library put at the end of the region for these. -/
def appendScript (s : ScriptSource) (page : Page) : Page := page.updateById libraryId (Node.appendChild (script s))

/-- A script of the deck run: it is put at the end of the region for these, and remembered. -/
def runScript (content : Text) (page : Page) : Page :=
  let page := page.updateById deferredId (Node.appendChild (inlineScript content))
  { page with executed := page.executed ++ [content] }

/-- The scripts of the deck taken away and forgotten. -/
def resetScripts (page : Page) : Page := { page.updateById deferredId (Node.withChildren []) with executed := [] }

/-- The title set, in both its places. -/
def setTitle (name : Text) (page : Page) : Page :=
  (page.updateById titleId (Node.withChildren [plain name])).update (Node.isNamed "title") (Node.withChildren [plain name])

/-- The controls shown, with the name of a render mode. -/
def setControls (mode : Text) (page : Page) : Page :=
  (page.updateById controlsId (Node.setAttribute "style" (.text "display:block"))).updateById modeId
    (Node.withChildren [plain mode])

/-- The cards taken away. -/
def clearCards (page : Page) : Page := page.updateById cardsId (Node.withChildren [])

/-- A node put at the end of the cards. -/
def appendCard (card : Node) (page : Page) : Page := page.updateById cardsId (Node.appendChild card)

/-- Nodes put in the place of the cards. -/
def showNodes (nodes : List Node) (page : Page) : Page := page.updateById cardsId (Node.withChildren nodes)

/-- The nodes of a fragment. -/
def fragment (t : Text) : Except Failure (List Node) := (parse t).mapError (Failure.ofMarkup .rejectedMarkup)

/-- A message put in the place of the cards. Where it is rejected, the cards are gone all the same. -/
def showMessage (t : Text) (page : Page) : Page × Option Failure :=
  match fragment t with
  | .ok nodes => (page.showNodes nodes, none)
  | .error failure => (page.clearCards, some failure)

/-- The page as markup. -/
def render (page : Page) : Text := toMarkup page.nodes

end Page

end Flashcards
