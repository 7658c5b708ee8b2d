import Flashcards.NoteModel
import Flashcards.Page.Basic
import Flashcards.Text.Collection

/-!
# Hoisting resources

Many cards share one template, so the same style sheets and libraries stand in every card. They are hoisted: taken out of the
fragment and put into the shared page, each address once. Scripts with a text of their own are taken out too, and wait to be run
when the whole deck has been rendered, each text once; where only libraries are asked for, they stay.

The links to style sheets are found first, and then the scripts in what is left. An element goes with all that is in it, and what is
gone cannot be asked for its address: a search that comes to such an element ends in a failure (`Workspace.strip`).

What a fragment gives up, and what is left of it, depends on the fragment alone (`Harvest.ofNodes`). What of that is new depends on
the addresses claimed before, and decides only what is added to the page (`Workspace.take`).
-/

namespace Flashcards

open Text Markup

/-! ## What a fragment gives up -/

/-- The address of the style sheet that an element links to, if it does. -/
def stylesheetAddress? (n : Node) : Option Text :=
  match n.attribute? "rel", n.attributeText? "href" with
  | some relation, some href => if n.isNamed "link" && relation.holds "stylesheet" && nonEmpty href then some href else none
  | _, _ => none

/-- What a script is: at an address, or with its text, which may be blank. -/
inductive Script where
  | external (source : Page.ScriptSource)
  | inline (content : Text)
  deriving DecidableEq, Repr

/-- The script that an element is, if it is one. -/
def script? (n : Node) : Option Script :=
  if n.isNamed "script" then
    match n.attributeText? "src" with
    | some (c :: src) =>
      some (.external ⟨c :: src, (n.attribute? "defer").isSome, (n.attribute? "async").isSome,
        (n.attributeText? "onload").getD []⟩)
    | _ => some (.inline (n.soleText?.getD []))
  else none

/-- The script that is taken out of a fragment where an element stands; of those with a text of their own, none where only libraries
are taken. -/
def scriptTaken? (librariesOnly : Bool) (n : Node) : Option Script :=
  match script? n with
  | some (.inline content) => if librariesOnly then none else some (.inline content)
  | s => s

/-- Whether an element is a link to a style sheet, at an address or at none. -/
def isStylesheetLink (n : Node) : Bool := n.isNamed "link" && (n.attribute? "rel").any (AttributeValue.holds "stylesheet")

mutual

/-- What is left of a node when the elements for which a condition holds are taken out: the node itself may be. -/
def pruneNode (p : Node → Bool) : Node → List Node
  | .text k t => [.text k t]
  | .element n as cs => if p (.element n as cs) then [] else [.element n as (prune p cs)]

/-- What is left of nodes when the elements for which a condition holds are taken out. -/
def prune (p : Node → Bool) : List Node → List Node
  | [] => []
  | n :: ns => pruneNode p n ++ prune p ns

end

/-- What a fragment gives up, in document order, and what is left of it. -/
structure Harvest where
  stylesheets : List Text
  scripts : List Script
  rest : List Node
  deriving DecidableEq

namespace Harvest

/-- What the nodes of a fragment give up. Style sheets are taken out first. -/
def ofNodes (librariesOnly : Bool) (nodes : List Node) : Harvest :=
  let unstyled := prune (fun n => (stylesheetAddress? n).isSome) nodes
  { stylesheets := (Node.preorderAll nodes).filterMap stylesheetAddress?
    scripts := (Node.preorderAll unstyled).filterMap (scriptTaken? librariesOnly)
    rest := prune (fun n => (scriptTaken? librariesOnly n).isSome) unstyled }

/-- Whether a fragment gives up nothing. -/
def isEmpty (h : Harvest) : Bool := h.stylesheets.isEmpty && h.scripts.isEmpty

/-- The fragment as it is used when its resources are taken out; where there are none, it stays as it is written. -/
def remainder (written : Text) (h : Harvest) : Text := if h.isEmpty then written else toMarkup h.rest

end Harvest

/-! ## Searching -/

/-- An element that has been found, and whether it is gone when the search comes to it: an element that it stands in has been taken
out by then. -/
structure Finding where
  element : Node
  isGone : Bool
  deriving DecidableEq

mutual

/-- The elements of a node as a search comes to them, in document order, when those for which a condition holds are taken out on the
way. -/
def findingsOf (p : Node → Bool) (isGone : Bool) : Node → List Finding
  | .text _ _ => []
  | .element n as cs => ⟨.element n as cs, isGone⟩ :: findings p (isGone || p (.element n as cs)) cs

/-- The elements of nodes as a search comes to them, in document order, when those for which a condition holds are taken out on the
way. -/
def findings (p : Node → Bool) (isGone : Bool) : List Node → List Finding
  | [] => []
  | n :: ns => findingsOf p isGone n ++ findings p isGone ns

end

/-- What a search finds that looks for some elements, and takes out those that give something up. -/
def found {α : Type} (wanted : Node → Bool) (given? : Node → Option α) (nodes : List Node) : List Finding :=
  (findings (fun n => (given? n).isSome) false nodes).filter fun f => wanted f.element

/-! ## What the page gains -/

/-- The page together with the addresses claimed on it and the scripts that wait to be run. -/
structure Workspace where
  page : Page
  claimed : Collection
  deferred : Collection
  deriving DecidableEq

namespace Workspace

/-- The workspace of a page on which nothing has been shown. -/
def blank : Workspace := ⟨Page.blank, Collection.empty, Collection.empty⟩

/-- An address claimed, and the page changed if it had not been claimed before. -/
def claim (address : Text) (change : Page → Page) (w : Workspace) : Workspace :=
  if w.claimed.contains address then w
  else { w with page := change w.page, claimed := w.claimed.insert address }

/-- A style sheet taken in. -/
def takeStylesheet (w : Workspace) (href : Text) : Workspace := w.claim href (Page.appendStylesheet href)

/-- A script taken in; a blank one is dropped. -/
def takeScript (w : Workspace) : Script → Workspace
  | .external s => w.claim s.address (Page.appendScript s)
  | .inline content => if allBlank content then w else { w with deferred := w.deferred.insert content }

/-- Everything that a fragment gives up taken in. -/
def take (h : Harvest) (w : Workspace) : Workspace := h.scripts.foldl takeScript (h.stylesheets.foldl takeStylesheet w)

/-- What has been found gone through: what each element gives up is taken in. An element that is gone ends it, and what has been taken
in by then stays. -/
def takeFound {α : Type} (given? : Node → Option α) (take : Workspace → α → Workspace) :
    List Finding → Workspace → Workspace × Option Failure
  | [], w => (w, none)
  | f :: fs, w =>
    if f.isGone then (w, some (.notAnObject .null))
    else
      match given? f.element with
      | some x => takeFound given? take fs (take w x)
      | none => takeFound given? take fs w

/-- A fragment stripped of its resources: the workspace with what it gave up, and what is left of it. -/
def strip (librariesOnly : Bool) (fragment : Text) (w : Workspace) : Workspace × Except Failure Text :=
  match Page.fragment fragment with
  | .error failure => (w, .error failure)
  | .ok nodes =>
    match w.takeFound stylesheetAddress? takeStylesheet (found isStylesheetLink stylesheetAddress? nodes) with
    | (w, some failure) => (w, .error failure)
    | (w, none) =>
      let unstyled := prune (fun n => (stylesheetAddress? n).isSome) nodes
      match w.takeFound (scriptTaken? librariesOnly) takeScript
          (found (Node.isNamed "script") (scriptTaken? librariesOnly) unstyled) with
      | (w, some failure) => (w, .error failure)
      | (w, none) => (w, .ok ((Harvest.ofNodes librariesOnly nodes).remainder fragment))

/-- A fragment hoisted: what is left of it, and the workspace with what it gave up. -/
def hoist (librariesOnly : Bool) (fragment : Text) (w : Workspace) : Except Failure (Text × Workspace) :=
  let (w, left) := w.strip librariesOnly fragment
  left.map (·, w)

/-- The libraries of fragments taken in, in order. The first fragment that cannot be hoisted ends it; what has been taken in stays. -/
def preloadAll : List Text → Workspace → Workspace × Option Failure
  | [], w => (w, none)
  | fragment :: fragments, w =>
    match w.strip true fragment with
    | (w, .error failure) => (w, some failure)
    | (w, .ok _) => preloadAll fragments w

/-- The texts of the templates of models, the question of each before its answer. -/
def templateTexts (models : List NoteModel) : List Text :=
  models.flatMap fun m => m.templates.flatMap fun t => [t.question, t.answer]

/-- The libraries of all templates of models taken in. -/
def preload (models : List NoteModel) (w : Workspace) : Workspace × Option Failure := w.preloadAll (templateTexts models)

/-- The waiting scripts dropped. -/
def dropDeferred (w : Workspace) : Workspace := { w with deferred := Collection.empty }

/-- The page changed. -/
def onPage (change : Page → Page) (w : Workspace) : Workspace := { w with page := change w.page }

end Workspace

end Flashcards
