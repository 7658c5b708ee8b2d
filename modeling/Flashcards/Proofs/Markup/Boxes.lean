import Flashcards.Markup.Query
import Flashcards.Markup.Writer
import Flashcards.Page.Chrome
import Flashcards.Proofs.Markup.Attributes
import Flashcards.Proofs.Markup.Spelling
import Flashcards.Proofs.Markup.Tags
import Flashcards.Proofs.Text.Words

/-!
# Boxes

A box is an element `div` with attributes, written around some content: running text, or other boxes one after the other. What is written
is read again: a text as itself (`Content.text`), a box as an element with what its content is read as (`Content.box`), and boxes one after
the other as elements one after the other (`Boxes.flatMap`). So a document made of boxes is read as the elements that it was made of
(`Boxes.parse`), whatever texts and values are in it.

What content is read as is told when the running text in it has become a node, which it does at the tag that follows it.
-/

namespace Flashcards.Markup

open Text Lexer

/-! ## Writing -/

/-- An attribute of a box as it is written. -/
def writtenAttribute (a : Text × Text) : Text := ' ' :: (a.1 ++ '=' :: '\x22' :: (Chrome.escape a.2 ++ ['\x22']))

/-- The attributes of a box as they are written. -/
def writtenAttributes (as : List (Text × Text)) : Text := as.flatMap writtenAttribute

/-- A box with attributes around some content. -/
def box (as : List (Text × Text)) (content : Text) : Text :=
  "<div" ++ (writtenAttributes as ++ '>' :: (content ++ "</div>"))

/-- The element that a box is read as, with what its content is read as. -/
def boxNode (as : List (Text × Text)) (ns : List Node) : Node := .element "div" (attributesOf "div" as) ns

/-! ## Attributes -/

/-- The classes of a box are the words of the first of its attributes. -/
theorem hasClass_boxNode {as : List (Text × Text)} (h : (("class" : Text) :: as.map (·.1)).Nodup) (name classes : Text) (ns : List Node) :
    (boxNode (("class", classes) :: as) ns).hasClass name = (words classes).contains name := by
  rw [Node.hasClass, Node.attribute?, boxNode, Node.attributes, attributesOf_eq "div" (by exact h)]
  rfl

/-! ## Tags -/

/-- A character that is written in a value is read as it was. -/
theorem readsInValue_boxChar (c : Char) : ReadsInValue (Chrome.escapeChar c) c := by
  by_cases hamp : c = '&'
  · subst hamp
    exact fun _ => rfl
  by_cases hlt : c = '<'
  · subst hlt
    exact fun _ => rfl
  by_cases hgt : c = '>'
  · subst hgt
    exact fun _ => rfl
  by_cases hquot : c = '\x22'
  · subst hquot
    exact fun _ => rfl
  by_cases hapostrophe : c = '\x27'
  · subst hapostrophe
    exact fun _ => rfl
  rw [Chrome.escapeChar, if_neg hamp, if_neg hlt, if_neg hgt, if_neg hquot, if_neg hapostrophe]
  exact readsInValue_self hamp

/-- No quote is written for a character of a value. -/
theorem quote_not_mem_escapeChar (c : Char) : '\x22' ∉ Chrome.escapeChar c := by
  by_cases hquot : c = '\x22'
  · subst hquot
    decide
  · have hself : '\x22' ∉ [c] := fun h => hquot (List.mem_singleton.1 h).symm
    rw [Chrome.escapeChar, if_neg hquot]
    repeat' split
    all_goals first | exact hself | decide

/-- No quote is written in a value. -/
theorem quote_not_mem_escape (v : Text) : '\x22' ∉ Chrome.escape v := by
  rw [Chrome.escape, List.mem_flatMap]
  rintro ⟨c, -, hc⟩
  exact quote_not_mem_escapeChar c hc

theorem writesAttribute_box {a : Text × Text} (h : AttributeName a.1) : WritesAttribute (writtenAttribute a) a :=
  .quoted h (.inl rfl) (quote_not_mem_escape a.2) (resolve_flatMap readsInValue_boxChar a.2)

/-- Whether a name is read as it is written, as it can be computed. -/
def readsAsWritten (name : Text) : Bool := nonEmpty name && name.all inAttributeName && lower name == name

theorem attributeName_of_readsAsWritten {name : Text} (h : readsAsWritten name = true) : AttributeName name := by
  rw [readsAsWritten, Bool.and_eq_true, Bool.and_eq_true, List.all_eq_true, beq_iff_eq] at h
  refine ⟨?_, h.2⟩
  cases name with
  | nil => exact absurd h.1.1 (by decide)
  | cons c cs =>
    have hinside := List.forall_mem_cons.1 h.1.2
    exact ⟨c, cs, rfl, beginsAttribute_of_inAttributeName hinside.1, hinside.2⟩

theorem attributeName_class : AttributeName "class" := attributeName_of_readsAsWritten (by decide +kernel)

theorem tagName_div : TagName "div" where
  begins := ⟨'d', "iv", rfl, rfl⟩
  inside := by
    have hall : (("div" : Text).all fun c => !endsTagName c) = true := rfl
    intro c hc
    simpa using List.all_eq_true.1 hall c hc
  lower := by decide +kernel

/-! ## Elements that are open -/

namespace Construction

variable {d : Construction}

/-- All elements that are open are boxes, and nothing is left to be put into them. -/
structure Clear (d : Construction) : Prop where
  opened : ∀ e ∈ d.opened, e.name = "div"
  pieces : d.pieces = []
  passedOver : d.passedOver = []

/-- Nodes put at the end of what is open. -/
def appendAll (ns : List Node) (d : Construction) : Construction := ns.foldl (fun d n => d.append n) d

theorem Clear.append (h : d.Clear) (n : Node) : (d.append n).Clear := by
  obtain ⟨opened, top, pieces, passedOver⟩ := d
  obtain ⟨ho, hp, hpassed⟩ := h
  cases opened with
  | nil => exact ⟨ho, hp, hpassed⟩
  | cons e es => exact ⟨fun e' he' => (List.mem_cons.1 he').elim (fun h => h ▸ ho e List.mem_cons_self) fun h => ho e' (List.mem_cons_of_mem e h), hp, hpassed⟩

theorem Clear.appendAll (h : d.Clear) (ns : List Node) : (d.appendAll ns).Clear := by
  induction ns generalizing d with
  | nil => exact h
  | cons n ns ih => exact ih (h.append n)

theorem Clear.openElement (h : d.Clear) (as : Attributes) : (d.openElement "div" as).Clear where
  opened := List.forall_mem_cons.2 ⟨rfl, h.opened⟩
  pieces := h.pieces
  passedOver := h.passedOver

theorem Clear.flushText_eq (h : d.Clear) : d.flushText = d := by
  rw [flushText, flush, h.pieces, List.isEmpty_nil, if_pos rfl]

/-- Running text within boxes is plain. -/
theorem Clear.textKind_eq (h : d.Clear) (pieces : List Text) : ({ d with pieces := pieces } : Construction).textKind = .plain := by
  have hnone : d.opened.findSome? (fun e => textKindWithin? e.name) = none := by
    rw [List.findSome?_eq_none_iff]
    intro e he
    rw [h.opened e he]
    rfl
  rw [textKind]
  show (d.opened.findSome? fun e => textKindWithin? e.name).getD .plain = .plain
  rw [hnone]
  rfl

/-- Running text that is not all blanks becomes a node as it stands. -/
theorem flush_of_not_blank {kind : TextKind} {d : Construction} (h : d.pieces.reverse.flatten.all isMarkupBlank = false) :
    d.flush kind = append (.text kind d.pieces.reverse.flatten) { d with pieces := [] } := by
  have hne : d.pieces.isEmpty = false := by
    cases hp : d.pieces with
    | nil => simp [hp] at h
    | cons p ps => rfl
  rw [flush, hne, if_neg Bool.false_ne_true, settle, h]
  rfl

theorem passedOver_append (n : Node) (d : Construction) : (d.append n).passedOver = d.passedOver := by
  obtain ⟨opened, top, pieces, passedOver⟩ := d
  cases opened <;> rfl

theorem passedOver_flushText (d : Construction) : d.flushText.passedOver = d.passedOver := by
  rw [flushText, flush]
  split
  · rfl
  · exact passedOver_append _ _

/-- Nodes that are put into an element that is open. -/
theorem appendAll_openElement (ns : List Node) (e : OpenElement) (d : Construction) :
    ({ d with opened := e :: d.opened } : Construction).appendAll ns =
      { d with opened := { e with children := ns.reverse ++ e.children } :: d.opened } := by
  induction ns generalizing e with
  | nil => rfl
  | cons n ns ih =>
    rw [List.reverse_cons, List.append_assoc]
    exact ih { e with children := n :: e.children }

/-- Nodes that are put into an element that is open, which is then closed. -/
theorem closeNamed_appendAll (as : Attributes) (ns : List Node) (d : Construction) :
    ((d.openElement "div" as).appendAll ns).closeNamed "div" = d.append (.element "div" as ns) := by
  rw [openElement, appendAll_openElement, List.append_nil]
  show d.append (OpenElement.close ⟨"div", as, ns.reverse⟩) = _
  rw [OpenElement.close, List.reverse_reverse]

/-- Nodes at the top of a document. -/
theorem finish_appendAll (ns : List Node) : (empty.appendAll ns).finish = ns := by
  have htop : ∀ (ns top : List Node), appendAll ns ⟨[], top, [], []⟩ = ⟨[], ns.reverse ++ top, [], []⟩ := by
    intro ns
    induction ns with
    | nil => exact fun _ => rfl
    | cons n ns ih =>
      intro top
      rw [List.reverse_cons, List.append_assoc]
      exact ih (n :: top)
  rw [empty, htop, List.append_nil]
  show ns.reverse.reverse = ns
  exact List.reverse_reverse ns

end Construction

/-! ## Reading -/

/-- Content is read as nodes, which are put into the box that is open when the running text at its end has become a node. -/
def Content (t : Text) (ns : List Node) : Prop :=
  ∃ tokens : List Token, Reads t tokens ∧ ∀ d : Construction, d.Clear → (tokens.foldl Construction.take d).flushText = d.appendAll ns

/-- Boxes are read as nodes. -/
def Boxes (t : Text) (ns : List Node) : Prop :=
  ∃ tokens : List Token, Reads t tokens ∧ ∀ d : Construction, d.Clear → tokens.foldl Construction.take d = d.appendAll ns

variable {t u : Text} {ns ms : List Node}

theorem Boxes.content (h : Boxes t ns) : Content t ns := by
  obtain ⟨tokens, hreads, hbuild⟩ := h
  refine ⟨tokens, hreads, fun d hd => ?_⟩
  rw [hbuild d hd, (hd.appendAll ns).flushText_eq]

theorem Boxes.nil : Boxes [] [] := ⟨[], Reads.nil, fun _ _ => rfl⟩

theorem Boxes.append (h : Boxes t ns) (h' : Boxes u ms) : Boxes (t ++ u) (ns ++ ms) := by
  obtain ⟨tokens, hreads, hbuild⟩ := h
  obtain ⟨tokens', hreads', hbuild'⟩ := h'
  refine ⟨tokens ++ tokens', hreads.append hreads', fun d hd => ?_⟩
  rw [List.foldl_append, hbuild d hd, hbuild' _ (hd.appendAll ns), Construction.appendAll, Construction.appendAll, Construction.appendAll,
    List.foldl_append]

/-- Boxes one after the other, one for each of some things. -/
theorem Boxes.flatMap {α : Type} {xs : List α} {f : α → Text} {g : α → Node} (h : ∀ x ∈ xs, Boxes (f x) [g x]) :
    Boxes (xs.flatMap f) (xs.map g) := by
  induction xs with
  | nil => exact Boxes.nil
  | cons x xs ih =>
    rw [List.forall_mem_cons] at h
    exact h.1.append (ih h.2)

/-- A box is read as an element with what its content is read as. -/
theorem Content.box (h : Content t ns) {as : List (Text × Text)} (has : ∀ a ∈ as, AttributeName a.1) :
    Boxes (box as t) [boxNode as ns] := by
  obtain ⟨tokens, hreads, hbuild⟩ := h
  refine ⟨[.startTag "div" as] ++ (tokens ++ [.endTag "div"]), ?_, fun d hd => ?_⟩
  · have hstart := reads_startTag tagName_div rfl fun a ha => writesAttribute_box (has a ha)
    have hend : Reads "</div>" [.endTag "div"] := reads_endTag tagName_div
    have hall := hstart.append (hreads.append hend)
    simpa [Markup.box, writtenAttributes] using hall
  · have hopen : d.take (.startTag "div" as) = d.openElement "div" (attributesOf "div" as) := by
      rw [Construction.take, hd.flushText_eq]
      rfl
    have hclear := hd.openElement (attributesOf "div" as)
    have hflush := hbuild _ hclear
    rw [List.singleton_append, List.foldl_cons, hopen, List.foldl_append]
    generalize tokens.foldl Construction.take (d.openElement "div" (attributesOf "div" as)) = d' at hflush ⊢
    have hpassed : d'.passedOver = [] := by
      rw [← Construction.passedOver_flushText, hflush]
      exact (hclear.appendAll ns).passedOver
    show d'.endTag "div" = _
    rw [Construction.endTag, hpassed, List.contains_nil, if_neg Bool.false_ne_true, hflush, Construction.closeNamed_appendAll]
    rfl

/-! ### Texts -/

/-- A text that holds nothing, or not only blanks, so that it is read as it is. -/
def Solid (m : Text) : Prop := m = [] ∨ m.all isMarkupBlank = false

instance (m : Text) : Decidable (Solid m) := inferInstanceAs (Decidable (_ ∨ _))

/-- What a text is read as: nothing, where it holds nothing. -/
def textNodes (m : Text) : List Node := if m.isEmpty then [] else [.text .plain m]

/-- The text of a box around a text. -/
theorem textContent_boxNode (as : List (Text × Text)) (m : Text) : (boxNode as (textNodes m)).textContent = m := by
  rw [boxNode, textNodes, Node.textContent]
  cases m with
  | nil => rfl
  | cons c m => exact List.flatMap_singleton (Node.textOfKind (Node.countsIn "div")) (Node.text .plain (c :: m))

/-- What a box around a text shows is the bare text. -/
theorem innerShown_boxNode (as : List (Text × Text)) (m : Text) : (boxNode as (textNodes m)).innerShown = m := by
  rw [boxNode, textNodes, Node.innerShown]
  cases m with
  | nil => rfl
  | cons c m => exact List.flatMap_singleton Node.shown (Node.text .plain (c :: m))

/-- What spells a text that does not hold only blanks is read as the text. -/
theorem Content.spelled {m : Text} (hs : Spells t m) (hblank : m.all isMarkupBlank = false) : Content t [.text .plain m] := by
  refine ⟨singles m, reads_of_spells hs, fun d hd => ?_⟩
  have hsame : ({ d with pieces := [] } : Construction) = d := by rw [← hd.pieces]
  have hflatten : (m.map fun c => [c]).flatten = m := by rw [← List.flatMap_def, List.flatMap_singleton']
  rw [Construction.foldl_take_singles, hd.pieces, List.append_nil, Construction.flushText, hd.textKind_eq,
    Construction.flush_of_not_blank (by rw [List.reverse_reverse, hflatten]; exact hblank), List.reverse_reverse, hflatten, hsame]
  rfl

/-- A text is read as itself. -/
theorem Content.text {m : Text} (h : Solid m) : Content (escape m) (textNodes m) := by
  rcases h with rfl | hblank
  · exact Boxes.nil.content
  · have hne : m.isEmpty = false := by
      cases m with
      | nil => cases hblank
      | cons => rfl
    rw [textNodes, hne]
    exact Content.spelled (spells_escape m) hblank

/-- A document of boxes is read as the nodes that they are read as. -/
theorem Boxes.parse (h : Boxes t ns) : parse t = .ok ns := by
  obtain ⟨tokens, hreads, hbuild⟩ := h
  have hclear : Construction.empty.Clear := ⟨List.forall_mem_nil _, rfl, rfl⟩
  rw [hreads.parse, nodesOf, hbuild _ hclear, Construction.finish_appendAll]

end Flashcards.Markup
