import Flashcards.Markup.Query
import Flashcards.Proofs.Markup.Attributes
import Flashcards.Proofs.Markup.Modes
import Flashcards.Proofs.Markup.Reading

/-!
# What is read from markup

A script or a style sheet is closed by the first end tag that is read in it, and an element that can have no content as soon as it is opened,
unless a slash is passed over like an end tag. So in what is read from markup no element stands in either of them: the first hold at most one
text, of their own kind, in which no end tag of theirs stands, and the others nothing (`FitsIn`). A comment or a declaration holds no end of
its own (`TextShape`). And what is true of every element that is opened, by its name and its attributes, is true of every element in the tree
(`Node.Filled`): each has legible names (`filled_of_parse`).

The invariant says so of the elements that are open; that of a raw element whose content is being read is said of the document without it
(`Construction.Within`).
-/

namespace Flashcards.Markup

open Text

/-- The content that an element of a name has when it is read from markup: none if it can have none and a slash is not passed over, and at
most one text, of its own kind and without its end tag, if it is raw. -/
structure FitsIn (name : Text) (cs : List Node) : Prop where
  void : Construction.slashIsEndTag = false → isVoid name = true → cs = []
  raw : isRawElement name = true →
    cs = [] ∨ ∃ kind content, textKindWithin? name = some kind ∧ Unbroken (closes name) content ∧ cs = [.text kind content]

theorem fitsIn_nil (name : Text) : FitsIn name [] := ⟨fun _ _ => rfl, fun _ => Or.inl rfl⟩

theorem isVoid_of_isRawElement {name : Text} (h : isRawElement name = true) : isVoid name = false := by
  unfold isRawElement at h
  rw [Bool.or_eq_true, beq_iff_eq, beq_iff_eq] at h
  obtain rfl | rfl := h <;> decide

theorem exists_textKindWithin? {name : Text} (h : isRawElement name = true) : ∃ kind, textKindWithin? name = some kind := by
  unfold isRawElement at h
  rw [Bool.or_eq_true, beq_iff_eq, beq_iff_eq] at h
  obtain rfl | rfl := h
  · exact ⟨.script, by decide⟩
  · exact ⟨.stylesheet, by decide⟩

/-- The text of a node of a kind: a comment or a declaration holds no end of its own. -/
def TextShape : TextKind → Text → Prop
  | .comment, content => Unbroken endsComment content
  | .cdata, content => Unbroken (endsSection 2) content
  | .instruction, content | .doctype, content => '>' ∉ content
  | .declaration, _ | .plain, _ | .script, _ | .stylesheet, _ | .template, _ | .rubyText, _ | .rubyParenthesis, _ => True

/-- The kinds of running text. -/
def TextKind.isRunning : TextKind → Bool
  | .comment | .cdata | .instruction | .declaration | .doctype => false
  | .plain | .script | .stylesheet | .template | .rubyText | .rubyParenthesis => true

theorem isRunning_of_textKindWithin? {name : Text} {kind : TextKind} (h : textKindWithin? name = some kind) : kind.isRunning = true := by
  unfold textKindWithin? at h
  repeat' split at h
  all_goals first | (obtain rfl := Option.some.inj h; rfl) | cases h

theorem textShape_of_isRunning {kind : TextKind} (h : kind.isRunning = true) (content : Text) : TextShape kind content := by
  cases kind <;> trivial

/-- A text without a `>` is the text of a node of any kind. -/
theorem textShape_of_not_mem {content : Text} (h : '>' ∉ content) (kind : TextKind) : TextShape kind content := by
  cases kind <;> first | trivial | exact h | exact unbroken_of_not_mem h

/-- What is known of a token by the name and the attributes of the element that it opens. -/
def Token.Opens (E : Text → Attributes → Prop) (token : Token) : Prop :=
  ∀ name as, token = .startTag name as ∨ token = .emptyTag name as → E name (attributesOf name as)

namespace Node

variable {E : Text → Attributes → Prop}

/-- What is known of a node that has been read, where something is known of the name and the attributes of every element. -/
def Sound (E : Text → Attributes → Prop) : Node → Prop
  | .text kind content => TextShape kind content
  | .element name as cs => E name as ∧ FitsIn name cs

/-- It is known of a node and of all nodes within it. -/
def Filled (E : Text → Attributes → Prop) (n : Node) : Prop := ∀ m ∈ preorder n, m.Sound E

theorem filled_text {kind : TextKind} {content : Text} : Filled E (.text kind content) ↔ TextShape kind content := by
  constructor
  · intro h
    exact h _ List.mem_cons_self
  · intro h m hm
    rw [List.mem_singleton.1 hm]
    exact h

/-- What stands in an element and is among nodes stands in one of them. -/
theorem mem_preorderAll {m : Node} {ns : List Node} : m ∈ preorderAll ns ↔ ∃ n ∈ ns, m ∈ preorder n := by
  induction ns with
  | nil => simp [preorderAll]
  | cons n ns ih => simp [preorderAll, ih]

theorem filled_element {name : Text} {as : Attributes} {cs : List Node} :
    Filled E (.element name as cs) ↔ (E name as ∧ FitsIn name cs) ∧ ∀ c ∈ cs, c.Filled E := by
  constructor
  · intro h
    refine ⟨h _ List.mem_cons_self, fun c hc m hm => ?_⟩
    exact h m (List.mem_cons_of_mem _ (mem_preorderAll.2 ⟨c, hc, hm⟩))
  · rintro ⟨hsound, hcs⟩ m hm
    rw [preorder, List.mem_cons] at hm
    rcases hm with rfl | hm
    · exact hsound
    · obtain ⟨c, hc, hmc⟩ := mem_preorderAll.1 hm
      exact hcs c hc m hmc

theorem Filled.child {n c : Node} (h : n.Filled E) (hc : c ∈ n.children) : c.Filled E := by
  cases n with
  | text => cases hc
  | element name as cs => exact (filled_element.1 h).2 c hc

mutual

/-- What is known of all nodes within a node is known of those within a node in it. -/
theorem Filled.of_mem_preorder {m : Node} : ∀ {n : Node}, n.Filled E → m ∈ preorder n → m.Filled E
  | .text kind content, h, hm => by
    rw [List.mem_singleton.1 hm]
    exact h
  | .element name as cs, h, hm => by
    rw [preorder, List.mem_cons] at hm
    rcases hm with rfl | hm
    · exact h
    · exact filled_of_mem_preorderAll (filled_element.1 h).2 hm

theorem filled_of_mem_preorderAll {m : Node} : ∀ {ns : List Node}, (∀ n ∈ ns, n.Filled E) → m ∈ preorderAll ns → m.Filled E
  | [], _, hm => by cases hm
  | n :: ns, h, hm => by
    rw [List.forall_mem_cons] at h
    rcases List.mem_append.1 hm with hm | hm
    · exact h.1.of_mem_preorder hm
    · exact filled_of_mem_preorderAll h.2 hm

end

end Node

open Node

namespace Construction

variable {E : Text → Attributes → Prop}

/-- A document under construction outside of raw elements: what is open may hold anything, and all that has been closed is filled. -/
structure Outside (E : Text → Attributes → Prop) (d : Construction) : Prop where
  opened : ∀ e ∈ d.opened, ((slashIsEndTag = false → isVoid e.name = false) ∧ isRawElement e.name = false ∧ E e.name e.attributes) ∧
    ∀ c ∈ e.children, c.Filled E
  top : ∀ n ∈ d.top, n.Filled E
  passedOver : ∀ name ∈ d.passedOver, isVoid name = true

/-- A document under construction within a raw element: it has been opened last, and only running text has come since, in which no end tag
of it stands. -/
def Within (E : Text → Attributes → Prop) (name : Text) (d : Construction) : Prop :=
  isRawElement name = true ∧ ∃ (before : Construction) (as : Attributes) (pieces : List Text),
    before.Outside E ∧ E name as ∧ Unbroken (closes name) pieces.reverse.flatten ∧
      d = { before.openElement name as with pieces := pieces }

variable {d d' : Construction}

/-- The pieces of running text do not count. -/
theorem Outside.with_pieces (h : d.Outside E) (pieces : List Text) : Outside E { d with pieces := pieces } := ⟨h.opened, h.top, h.passedOver⟩

theorem empty_outside : empty.Outside E := by
  refine ⟨?_, ?_, ?_⟩ <;> intro x hx <;> simp [empty] at hx

theorem Outside.append (h : d.Outside E) {n : Node} (hn : n.Filled E) : (d.append n).Outside E := by
  unfold Construction.append
  split
  · refine ⟨h.opened, ?_, h.passedOver⟩
    intro m hm
    rcases List.mem_cons.1 hm with rfl | hm
    · exact hn
    · exact h.top m hm
  · rename_i e es hes
    refine ⟨?_, h.top, h.passedOver⟩
    intro e' he'
    rcases List.mem_cons.1 he' with rfl | he'
    · have he := h.opened e (hes ▸ List.mem_cons_self)
      refine ⟨he.1, ?_⟩
      intro c hc
      rcases List.mem_cons.1 hc with rfl | hc
      · exact hn
      · exact he.2 c hc
    · exact h.opened e' (hes ▸ List.mem_cons_of_mem e he')

/-- A text that is settled is itself, or a single blank. -/
theorem settle_eq_or (d : Construction) (content : Text) : d.settle content = content ∨ '>' ∉ d.settle content := by
  unfold settle
  split
  · right
    split <;> decide
  · exact .inl rfl

theorem textShape_settle (d : Construction) {kind : TextKind} {content : Text} (h : TextShape kind content) :
    TextShape kind (d.settle content) := by
  rcases d.settle_eq_or content with hself | hnot
  · rw [hself]
    exact h
  · exact textShape_of_not_mem hnot kind

theorem Outside.flush (h : d.Outside E) {kind : TextKind} (hkind : TextShape kind d.pieces.reverse.flatten) : (d.flush kind).Outside E := by
  unfold Construction.flush
  split
  · exact h
  · exact (h.with_pieces []).append (filled_text.2 (d.textShape_settle hkind))

/-- The running text at any place is of a kind of running text. -/
theorem isRunning_textKind (d : Construction) : d.textKind.isRunning = true := by
  unfold textKind
  cases hfound : d.opened.findSome? (textKindWithin? ·.name) with
  | none => rfl
  | some kind =>
    obtain ⟨e, -, he⟩ := List.exists_of_findSome?_eq_some hfound
    exact isRunning_of_textKindWithin? he

theorem Outside.flushText (h : d.Outside E) : d.flushText.Outside E :=
  h.flush (textShape_of_isRunning d.isRunning_textKind _)

theorem Outside.appendText (h : d.Outside E) {kind : TextKind} {content : Text} (hcontent : TextShape kind content) :
    (d.appendText kind content).Outside E := by
  apply (h.flushText.with_pieces [content]).flush
  rw [List.reverse_singleton, List.flatten_singleton]
  exact hcontent

theorem pieces_append (n : Node) (d : Construction) : (d.append n).pieces = d.pieces := by
  unfold Construction.append
  split <;> rfl

theorem pieces_flushText (d : Construction) : d.flushText.pieces = [] := by
  unfold Construction.flushText Construction.flush
  split
  · rename_i h
    exact List.isEmpty_iff.1 h
  · exact pieces_append _ _

/-- Closing an element puts it where it stands, with what it holds. -/
theorem Outside.closeInnermost (h : d.Outside E) : d.closeInnermost.Outside E := by
  unfold Construction.closeInnermost
  split
  · exact h
  · rename_i e es hes
    have he := h.opened e (hes ▸ List.mem_cons_self)
    have hd : ({ d with opened := es } : Construction).Outside E :=
      ⟨fun e' he' => h.opened e' (hes ▸ List.mem_cons_of_mem e he'), h.top, h.passedOver⟩
    refine hd.append (filled_element.2 ⟨⟨he.1.2.2, fun hslash hv => ?_, fun hr => ?_⟩, fun c hc => he.2 c (List.mem_reverse.1 hc)⟩)
    · rw [he.1.1 hslash] at hv
      cases hv
    · rw [he.1.2.1] at hr
      cases hr

theorem Outside.closeCount (h : d.Outside E) (n : Nat) : (d.closeCount n).Outside E := by
  induction n generalizing d with
  | zero => exact h
  | succ n ih => exact ih h.closeInnermost

theorem Outside.endTag (h : d.Outside E) (name : Text) : (d.endTag name).Outside E := by
  unfold Construction.endTag
  split
  · exact ⟨h.opened, h.top, fun name' hm => h.passedOver name' (List.mem_of_mem_erase hm)⟩
  · unfold Construction.closeNamed
    split
    · exact h.flushText.closeCount _
    · exact h.flushText

/-- An element that is closed as soon as it is opened is a node without content. -/
theorem closeInnermost_openElement (name : Text) (attributes : Attributes) (d : Construction) :
    (d.openElement name attributes).closeInnermost = d.append (.element name attributes []) := rfl

/-- A raw element holds what has been read in it when it is closed. -/
theorem Within.close {name : Text} (h : d.Within E name) : d.flushText.closeInnermost.Outside E := by
  obtain ⟨hraw, before, as, pieces, hb, has, hpieces, rfl⟩ := h
  have hclosed : ∀ cs, FitsIn name cs → (∀ c ∈ cs, c.Filled E) →
      (({ before with pieces := [] } : Construction).append (.element name as cs)).Outside E := fun cs hfits hcs =>
    (hb.with_pieces []).append (filled_element.2 ⟨⟨has, hfits⟩, hcs⟩)
  cases pieces with
  | nil => exact hclosed [] (fitsIn_nil name) (fun c hc => by cases hc)
  | cons piece pieces =>
    obtain ⟨kind, hkind⟩ := exists_textKindWithin? hraw
    have hflush : ({ before.openElement name as with pieces := piece :: pieces } : Construction).textKind = kind := by
      simp [textKind, openElement, hkind]
    have hsettled := settle_eq_or { before.openElement name as with pieces := piece :: pieces } (piece :: pieces).reverse.flatten
    unfold Construction.flushText
    rw [hflush]
    refine hclosed [.text kind _] ⟨fun _ hv => ?_, fun _ => Or.inr ⟨kind, _, hkind, ?_, rfl⟩⟩ fun c hc => ?_
    · rw [isVoid_of_isRawElement hraw] at hv
      cases hv
    · rcases hsettled with hself | hnot
      · rw [hself]
        exact hpieces
      · exact unbroken_of_not_mem hnot
    · rw [List.mem_singleton.1 hc]
      exact filled_text.2 (textShape_of_isRunning (isRunning_of_textKindWithin? hkind) _)

/-- The raw element is the innermost that is open, also when the running text in it has become a node. -/
theorem Within.opened_flushText {name : Text} (h : d.Within E name) : ∃ e es, d.flushText.opened = e :: es ∧ e.name = name := by
  obtain ⟨-, before, as, pieces, -, -, -, rfl⟩ := h
  cases pieces with
  | nil => exact ⟨_, _, rfl, rfl⟩
  | cons piece pieces => exact ⟨_, _, rfl, rfl⟩

theorem closeNamed_innermost {e : OpenElement} {es : List OpenElement} (h : d.opened = e :: es) :
    d.closeNamed e.name = d.closeInnermost := by
  unfold closeNamed
  rw [h, List.findIdx?_cons, if_pos (beq_self_eq_true e.name)]
  rfl

/-- The end tag of a raw element closes it. -/
theorem Within.endTag {name : Text} (h : d.Within E name) : (d.endTag name).Outside E := by
  have hclose := h.close
  obtain ⟨e, es, hopened, rfl⟩ := h.opened_flushText
  unfold Construction.endTag
  split
  · rename_i hm
    obtain ⟨hraw, before, as, pieces, hb, -, -, rfl⟩ := h
    have hv := hb.passedOver _ (List.contains_iff_mem.1 hm)
    rw [isVoid_of_isRawElement hraw] at hv
    cases hv
  · rw [closeNamed_innermost hopened]
    exact hclose

/-- Running text within a raw element, in which no end tag comes to stand. -/
theorem Within.text {name : Text} (h : d.Within E name) (heven : Even d.pieces.reverse.flatten) {contents : List Text}
    (hcontents : Unbroken (closes name) contents.flatten) : ((contents.map .data).foldl Construction.take d).Within E name := by
  obtain ⟨hraw, before, as, pieces, hb, has, hpieces, rfl⟩ := h
  refine ⟨hraw, before, as, contents.reverse ++ pieces, hb, has, ?_, foldl_take_data contents _⟩
  rw [List.reverse_append, List.reverse_reverse, List.flatten_append]
  exact hpieces.append heven hcontents

/-- A document under construction in a mode of reading. -/
def InMode (E : Text → Attributes → Prop) : Option Text → Construction → Prop
  | none, d => d.Outside E
  | some name, d => d.Within E name ∧ Even d.pieces.reverse.flatten

/-- An end tag that is not passed over. -/
theorem endTag_of_not_mem {name : Text} (h : name ∉ d.passedOver) : d.endTag name = d.flushText.closeNamed name :=
  if_neg fun hm => h (List.contains_iff_mem.1 hm)

/-- An element is a node without content when its end tag comes at once and is not passed over. -/
theorem endTag_openElement {name : Text} (hpieces : d.pieces = []) (hname : name ∉ d.passedOver) (as : Attributes) :
    (d.openElement name as).endTag name = d.append (.element name as []) := by
  have hflush : (d.openElement name as).flushText = d.openElement name as := by
    unfold Construction.flushText Construction.flush
    rw [if_pos]
    exact List.isEmpty_iff.2 hpieces
  rw [endTag_of_not_mem (d := d.openElement name as) hname, hflush, ← closeInnermost_openElement]
  exact closeNamed_innermost (e := ⟨name, as, []⟩) rfl

/-- An element whose tag ends in a slash is a node without content, or it is left open, and one end tag less is to be passed over. -/
theorem take_emptyTag (name : Text) (written : RawAttributes) (d : Construction) :
    d.take (.emptyTag name written) = d.flushText.append (.element name (attributesOf name written) []) ∨
      slashIsEndTag = true ∧ name ∈ d.flushText.passedOver ∧ d.take (.emptyTag name written) =
        { d.flushText.openElement name (attributesOf name written) with passedOver := d.flushText.passedOver.erase name } := by
  unfold Construction.take
  cases slashIsEndTag with
  | false => exact .inl rfl
  | true =>
    by_cases hname : name ∈ d.flushText.passedOver
    · exact .inr ⟨rfl, hname, if_pos (List.contains_iff_mem.2 hname)⟩
    · exact .inl (endTag_openElement (pieces_flushText d) hname _)

/-- A token that is read outside of raw elements, and opens none. -/
theorem Outside.take (h : d.Outside E) {token : Token} (ht : ∀ name as, token = .startTag name as → isRawElement name = false)
    (hs : token.Shaped) (hE : token.Opens E) : (d.take token).Outside E := by
  have hclosed : ∀ name as, E name as → (d.flushText.append (.element name as [])).Outside E := fun name as has =>
    h.flushText.append (filled_element.2 ⟨⟨has, fitsIn_nil name⟩, fun c hc => by cases hc⟩)
  cases token with
  | data content => exact h.with_pieces _
  | startTag name attributes =>
    have has := hE name attributes (.inl rfl)
    simp only [Construction.take, closeInnermost_openElement]
    split
    · rename_i hv
      refine ⟨(hclosed name _ has).opened, (hclosed name _ has).top, ?_⟩
      intro name' hm
      rcases List.mem_cons.1 hm with rfl | hm
      · exact hv
      · exact h.flushText.passedOver name' hm
    · rename_i hv
      refine ⟨?_, h.flushText.top, h.flushText.passedOver⟩
      intro e he
      rcases List.mem_cons.1 he with rfl | he
      · exact ⟨⟨fun _ => Bool.eq_false_iff.2 hv, ht name attributes rfl, has⟩, fun c hc => by cases hc⟩
      · exact h.flushText.opened e he
  | emptyTag name attributes =>
    have has := hE name attributes (.inr rfl)
    rcases take_emptyTag name attributes d with htake | ⟨hslash, hname, htake⟩
    · rw [htake]
      exact hclosed name _ has
    · rw [htake]
      refine ⟨?_, h.flushText.top, fun name' hm => h.flushText.passedOver name' (List.mem_of_mem_erase hm)⟩
      intro e he
      rcases List.mem_cons.1 he with rfl | he
      · refine ⟨⟨fun hnot => (by rw [hslash] at hnot; cases hnot), Bool.eq_false_iff.2 fun hraw => ?_, has⟩, fun c hc => by cases hc⟩
        have hvoid := h.flushText.passedOver name hname
        rw [isVoid_of_isRawElement hraw] at hvoid
        cases hvoid
      · exact h.flushText.opened e he
  | endTag name => exact h.endTag name
  | comment content => exact h.appendText hs
  | doctype content => exact h.appendText hs
  | instruction content => exact h.appendText hs
  | declaration content => exact h.appendText hs
  | cdata content => exact h.appendText hs

/-- Tokens that turn the mode of reading take the document along. -/
theorem InMode.takeRead {mode mode' : Option Text} (h : InMode E mode d) {read : List Token} (ht : Turns mode read mode')
    (hE : ∀ token ∈ read, token.Opens E) : InMode E mode' (read.foldl Construction.take d) := by
  cases ht with
  | @opens name as hraw hs =>
    have hb : d.flushText.Outside E := Outside.flushText h
    have htake : d.take (.startTag name as) = { d.flushText.openElement name (attributesOf name as) with pieces := [] } := by
      rw [Construction.take, if_neg (by rw [isVoid_of_isRawElement hraw]; exact Bool.false_ne_true), ← pieces_flushText d]
      rfl
    refine ⟨⟨hraw, d.flushText, attributesOf name as, [], hb, hE _ List.mem_cons_self name as (.inl rfl), ?_, htake⟩, ?_⟩
    · exact unbroken_of_not_mem List.not_mem_nil
    · rw [List.foldl_cons, List.foldl_nil, htake]
      exact .inl rfl
  | @content name before fake hfake =>
    obtain ⟨hwithin, heven⟩ := h
    refine ⟨hwithin.text heven ?_, ?_⟩
    · rw [List.flatten_append, flatten_textPieces, List.flatten_singleton]
      exact hfake
    · rw [foldl_take_data, List.reverse_append, List.reverse_reverse]
      exact .inr ⟨(d.pieces.reverse ++ textPieces before).flatten ++ fake, by simp⟩
  | @closes name before hbefore =>
    obtain ⟨hwithin, heven⟩ := h
    rw [List.foldl_append]
    exact (hwithin.text heven (by rw [flatten_textPieces]; exact hbefore)).endTag
  | markup ht hs => exact Outside.take h ht hs (hE _ List.mem_cons_self)

theorem InMode.takeAll {mode mode' : Option Text} {tokens : List Token} (h : InMode E mode d) (ht : Follows mode tokens mode')
    (hE : ∀ token ∈ tokens, token.Opens E) : InMode E mode' (tokens.foldl Construction.take d) := by
  induction ht generalizing d with
  | nil => exact h
  | cons ht _ ih =>
    rw [List.foldl_append]
    exact ih (h.takeRead ht fun token hm => hE token (List.mem_append_left _ hm)) fun token hm => hE token (List.mem_append_right _ hm)

/-- When the document is done, all in it is filled. -/
theorem InMode.finish {mode : Option Text} (h : InMode E mode d) : ∀ n ∈ d.finish, n.Filled E := by
  have hclosed : (d.flushText.closeCount d.flushText.opened.length).Outside E := by
    cases mode with
    | none => exact (Outside.flushText h).closeCount _
    | some name =>
      have hw : d.Within E name := h.1
      obtain ⟨e, es, hopened, -⟩ := hw.opened_flushText
      rw [hopened]
      exact hw.close.closeCount es.length
  intro n hn
  exact hclosed.top n (List.mem_reverse.1 hn)

end Construction

/-- What is true of every element that the tokens read from a text open is true of every element in the nodes that they make, and every element
has content that fits in it. -/
theorem filled_of_tokens {E : Text → Attributes → Prop} {t : Text} {tokens : List Token} (h : Lexer.tokens t = .ok tokens)
    (hE : ∀ token ∈ tokens, token.Opens E) : ∀ n ∈ nodesOf tokens, n.Filled E := by
  obtain ⟨mode, hmode⟩ := Lexer.tokens_follows h
  have hempty : Construction.InMode E none Construction.empty := Construction.empty_outside
  exact (hempty.takeAll hmode hE).finish

/-- The names of an element are legible. -/
def ElementLegible (name : Text) (as : Attributes) : Prop := TagName name ∧ AttributesLegible name as

/-- Every element that a token opens has legible names. -/
theorem opens_of_follows {mode mode' : Option Text} {tokens : List Token} (h : Follows mode tokens mode') :
    ∀ token ∈ tokens, token.Opens ElementLegible := by
  have htag : ∀ {name as}, NamesLegible name as → ElementLegible name (attributesOf name as) := fun hnames =>
    ⟨hnames.1, attributesLegible_attributesOf _ hnames.2⟩
  have hdata : ∀ contents : List Text, ∀ token ∈ contents.map Token.data, token.Opens ElementLegible := by
    intro contents token hm
    obtain ⟨content, -, rfl⟩ := List.mem_map.1 hm
    rintro name as (heq | heq) <;> cases heq
  induction h with
  | nil => exact List.forall_mem_nil _
  | cons ht _ ih =>
    refine List.forall_mem_append.2 ⟨?_, ih⟩
    cases ht with
    | opens hraw hs =>
      refine List.forall_mem_singleton.2 ?_
      rintro name as (heq | heq)
      · obtain ⟨rfl, rfl⟩ := Token.startTag.inj heq
        exact htag hs
      · cases heq
    | content _ => exact hdata _
    | closes _ =>
      refine List.forall_mem_append.2 ⟨hdata _, List.forall_mem_singleton.2 ?_⟩
      rintro name as (heq | heq) <;> cases heq
    | markup _ hs =>
      refine List.forall_mem_singleton.2 ?_
      rintro name as (rfl | rfl) <;> exact htag hs

/-- In what is read from markup every element has content that fits in it. -/
theorem filled_of_parse {t : Text} {nodes : List Node} (h : parse t = .ok nodes) : ∀ n ∈ nodes, n.Filled ElementLegible := by
  obtain ⟨tokens, htokens, rfl⟩ := exists_of_map_eq_ok h
  obtain ⟨mode, hmode⟩ := Lexer.tokens_follows htokens
  exact filled_of_tokens htokens (opens_of_follows hmode)

end Flashcards.Markup
