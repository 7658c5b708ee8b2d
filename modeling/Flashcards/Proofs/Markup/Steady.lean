import Flashcards.Proofs.Markup.ReadBack

/-!
# What is written again as it has been

Running text becomes one node with the running text that is written next to it, and blanks alone become a single blank. So nodes that have been
written are not always written in the same way when they are read again. `steady` says of nodes that the running text in them stays as it is,
with all that is written around it, and that elements which are read without content are written without; what is read of steady nodes is
written as they have been (`exists_parse_of_filled`).

The invariant is about the document under construction when a part of the written text has been read. The text that is not yet a node counts as
it has been written; what the document is written as, with that text, is the part that has been read (`Construction.Writes`).
-/

namespace Flashcards.Markup

open Text

/-- Running text as it becomes a node, in elements that keep their blanks or not. -/
def settleText (keeps : Bool) (content : Text) : Text :=
  if content.all isMarkupBlank && !keeps then
    if content.contains '\n' then ['\n'] else [' ']
  else content

/-- Running text that is not yet a node: as it is read, and as it has been written. -/
structure Pending where
  read : Text
  written : Text

namespace Pending

/-- No running text. -/
def nothing : Pending := ⟨[], []⟩

/-- Running text that becomes a node which is written as the text has been. -/
def settles (keeps : Bool) (r : Pending) : Bool := (if r.read.isEmpty then [] else settleText keeps r.read) == r.written

/-- The running text behind a text, if all that becomes a node there is written as it has been. -/
def afterText? (keeps : Bool) (r : Pending) : TextKind → Text → Option Pending
  | .comment, t | .cdata, t | .instruction, t => if r.settles keeps && settleText keeps t == t then some nothing else none
  | .declaration, _ => if r.settles keeps then some nothing else none
  -- The line feed with which it is written is read as running text.
  | .doctype, t => if r.settles keeps && settleText keeps t == t then some ⟨['\n'], []⟩ else none
  | .plain, t | .script, t | .stylesheet, t | .template, t | .rubyText, t | .rubyParenthesis, t => some ⟨r.read ++ t, r.written ++ t⟩

mutual

/-- The running text behind a node, if all that becomes a node up to there is written as it has been. An element that can have no content
is written as such if it has none. -/
def after? (keeps : Bool) (r : Pending) : Node → Option Pending
  | .text kind t => r.afterText? keeps kind t
  | .element name _ cs =>
    if r.settles keeps && closingName name == name && (cs.isEmpty || !isVoid name) &&
      (afterAll? (keepsBlanks name || keeps) nothing cs).any (settles (keepsBlanks name || keeps))
    then some nothing else none

/-- The running text behind nodes, if all that becomes a node up to there is written as it has been. -/
def afterAll? (keeps : Bool) (r : Pending) : List Node → Option Pending
  | [] => some r
  | n :: ns => (after? keeps r n).bind fun r' => afterAll? keeps r' ns

end

theorem afterText?_of_isRunning {kind : TextKind} (h : kind.isRunning = true) (keeps : Bool) (r : Pending) (t : Text) :
    r.afterText? keeps kind t = some ⟨r.read ++ t, r.written ++ t⟩ := by
  cases kind <;> first | rfl | cases h

end Pending

/-- Nodes whose running text stays when they are written and read again, whose end tags are read as such, and in which elements that can have
no content have none. -/
def steady (ns : List Node) : Bool := (Pending.afterAll? false .nothing ns).any (Pending.settles false)

theorem settleText_of_not_blank (keeps : Bool) {content : Text} {c : Char} (hmem : c ∈ content) (hc : isMarkupBlank c = false) :
    settleText keeps content = content := by
  refine if_neg fun h => ?_
  rw [Bool.and_eq_true] at h
  rw [List.all_eq_true.1 h.1 c hmem] at hc
  cases hc

/-! ## Documents under construction as they are written -/

/-- A start tag as it is written. -/
def writeStartTag (name : Text) (as : Attributes) : Text := '<' :: (name ++ writeAttributes name as ++ ['>'])

/-- Open elements as they are written so far, the innermost first. -/
def writeOpened : List OpenElement → Text
  | [] => []
  | e :: es => writeOpened es ++ writeStartTag e.name e.attributes ++ Node.writeAll false e.children.reverse

theorem writeAll_eq_flatMap (raw : Bool) (ns : List Node) : Node.writeAll raw ns = ns.flatMap (Node.write raw) := by
  induction ns with
  | nil => rfl
  | cons n ns ih => rw [Node.writeAll, ih, List.flatMap_cons]

theorem writeAll_reverse_cons (n : Node) (ns : List Node) :
    Node.writeAll false (n :: ns).reverse = Node.writeAll false ns.reverse ++ Node.write false n := by
  rw [writeAll_eq_flatMap, writeAll_eq_flatMap, List.reverse_cons, List.flatMap_append, List.flatMap_singleton]

theorem escape_append (t u : Text) : escape (t ++ u) = escape t ++ escape u := List.flatMap_append

theorem write_element {name : Text} (hvoid : isVoid name = false) (as : Attributes) (cs : List Node) :
    Node.write false (.element name as cs) = writeStartTag name as ++ Node.writeAll (isRawElement name) cs ++ ("</" ++ name ++ ['>']) := by
  rw [Node.write, hvoid, Bool.and_false, if_neg Bool.false_ne_true]
  simp [writeStartTag]

theorem writeAttributes_asWritten {name : Text} {as : Attributes} (h : AttributesLegible name as) :
    writeAttributes name (asWritten name as) = writeAttributes name as := by
  rw [writeAttributes, writeAttributes, ← asWritten, asWritten_asWritten h, ← asWritten]

theorem writeStartTag_asWritten {name : Text} {as : Attributes} (h : AttributesLegible name as) :
    writeStartTag name (asWritten name as) = writeStartTag name as := by
  rw [writeStartTag, writeAttributes_asWritten h, ← writeStartTag]

namespace Construction

/-- What a document under construction is written as, without the running text that is not yet a node. -/
def written (d : Construction) : Text := Node.writeAll false d.top.reverse ++ writeOpened d.opened

/-- A document under construction of which `out` has been read: elements of the given names are open in it, no end tag is to be passed over,
and with its running text as it has been written it is written as `out`. -/
structure Writes (names : List Text) (r : Pending) (out : Text) (d : Construction) : Prop where
  opened : d.opened.map (·.name) = names
  pieces : d.pieces = (r.read.map fun c => [c]).reverse
  passedOver : d.passedOver = []
  written : d.written ++ escape r.written = out

variable {names : List Text} {r : Pending} {out : Text} {d : Construction}

theorem Writes.settle_eq (h : d.Writes names r out) (content : Text) : d.settle content = settleText (names.any keepsBlanks) content := by
  rw [← h.opened, List.any_map]
  rfl

theorem Writes.pieces_eq (h : d.Writes names .nothing out) : d.pieces = [] := h.pieces

/-- A node is written behind what has been written. -/
theorem Writes.append (h : d.Writes names .nothing out) (n : Node) : (d.append n).Writes names .nothing (out ++ Node.write false n) := by
  obtain ⟨opened, top, pieces, passedOver⟩ := d
  obtain ⟨hopened, hpieces, hpassed, hwritten⟩ := h
  have hout : Construction.written ⟨opened, top, pieces, passedOver⟩ = out := (List.append_nil _).symm.trans hwritten
  cases opened with
  | nil =>
    refine ⟨hopened, hpieces, hpassed, ?_⟩
    rw [← hout]
    show Node.writeAll false (n :: top).reverse ++ [] ++ [] = Node.writeAll false top.reverse ++ [] ++ Node.write false n
    rw [writeAll_reverse_cons]
    simp
  | cons e es =>
    refine ⟨hopened, hpieces, hpassed, ?_⟩
    rw [← hout]
    show Node.writeAll false top.reverse ++ (writeOpened es ++ writeStartTag e.name e.attributes ++ Node.writeAll false (n :: e.children).reverse)
      ++ [] = Node.writeAll false top.reverse ++ (writeOpened es ++ writeStartTag e.name e.attributes ++ Node.writeAll false e.children.reverse)
      ++ Node.write false n
    rw [writeAll_reverse_cons]
    simp

/-- The pieces of one character each are the text. -/
theorem flatten_pieces (t : Text) : (t.map fun c => [c]).reverse.reverse.flatten = t := by
  rw [List.reverse_reverse, ← List.flatMap_def, List.flatMap_singleton']

/-- Running text that settles becomes a node with the text that has been written. -/
theorem Writes.flushText_eq (h : d.Writes names r out) (hsettles : r.settles (names.any keepsBlanks) = true) :
    d.flushText = if r.read.isEmpty then d else Construction.append (.text d.textKind r.written) { d with pieces := [] } := by
  have hwritten := beq_iff_eq.1 hsettles
  unfold Construction.flushText Construction.flush
  rw [h.pieces, List.isEmpty_reverse, List.isEmpty_map, flatten_pieces, h.settle_eq]
  split
  · rfl
  · rename_i hread
    rw [if_neg hread] at hwritten
    rw [hwritten]

theorem Writes.flushText (h : d.Writes names r out) (hsettles : r.settles (names.any keepsBlanks) = true) :
    d.flushText.Writes names .nothing out := by
  rw [h.flushText_eq hsettles]
  split
  · rename_i hread
    have hwritten := beq_iff_eq.1 hsettles
    rw [if_pos hread] at hwritten
    refine ⟨h.opened, ?_, h.passedOver, ?_⟩
    · rw [h.pieces, List.isEmpty_iff.1 hread]
      rfl
    · rw [← h.written, ← hwritten]
      rfl
  · have hcleared : Writes names .nothing d.written { d with pieces := [] } := ⟨h.opened, rfl, h.passedOver, List.append_nil _⟩
    have hnode := hcleared.append (.text d.textKind r.written)
    rw [Node.write, writeText_of_isRunning d.isRunning_textKind, if_neg Bool.false_ne_true, h.written] at hnode
    exact hnode

/-- A text that is a node of its own is written as it has been. -/
theorem Writes.appendText (h : d.Writes names r out) (hsettles : r.settles (names.any keepsBlanks) = true) (kind : TextKind) {t : Text}
    (ht : settleText (names.any keepsBlanks) t = t) : (d.appendText kind t).Writes names .nothing (out ++ writeText false kind t) := by
  have hflush := h.flushText hsettles
  have hcleared : Writes names .nothing out { d.flushText with pieces := [] } := ⟨hflush.opened, rfl, hflush.passedOver, hflush.written⟩
  have hnode := hcleared.append (.text kind t)
  have htext : ({ d.flushText with pieces := [t] } : Construction).settle [t].reverse.flatten = t := by
    rw [List.reverse_singleton, List.flatten_singleton]
    exact (hflush.settle_eq t).trans ht
  show (Construction.append (.text kind (Construction.settle _ [t].reverse.flatten)) { d.flushText with pieces := [] }).Writes _ _ _
  rw [htext]
  exact hnode

/-- Running text is pending behind the running text before it. -/
theorem Writes.singles (h : d.Writes names r out) (t : Text) :
    ((singles t).foldl take d).Writes names ⟨r.read ++ t, r.written ++ t⟩ (out ++ escape t) := by
  rw [foldl_take_singles]
  refine ⟨h.opened, ?_, h.passedOver, ?_⟩
  · show (t.map fun c => [c]).reverse ++ d.pieces = ((r.read ++ t).map fun c => [c]).reverse
    rw [h.pieces, List.map_append, List.reverse_append]
  · show d.written ++ escape (r.written ++ t) = _
    rw [escape_append, ← List.append_assoc, h.written]

/-- A text is read as it has been written. -/
theorem Writes.text (h : d.Writes names r out) {kind : TextKind} {t : Text} {r' : Pending}
    (hr : r.afterText? (names.any keepsBlanks) kind t = some r') :
    ((textTokens kind t).foldl take d).Writes names r' (out ++ writeText false kind t) := by
  have hown : ∀ kind, (if r.settles (names.any keepsBlanks) && settleText (names.any keepsBlanks) t == t then some .nothing else none) =
      some r' → (d.appendText kind t).Writes names r' (out ++ writeText false kind t) := by
    intro kind hr
    obtain ⟨hcond, hsome⟩ := Option.ite_none_right_eq_some.1 hr
    obtain rfl := Option.some.inj hsome
    rw [Bool.and_eq_true, beq_iff_eq] at hcond
    exact h.appendText hcond.1 kind hcond.2
  cases hrunning : kind.isRunning with
  | true =>
    rw [Pending.afterText?_of_isRunning hrunning] at hr
    rw [textTokens_of_isRunning hrunning, writeText_of_isRunning hrunning, if_neg Bool.false_ne_true, ← Option.some.inj hr]
    exact h.singles t
  | false =>
    cases kind with
    | comment => exact hown .comment hr
    | cdata => exact hown .cdata hr
    | instruction => exact hown .instruction hr
    | declaration =>
      obtain ⟨hsettles, hsome⟩ := Option.ite_none_right_eq_some.1 hr
      obtain rfl := Option.some.inj hsome
      have hmark : '?' ∈ t ++ ['?'] := List.mem_append_right t (List.mem_singleton_self _)
      have hread := h.appendText hsettles .instruction (settleText_of_not_blank (names.any keepsBlanks) hmark (by decide))
      have hsame : writeText false .instruction (t ++ ['?']) = writeText false .declaration t := by
        show ("<?" : Text) ++ (t ++ ['?']) ++ ['>'] = ("<?" : Text) ++ t ++ (['?'] ++ ['>'])
        simp only [List.append_assoc]
      rw [hsame] at hread
      exact hread
    | doctype =>
      obtain ⟨hcond, hsome⟩ := Option.ite_none_right_eq_some.1 hr
      obtain rfl := Option.some.inj hsome
      rw [Bool.and_eq_true, beq_iff_eq] at hcond
      have hread := h.appendText hcond.1 .doctype hcond.2
      refine ⟨hread.opened, ?_, hread.passedOver, hread.written⟩
      exact congrArg (['\n'] :: ·) hread.pieces
    | _ => cases hrunning

/-! ## Elements -/

theorem Writes.openElement (h : d.Writes names .nothing out) (name : Text) (as : Attributes) :
    (d.openElement name as).Writes (name :: names) .nothing (out ++ writeStartTag name as) := by
  refine ⟨congrArg (name :: ·) h.opened, h.pieces, h.passedOver, ?_⟩
  rw [← h.written]
  show Node.writeAll false d.top.reverse ++ (writeOpened d.opened ++ writeStartTag name as ++ []) ++ [] = _
  simp [Construction.written, escape, Pending.nothing]

/-- No end tag is passed over. -/
theorem Writes.not_mem_passedOver (h : d.Writes names r out) (name : Text) : name ∉ d.passedOver := by
  rw [h.passedOver]
  exact List.not_mem_nil

/-- An element is closed by its end tag. -/
theorem Writes.endTag {name : Text} (h : d.Writes (name :: names) r out) (hsettles : r.settles ((name :: names).any keepsBlanks) = true)
    (hvoid : isVoid name = false) (hraw : isRawElement name = false) :
    (d.endTag name).Writes names .nothing (out ++ ("</" ++ name ++ ['>'])) := by
  have hflush := h.flushText hsettles
  rw [endTag_of_not_mem (h.not_mem_passedOver name)]
  generalize hd : d.flushText = d' at hflush
  obtain ⟨opened, top, pieces, passedOver⟩ := d'
  cases opened with
  | nil => cases hflush.opened
  | cons e es =>
    obtain ⟨rfl, hopened⟩ := List.cons.inj hflush.opened
    rw [closeNamed_innermost rfl]
    have houter : Writes (es.map (·.name)) .nothing (Construction.written ⟨es, top, pieces, passedOver⟩) ⟨es, top, pieces, passedOver⟩ :=
      ⟨rfl, hflush.pieces, hflush.passedOver, List.append_nil _⟩
    have hclose := houter.append e.close
    have hout : Construction.written ⟨e :: es, top, pieces, passedOver⟩ = out := (List.append_nil _).symm.trans hflush.written
    rw [OpenElement.close, write_element hvoid, hraw] at hclose
    rw [← hopened, ← hout]
    show (Construction.append (.element e.name e.attributes e.children.reverse) ⟨es, top, pieces, passedOver⟩).Writes _ _
      (Node.writeAll false top.reverse ++ (writeOpened es ++ writeStartTag e.name e.attributes ++ Node.writeAll false e.children.reverse) ++ _)
    simpa [Construction.written] using hclose

/-- The end tag of a raw element closes it with what stands in it. -/
theorem Writes.exists_endTag {name : Text} (h : d.Writes names .nothing out) (hraw : isRawElement name = true) (as : Attributes) {content : Text}
    (hsettles : Pending.settles ((name :: names).any keepsBlanks) ⟨content, content⟩ = true) :
    ∃ cs, ((Markup.singles content).foldl take (d.openElement name as)).endTag name = d.append (.element name as cs) ∧
      Node.writeAll true cs = content := by
  have hread := (h.openElement name as).singles content
  have hflush := hread.flushText_eq hsettles
  have hclose : ∀ cs : List Node, Construction.closeNamed name ⟨⟨name, as, cs.reverse⟩ :: d.opened, d.top, [], d.passedOver⟩ =
      d.append (.element name as cs) := by
    intro cs
    rw [closeNamed_innermost (e := ⟨name, as, cs.reverse⟩) rfl]
    show Construction.append (.element name as cs.reverse.reverse) ⟨d.opened, d.top, [], d.passedOver⟩ = _
    rw [List.reverse_reverse, ← h.pieces_eq]
  rw [endTag_of_not_mem (hread.not_mem_passedOver name), hflush, foldl_take_singles]
  cases content with
  | nil =>
    refine ⟨[], ?_, rfl⟩
    rw [← hclose [], ← h.pieces_eq]
    rfl
  | cons c t =>
    obtain ⟨kind, hkind⟩ := exists_textKindWithin? hraw
    refine ⟨[.text kind (c :: t)], ?_, ?_⟩
    · have hplace : Construction.textKind { d.openElement name as with pieces := ((c :: t).map fun c => [c]).reverse ++ d.pieces } = kind := by
        simp only [Construction.textKind, Construction.openElement, List.findSome?_cons, hkind, Option.getD_some]
      rw [← hclose, ← hplace]
      rfl
    · rw [Node.writeAll, Node.write, writeText_of_isRunning (isRunning_of_textKindWithin? hkind)]
      exact List.append_nil _

end Construction

/-- The text in a raw element is running text. -/
theorem pending_of_raw {name : Text} {cs : List Node} (hraw : isRawElement name = true) (hfits : FitsIn name cs) {keeps : Bool} {r : Pending}
    (h : Pending.afterAll? keeps .nothing cs = some r) : r = ⟨Node.writeAll true cs, Node.writeAll true cs⟩ := by
  rcases hfits.raw hraw with rfl | ⟨kind, content, hkind, -, rfl⟩
  · exact (Option.some.inj h).symm
  · have hrunning := isRunning_of_textKindWithin? hkind
    rw [Pending.afterAll?, Pending.after?, Pending.afterText?_of_isRunning hrunning] at h
    rw [Node.writeAll, Node.write, writeText_of_isRunning hrunning, if_pos rfl, Node.writeAll, List.append_nil]
    exact (Option.some.inj h).symm

/-! ## Trees -/

mutual

theorem writes_tokens {names : List Text} {r r' : Pending} {out : Text} {d : Construction} : ∀ {n : Node}, n.Filled ElementLegible →
    Pending.after? (names.any keepsBlanks) r n = some r' → d.Writes names r out →
    ((Node.tokens n).foldl Construction.take d).Writes names r' (out ++ Node.write false n)
  | .text kind t, _, hr, h => h.text hr
  | .element name as cs, hfilled, hr, h => by
    obtain ⟨⟨⟨-, hlegible⟩, hfits⟩, hcs⟩ := Node.filled_element.1 hfilled
    obtain ⟨hcond, hsome⟩ := Option.ite_none_right_eq_some.1 hr
    obtain rfl := Option.some.inj hsome
    rw [Bool.and_eq_true, Bool.and_eq_true, Bool.and_eq_true, beq_iff_eq] at hcond
    obtain ⟨⟨⟨hsettles, hclosing⟩, hcontent⟩, hsteady⟩ := hcond
    have hnone : isVoid name = true → cs = [] := by
      intro hvoid
      simpa [hvoid] using hcontent
    have hflush := h.flushText hsettles
    have hattributes := attributesOf_rawAttributes hlegible
    unfold Node.tokens
    cases hempty : cs.isEmpty && isVoid name with
    | true =>
      rw [Bool.and_eq_true, List.isEmpty_iff] at hempty
      obtain ⟨rfl, hvoid⟩ := hempty
      have hnode := hflush.append (.element name (asWritten name as) [])
      have hwrite : Node.write false (.element name (asWritten name as) []) = Node.write false (.element name as []) := by
        rw [Node.write, Node.write, writeAttributes_asWritten hlegible]
      rw [hwrite] at hnode
      show (d.take (.emptyTag name (rawAttributes name as))).Writes _ _ _
      rcases Construction.take_emptyTag name (rawAttributes name as) d with htake | ⟨-, hpassed, -⟩
      · rw [htake, hattributes]
        exact hnode
      · exact absurd hpassed (hflush.not_mem_passedOver name)
    | false =>
      have hvoid : isVoid name = false := by
        refine Bool.eq_false_iff.2 fun hvoid => ?_
        rw [hvoid, hnone hvoid] at hempty
        cases hempty
      have htake : d.take (.startTag name (rawAttributes name as)) = d.flushText.openElement name (asWritten name as) := by
        rw [Construction.take, hvoid, if_neg Bool.false_ne_true, hattributes]
      obtain ⟨r', hcontent, hsettled⟩ := (Option.any_eq_true _ _).1 hsteady
      rw [if_neg Bool.false_ne_true, List.foldl_cons, List.foldl_append, htake, write_element hvoid, hclosing, ← writeStartTag_asWritten hlegible]
      cases hraw : isRawElement name with
      | true =>
        obtain ⟨content, -, hwrite, htokens⟩ := exists_content_of_raw hraw hfits
        obtain rfl : r' = ⟨content, content⟩ := by
          rw [← hwrite]
          exact pending_of_raw hraw hfits hcontent
        obtain ⟨ds, hend, hds⟩ := hflush.exists_endTag hraw (asWritten name as) hsettled
        have hnode := hflush.append (.element name (asWritten name as) ds)
        rw [← hend, write_element hvoid, hraw, hds, ← htokens, ← hwrite] at hnode
        exact hnode
      | false =>
        have hopen := hflush.openElement name (asWritten name as)
        have hall : Construction.Writes (name :: names) r' _ _ := writes_tokensAll hcs hcontent hopen
        have hend := hall.endTag hsettled hvoid hraw
        simp only [List.append_assoc] at hend ⊢
        exact hend

theorem writes_tokensAll {names : List Text} {r r' : Pending} {out : Text} {d : Construction} : ∀ {ns : List Node},
    (∀ n ∈ ns, n.Filled ElementLegible) → Pending.afterAll? (names.any keepsBlanks) r ns = some r' → d.Writes names r out →
    ((Node.tokensAll ns).foldl Construction.take d).Writes names r' (out ++ Node.writeAll false ns)
  | [], _, hr, h => by
    obtain rfl := Option.some.inj hr
    rw [Node.writeAll, List.append_nil]
    exact h
  | n :: ns, hfilled, hr, h => by
    rw [List.forall_mem_cons] at hfilled
    obtain ⟨r'', hn, hns⟩ := Option.bind_eq_some_iff.1 hr
    rw [Node.tokensAll, List.foldl_append, Node.writeAll, ← List.append_assoc]
    exact writes_tokensAll hfilled.2 hns (writes_tokens hfilled.1 hn h)

end

theorem empty_writes : Construction.empty.Writes [] .nothing [] := ⟨rfl, rfl, rfl, rfl⟩

/-- Nodes that have been written are read, and if they are steady, what is read of them is written as they have been. -/
theorem exists_parse_of_filled {ns : List Node} (hfilled : ∀ n ∈ ns, n.Filled ElementLegible)
    (hends : ∀ m ∈ Node.preorderAll ns, m.endsAsWritten = true) :
    ∃ ms, parse (toMarkup ns) = .ok ms ∧ (steady ns = true → toMarkup ms = toMarkup ns) := by
  refine ⟨nodesOf (Node.tokensAll ns), (Node.reads_writeAll ns hfilled hends).parse, fun hsteady => ?_⟩
  obtain ⟨r, hr, hsettles⟩ := (Option.any_eq_true _ _).1 hsteady
  have hall : Construction.Writes [] r _ _ := writes_tokensAll hfilled hr empty_writes
  have hwrites := hall.flushText hsettles
  have hopened : Construction.opened _ = [] := List.map_eq_nil_iff.1 hwrites.opened
  have hout := hwrites.written
  rw [Construction.written, hopened] at hout
  unfold nodesOf Construction.finish
  dsimp only
  rw [hopened, List.length_nil]
  exact (List.append_nil _).symm.trans ((List.append_nil _).symm.trans hout)

end Flashcards.Markup
