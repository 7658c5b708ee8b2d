import Flashcards.Card
import Flashcards.Note
import Flashcards.Proofs.Markup.Steady

/-!
# Raw cards

A raw card shows its note as a table. `Card.rows?` and `Card.chips?` are what a reader sees of it: the heading and the markup of each row, and
the tags. It has a row for each field, in order, under its name or its number, with the markup of the field as it is (`Card.raw_shows`).

The markup of a field is read to be shown, so this is so where it is read as what the element of the field holds, and that is written again as it
has been. A field is what its element holds as markup, but the texts that stand directly in it are bare (`Node.innerShown`). So where one of them
has a character that is written as a reference elsewhere, the field is read as something else (`Card.raw_rereads`).
-/

namespace Flashcards

open Text Markup Markup.Node

namespace Note

/-- A child of the element of a field as it stands in the field: a text is running text, whatever it has been. -/
def bared : Node → Node
  | .text _ t => .text .plain t
  | n => n

/-- Whether a child of the element of a field is no text in which a character stands that is written as a reference. -/
def isUnescaped : Node → Bool
  | .text _ t => escape t == t
  | _ => true

/-- Whether the markup of a field is that of what its element holds: no text that stands directly in it has a character that is written as a
reference, and no declaration in it ends before its end. -/
def isTransparent (box : Node) : Bool := box.children.all isUnescaped && box.descendants.all endsAsWritten

/-- Whether what the element of a field holds is written as it has been when its markup is read again. -/
def isSteady (box : Node) : Bool := steady (box.children.map bared)

theorem innerShown_eq {box : Node} (h : ∀ c ∈ box.children, isUnescaped c = true) :
    box.innerShown = Markup.toMarkup (box.children.map bared) := by
  unfold innerShown Markup.toMarkup
  rw [writeAll_eq_flatMap, List.flatMap_map, List.flatMap_def, List.flatMap_def]
  refine congrArg List.flatten (List.map_congr_left fun c hc => ?_)
  cases c with
  | text kind t => exact (beq_iff_eq.1 (h _ hc)).symm
  | element name as cs => rfl

/-- The markup of such a field is read, and where what the field holds is steady, it is written as it has been. -/
theorem exists_fragment {box : Node} (hfilled : box.Filled ElementLegible) (h : isTransparent box = true) :
    ∃ content, Page.fragment box.innerShown = .ok content ∧ (isSteady box = true → writeAll false content = box.innerShown) := by
  unfold isTransparent at h
  rw [Bool.and_eq_true, List.all_eq_true, List.all_eq_true] at h
  have hchild : ∀ c ∈ box.children, (bared c).Filled ElementLegible ∧ ∀ m ∈ preorder (bared c), m.endsAsWritten = true := by
    intro c hc
    cases c with
    | text kind t =>
      refine ⟨filled_text.2 trivial, fun m hm => ?_⟩
      rw [List.mem_singleton.1 hm]
      rfl
    | element name as cs =>
      exact ⟨hfilled.child hc, fun m hm => h.2 m (mem_preorderAll.2 ⟨_, hc, hm⟩)⟩
  have hends : ∀ m ∈ preorderAll (box.children.map bared), m.endsAsWritten = true := by
    intro m hm
    obtain ⟨n, hn, hmn⟩ := mem_preorderAll.1 hm
    obtain ⟨c, hc, rfl⟩ := List.mem_map.1 hn
    exact (hchild c hc).2 m hmn
  rw [innerShown_eq h.1]
  obtain ⟨content, hparse, hwrite⟩ := exists_parse_of_filled
    (List.forall_mem_map.2 fun c hc => (hchild c hc).1) hends
  refine ⟨content, ?_, hwrite⟩
  rw [Page.fragment, hparse]
  rfl

end Note

namespace Card

/-! ## What a reader sees -/

/-- The heading and the markup of a row. -/
def rowOf? (row : Node) : Option (Text × Text) :=
  match row.children with
  | [heading, cell] =>
    if row.isNamed "tr" && heading.isNamed "th" && cell.isNamed "td" then some (heading.textContent, cell.innerMarkup) else none
  | _ => none

/-- The table of a raw card. -/
def table? (c : Card) : Option Node := (c.element.childWithClass? "card-raw").bind fun shown => shown.children.find? (isNamed "table")

/-- The rows of the table of a card. -/
def rows? (c : Card) : Option (List (Text × Text)) := c.table?.bind fun table => table.children.mapM rowOf?

/-- The tags that a card shows. -/
def chips? (c : Card) : Option (List Text) :=
  (c.element.childWithClass? "card-tags").map fun bar => (bar.childrenWithClass "tag").map textContent

/-! ## Rows -/

theorem rowOf?_row (t : Text) (content : List Node) :
    rowOf? (Page.element "tr" [] [Page.element "th" [] [Page.plain t], Page.element "td" [] content]) = some (t, writeAll false content) := by
  have hname : isRawElement "td" = false := by decide
  have htext : (Page.element "th" [] [Page.plain t]).textContent = t := List.append_nil t
  have hinner : (Page.element "td" [] content).innerMarkup = writeAll false content := congrArg (writeAll · content) hname
  rw [← hinner]
  exact congrArg some (congrArg (·, _) htext)

/-- The rows of fields show their markup as it is written when it has been read. -/
theorem rows_of_rowsFrom {names : List Text} {fields : List Text} {i : Nat} {nodes : List Node} (h : rowsFrom names i fields = .ok nodes) :
    ∃ rows, nodes.mapM rowOf? = some rows ∧ rows.length = fields.length ∧ ∀ j row, rows[j]? = some row → row.1 = heading names (i + j) ∧
      ∃ field content, fields[j]? = some field ∧ Page.fragment field = .ok content ∧ row.2 = writeAll false content := by
  induction fields generalizing i nodes with
  | nil =>
    obtain rfl := Except.ok.inj h
    exact ⟨[], rfl, rfl, fun j row hrow => by cases hrow⟩
  | cons field fields ih =>
    rw [rowsFrom] at h
    cases hfragment : Page.fragment field with
    | error failure =>
      rw [hfragment] at h
      cases h
    | ok content =>
      cases hrest : rowsFrom names (i + 1) fields with
      | error failure =>
        rw [hfragment, hrest] at h
        cases h
      | ok rest =>
        rw [hfragment, hrest] at h
        obtain rfl := Except.ok.inj h
        obtain ⟨rows, hrows, hlength, hrow⟩ := ih hrest
        refine ⟨(heading names i, writeAll false content) :: rows, ?_, congrArg (· + 1) hlength, ?_⟩
        · rw [List.mapM_cons, rowOf?_row, hrows]
          rfl
        · rintro (_ | j) row hj
          · obtain rfl := Option.some.inj hj
            exact ⟨rfl, field, content, rfl, hfragment, rfl⟩
          · obtain ⟨hheading, hfield⟩ := hrow j row hj
            rw [Nat.add_right_comm] at hheading
            exact ⟨hheading, hfield⟩

theorem exists_rowsFrom (names : List Text) {fields : List Text} (h : ∀ field ∈ fields, ∃ content, Page.fragment field = .ok content)
    (i : Nat) : ∃ nodes, rowsFrom names i fields = .ok nodes := by
  induction fields generalizing i with
  | nil => exact ⟨[], rfl⟩
  | cons field fields ih =>
    rw [List.forall_mem_cons] at h
    obtain ⟨⟨content, hcontent⟩, hfields⟩ := h
    obtain ⟨nodes, hnodes⟩ := ih hfields (i + 1)
    rw [rowsFrom, hcontent, hnodes]
    exact ⟨_, rfl⟩

/-! ## Cards -/

variable {note : Note} {model : Option NoteModel} {c : Card}

theorem exists_of_raw (h : raw note model = .ok c) : ∃ nodes, rowsFrom ((model.map NoteModel.fieldNames).getD []) 0 note.fields = .ok nodes ∧
    c = ⟨containerOf (Page.classed "div" "card-render card-raw" [Page.element "table" [] nodes]) note, none⟩ := by
  unfold raw at h
  cases hrows : rowsFrom ((model.map NoteModel.fieldNames).getD []) 0 note.fields with
  | error failure =>
    rw [hrows] at h
    cases h
  | ok nodes =>
    rw [hrows] at h
    exact ⟨nodes, rfl, (Except.ok.inj h).symm⟩

/-- The texts of chips that are made from tags are these tags. -/
theorem textContent_chips (tags : List Text) :
    ((tags.map fun t => Page.classed "span" "tag" [Page.plain t]).filter (hasClass "tag")).map textContent = tags := by
  have hchip : ∀ t : Text, (Page.classed "span" "tag" [Page.plain t]).hasClass "tag" = true := fun t => by
    show (words "tag").contains "tag" = true
    decide +kernel
  rw [List.filter_eq_self.2 (List.forall_mem_map.2 fun t _ => hchip t), List.map_map]
  exact (List.map_congr_left fun t _ => List.append_nil t).trans (List.map_id' tags)

theorem chips?_of_raw (h : raw note model = .ok c) : c.chips? = if note.tags = [] then none else some note.tags := by
  obtain ⟨nodes, -, rfl⟩ := exists_of_raw h
  have hshown : (Page.classed "div" "card-render card-raw" [Page.element "table" [] nodes]).hasClass "card-tags" = false := by
    show (words "card-render card-raw").contains "card-tags" = false
    decide +kernel
  unfold chips? childWithClass?
  show Option.map _ (List.find? _ (_ :: tagBar note)) = _
  rw [List.find?_cons_of_neg (by rw [hshown]; exact Bool.false_ne_true), tagBar]
  cases htags : note.tags with
  | nil => rfl
  | cons tag tags =>
    have hbar : ∀ cs, (Page.classed "div" "card-tags" cs).hasClass "card-tags" = true := fun cs => by
      show (words "card-tags").contains "card-tags" = true
      decide +kernel
    rw [List.isEmpty_cons, if_neg Bool.false_ne_true, List.find?_cons_of_pos (hbar _), Option.map_some, if_neg (List.cons_ne_nil tag tags)]
    exact congrArg some (textContent_chips (tag :: tags))

theorem rows?_of_raw (h : raw note model = .ok c) :
    ∃ rows, c.rows? = some rows ∧ rows.length = note.fields.length ∧ ∀ i row, rows[i]? = some row →
      row.1 = (model.bind fun m => m.fieldNames[i]?).getD ("Field " ++ ofNat (i + 1)) ∧
        ∃ field content, note.fields[i]? = some field ∧ Page.fragment field = .ok content ∧ row.2 = writeAll false content := by
  obtain ⟨nodes, hnodes, rfl⟩ := exists_of_raw h
  obtain ⟨rows, hrows, hlength, hrow⟩ := rows_of_rowsFrom hnodes
  have hshown : (Page.classed "div" "card-render card-raw" [Page.element "table" [] nodes]).hasClass "card-raw" = true := by
    show (words "card-render card-raw").contains "card-raw" = true
    decide +kernel
  refine ⟨rows, ?_, hlength, fun i row hi => ?_⟩
  · unfold rows? table? childWithClass?
    show Option.bind (Option.bind (List.find? _ (_ :: tagBar note)) _) _ = _
    rw [List.find?_cons_of_pos hshown]
    exact hrows
  · obtain ⟨hheading, hfield⟩ := hrow i row hi
    refine ⟨?_, hfield⟩
    rw [hheading, Nat.zero_add, heading]
    cases model <;> rfl

end Card

namespace Note

/-- The elements of the cards in a document. -/
def cardsOf (nodes : List Node) : List Node := (((rootOf nodes).findClass? "cards").map (childrenWithClass "card")).getD []

theorem ofNodes_eq (nodes : List Node) : ofNodes nodes = (cardsOf nodes).map ofCard := by
  unfold ofNodes cardsOf
  cases (rootOf nodes).findClass? "cards" <;> rfl

theorem filled_of_mem_cardsOf {E : Text → Attributes → Prop} {nodes : List Node} (h : ∀ n ∈ nodes, n.Filled E) {card : Node}
    (hcard : card ∈ cardsOf nodes) : card.Filled E := by
  unfold cardsOf at hcard
  cases hfind : (rootOf nodes).findClass? "cards" with
  | none =>
    rw [hfind] at hcard
    cases hcard
  | some container =>
    rw [hfind] at hcard
    exact (filled_of_mem_preorderAll h (List.mem_of_find?_eq_some hfind)).child (List.mem_filter.1 hcard).1

end Note

/-- A document that has notes has nodes, from which they are read. -/
theorem NotesDocument.exists_nodes {d : NotesDocument} {notes : List Note} (h : d.notes = .ok notes) :
    ∃ t nodes, parse t = .ok nodes ∧ d.nodes = .ok nodes ∧ notes = Note.ofNodes nodes := by
  rw [NotesDocument.notes] at h
  rw [NotesDocument.nodes]
  cases ht : d.toText with
  | error failure =>
    rw [ht] at h
    cases h
  | ok t =>
    rw [ht] at h
    obtain ⟨nodes, hnodes, rfl⟩ := exists_of_map_eq_ok (show (documentNodes t).map Note.ofNodes = .ok notes from h)
    exact ⟨t, nodes, eq_ok_of_mapError hnodes, hnodes, rfl⟩

namespace Card

/-- What the raw card of a note shows whose fields are read from elements. It is made if they are transparent. It shows the tags, if there are
any, and it has a row for each field, in order: under its name in the model, or else its number, and with its markup as it is if its element is
transparent and steady. -/
structure ShowsFields (note : Note) (boxes : List Node) (model : Option NoteModel) : Prop where
  made : (∀ box ∈ boxes, Note.isTransparent box = true) → ∃ c, raw note model = .ok c
  chips : ∀ c, raw note model = .ok c → c.chips? = if note.tags = [] then none else some note.tags
  rows : ∀ c, raw note model = .ok c → ∃ rows, c.rows? = some rows ∧ rows.length = note.fields.length ∧ ∀ i row, rows[i]? = some row →
    row.1 = (model.bind fun m => m.fieldNames[i]?).getD ("Field " ++ ofNat (i + 1)) ∧
      ∀ box, boxes[i]? = some box → Note.isTransparent box = true → Note.isSteady box = true → note.fields[i]? = some row.2

/-- Each note in a document, which is given as text or as bytes, is shown by its raw card as it is read from the element of its card. -/
theorem raw_shows {d : NotesDocument} {notes : List Note} (h : d.notes = .ok notes) :
    ∃ nodes, d.nodes = .ok nodes ∧ notes = (Note.cardsOf nodes).map Note.ofCard ∧
      ∀ card ∈ Note.cardsOf nodes, ∀ model, ShowsFields (Note.ofCard card) (card.childrenWithClass "field") model := by
  obtain ⟨t, nodes, hparse, hnodes, rfl⟩ := NotesDocument.exists_nodes h
  refine ⟨nodes, hnodes, Note.ofNodes_eq nodes, fun card hcard model => ?_⟩
  have hfilled := filled_of_parse hparse
  have hfield : ∀ box ∈ card.childrenWithClass "field", Note.isTransparent box = true →
      ∃ content, Page.fragment box.innerShown = .ok content ∧ (Note.isSteady box = true → writeAll false content = box.innerShown) := by
    intro box hbox htransparent
    exact Note.exists_fragment ((Note.filled_of_mem_cardsOf hfilled hcard).child (List.mem_filter.1 hbox).1) htransparent
  constructor
  · intro htransparent
    have hfragments : ∀ field ∈ (Note.ofCard card).fields, ∃ content, Page.fragment field = .ok content := by
      intro field hm
      obtain ⟨box, hbox, rfl⟩ := List.mem_map.1 hm
      obtain ⟨content, hcontent, -⟩ := hfield box hbox (htransparent box hbox)
      exact ⟨content, hcontent⟩
    obtain ⟨rows, hrows⟩ := exists_rowsFrom ((model.map NoteModel.fieldNames).getD []) hfragments 0
    unfold raw
    rw [hrows]
    exact ⟨_, rfl⟩
  · exact fun c hc => chips?_of_raw hc
  · intro c hc
    obtain ⟨rows, hrows, hlength, hrow⟩ := rows?_of_raw hc
    refine ⟨rows, hrows, hlength, fun i row hi => ?_⟩
    obtain ⟨hheading, field, content, hfieldAt, hcontent, hmarkup⟩ := hrow i row hi
    refine ⟨hheading, fun box hbox htransparent hsteady => ?_⟩
    obtain ⟨content', hcontent', hwrite⟩ := hfield box (List.mem_of_getElem? hbox) htransparent
    have hshown : (Note.ofCard card).fields[i]? = some box.innerShown := by
      show ((card.childrenWithClass "field").map innerShown)[i]? = _
      rw [List.getElem?_map, hbox]
      rfl
    obtain rfl : field = box.innerShown := Option.some.inj (hfieldAt.symm.trans hshown)
    obtain rfl : content' = content := Except.ok.inj (hcontent'.symm.trans hcontent)
    rw [hshown, hmarkup, hwrite hsteady]

/-- A document of one card, with its fields as they are written. -/
def cardWith (fields : List Text) : Text :=
  let box (name content : Text) : Text := "<div class=" ++ name ++ ">" ++ content ++ "</div>"
  box "cards" (box "card" (fields.flatMap (box "field")))

/-- A document with elements that are not closed and an end tag that closes nothing, and with a reference and a comment in an element. -/
def unclosed : NotesDocument := .text (cardWith ["a <b>c &lt; d<!--e--><br></x> f<p>g", "h"])

/-- Both fields of its note are shown as they are. -/
theorem raw_shows_unclosed :
    ∃ notes, unclosed.notes = .ok notes ∧ ∃ note ∈ notes, ∃ c rows,
      raw note none = .ok c ∧ c.rows? = some rows ∧ note.fields.length = 2 ∧ rows.map Prod.snd = note.fields := by
  have hread : (unclosed.nodes.toOption.map fun nodes =>
      (Note.cardsOf nodes).map fun card => (card.childrenWithClass "field").map fun box => Note.isTransparent box && Note.isSteady box) =
        some [[true, true]] := by decide +kernel
  obtain ⟨nodes, hnodes, hfields⟩ := Option.map_eq_some_iff.1 hread
  obtain ⟨card, hcards, hboxes⟩ := List.map_eq_singleton_iff.1 hfields
  have hnotes : unclosed.notes = .ok (Note.ofNodes nodes) := congrArg (Except.map Note.ofNodes) (eq_ok_of_toOption hnodes)
  obtain ⟨nodes', hnodes', -, hshows⟩ := raw_shows hnotes
  obtain rfl : nodes' = nodes := Except.ok.inj (hnodes'.symm.trans (eq_ok_of_toOption hnodes))
  have hcard : card ∈ Note.cardsOf nodes' := by
    rw [hcards]
    exact List.mem_singleton_self card
  have hlength : (Note.ofCard card).fields.length = 2 := by
    have hboth := congrArg List.length hboxes
    rw [List.length_map] at hboth
    exact (List.length_map _).trans hboth
  have hshown : ∀ box ∈ card.childrenWithClass "field", Note.isTransparent box = true ∧ Note.isSteady box = true := by
    intro box hbox
    have hmem := List.mem_map_of_mem (f := fun box => Note.isTransparent box && Note.isSteady box) hbox
    rw [hboxes] at hmem
    simpa using hmem
  obtain ⟨c, hc⟩ := (hshows card hcard none).made fun box hbox => (hshown box hbox).1
  obtain ⟨rows, hrows, hsame, hrow⟩ := (hshows card hcard none).rows c hc
  refine ⟨_, hnotes, Note.ofCard card, ?_, c, rows, hc, hrows, hlength, ?_⟩
  · rw [Note.ofNodes_eq]
    exact List.mem_map_of_mem hcard
  · refine List.ext_getElem? fun i => ?_
    rw [List.getElem?_map]
    cases hi : rows[i]? with
    | none => exact (List.getElem?_eq_none (hsame ▸ List.getElem?_eq_none_iff.1 hi)).symm
    | some row =>
      obtain ⟨-, hmarkup⟩ := hrow i row hi
      have hlt : i < (card.childrenWithClass "field").length := by
        obtain ⟨hlt, -⟩ := List.getElem?_eq_some_iff.1 hi
        rw [hsame] at hlt
        exact Nat.lt_of_lt_of_eq hlt (List.length_map _)
      obtain ⟨htransparent, hsteady⟩ := hshown _ (List.getElem_mem hlt)
      exact (hmarkup _ (List.getElem?_eq_getElem hlt) htransparent hsteady).symm

/-- The markup of a field in whose text a tag is spelled is read as that tag, and that of one in which a section is spelled is rejected. -/
theorem raw_rereads :
    (∃ note c, readNotes (cardWith ["&lt;b&gt;x"]) = .ok [note] ∧ note.fields = [("<b>x" : Text)] ∧
      raw note none = .ok c ∧ c.rows? = some [(("Field 1" : Text), ("<b>x</b>" : Text))]) ∧
    ∃ note failure, readNotes (cardWith ["&lt;![x["]) = .ok [note] ∧ raw note none = .error failure := by
  constructor
  · have hnote : (readNotes (cardWith ["&lt;b&gt;x"])).toOption = some [⟨[], [("<b>x" : Text)], [], []⟩] := by decide +kernel
    have hrows : ((raw ⟨[], [("<b>x" : Text)], [], []⟩ none).toOption.map rows?) = some (some [(("Field 1" : Text), ("<b>x</b>" : Text))]) := by
      decide +kernel
    obtain ⟨c, hc, hshown⟩ := Option.map_eq_some_iff.1 hrows
    exact ⟨_, c, eq_ok_of_toOption hnote, rfl, eq_ok_of_toOption hc, hshown⟩
  · have hnote : (readNotes (cardWith ["&lt;![x["])).toOption = some [⟨[], [("<![x[" : Text)], [], []⟩] := by decide +kernel
    have hrejected : (raw ⟨[], [("<![x[" : Text)], [], []⟩ none).toOption = none := by decide +kernel
    cases hraw : raw ⟨[], [("<![x[" : Text)], [], []⟩ none with
    | ok c =>
      rw [hraw] at hrejected
      cases hrejected
    | error failure => exact ⟨_, failure, eq_ok_of_toOption hnote, hraw⟩

end Card

end Flashcards
