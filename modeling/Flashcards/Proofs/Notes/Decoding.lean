import Mathlib.Data.List.Basic
import Flashcards.Note
import Flashcards.Proofs.Json.Objects
import Flashcards.Proofs.Markup.Boxes

/-!
# Notes are read as they were written

A `CardSource` is what a card of a notes document is written from. A document that is written from cards is read as their notes, one for each
card, in order (`CardSource.readNotes_document`): what is written as a text or a value is read as itself, whatever characters it has.

The fields come back as the bare texts that they were written from, and not as the markup that stands in the document
(`CardSource.notes_decoded`).
-/

namespace Flashcards

open Text Markup Markup.Node

/-- Words with a space between each two are read as they are. -/
theorem solid_joinWith {ts : List Text} (h : ∀ t ∈ ts, IsWord t) : Solid (joinWith [' '] ts) := by
  cases ts with
  | nil => exact Or.inl rfl
  | cons t ts =>
    obtain ⟨hne, hword⟩ := h t List.mem_cons_self
    obtain ⟨c, cs, rfl⟩ := List.exists_cons_of_ne_nil hne
    have hc : isMarkupBlank c = false := by
      refine Bool.eq_false_iff.2 fun hblank => ?_
      exact Bool.false_ne_true ((hword c List.mem_cons_self).symm.trans (isBlank_of_isMarkupBlank hblank))
    refine Or.inr ?_
    cases ts with
    | nil => rw [joinWith, List.all_cons, hc, Bool.false_and]
    | cons u us =>
      rw [joinWith, List.cons_append, List.cons_append, List.all_cons, hc, Bool.false_and]
      exact fun h => (by cases h)

/-! ## Cards as they are written -/

/-- What a card of a notes document is written from: some of the attributes of a note, texts for its fields, its tags, which are words, each
once, and texts for its extra values, each with a name of its own. -/
structure CardSource where
  guid : Option Text
  modelUuid : Option Text
  deckName : Option Text
  fields : List Text
  tags : List Text
  extra : List (Text × Text)
  fields_solid : ∀ t ∈ fields, Solid t
  tags_words : ∀ t ∈ tags, IsWord t
  tags_nodup : tags.Nodup
  extra_solid : ∀ e ∈ extra, Solid e.2
  extra_named : ∀ e ∈ extra, e.1 ≠ []
  extra_nodup : (extra.map (·.1)).Nodup

namespace CardSource

/-- The attribute of a class. -/
def ofClass (name : Text) : Text × Text := ("class", name)

/-- The attributes of a card that it shares with its note. -/
def attributes (c : CardSource) : List (Text × Text) :=
  (c.guid.map (("guid" : Text), ·)).toList ++ (c.modelUuid.map (("note_model_uuid" : Text), ·)).toList ++
    (c.deckName.map (("deck_name" : Text), ·)).toList

/-- A field as it is written. -/
def field (t : Text) : Text := box [ofClass "field"] (escape t)

/-- The tags as they are written, if there are any. -/
def tagsWritten (tags : List Text) : Text := if tags.isEmpty then [] else box [ofClass "tags"] (escape (joinWith [' '] tags))

/-- An extra value as it is written. -/
def extraWritten (e : Text × Text) : Text := box [ofClass "extra", ("key", e.1)] (escape e.2)

/-- A card as it is written. -/
def written (c : CardSource) : Text :=
  box (ofClass "card" :: c.attributes) (c.fields.flatMap field ++ tagsWritten c.tags ++ c.extra.flatMap extraWritten)

/-- A notes document: cards as they are written, one after the other in one box. -/
def document (cards : List CardSource) : Text := box [ofClass "cards"] (cards.flatMap written)

/-- The note of a card: its fields are the bare texts. -/
def note (c : CardSource) : Note := ⟨c.attributes, c.fields, c.tags, c.extra.map fun e => (e.1, Note.decodeExtra e.2)⟩

/-- The note of a card with its fields as they are written. -/
def noteAsWritten (c : CardSource) : Note := { c.note with fields := c.fields.map escape }

/-! ## What they are read as -/

def fieldNode (t : Text) : Node := boxNode [ofClass "field"] (textNodes t)

def tagNodes (tags : List Text) : List Node :=
  if tags.isEmpty then [] else [boxNode [ofClass "tags"] (textNodes (joinWith [' '] tags))]

def extraNode (e : Text × Text) : Node := boxNode [ofClass "extra", ("key", e.1)] (textNodes e.2)

/-- What is in the element of a card. -/
def content (c : CardSource) : List Node := c.fields.map fieldNode ++ tagNodes c.tags ++ c.extra.map extraNode

/-- The element of a card. -/
def node (c : CardSource) : Node := boxNode (ofClass "card" :: c.attributes) c.content

variable (c : CardSource)

/-- The attributes of a card are some of those of a note, in order. -/
theorem attributes_sublist : (c.attributes.map (·.1)).Sublist Note.attributeNames := by
  have hone : ∀ (name : Text) (o : Option Text), ((o.map (name, ·)).toList.map (·.1)).Sublist [name] := by
    intro name o
    cases o with
    | none => exact List.nil_sublist _
    | some v => exact List.Sublist.refl _
  rw [attributes, List.map_append, List.map_append]
  exact ((hone "guid" c.guid).append (hone "note_model_uuid" c.modelUuid)).append (hone "deck_name" c.deckName)

/-- The names of the attributes of a document are read as they are written. -/
theorem attributeName {name : Text} (h : name ∈ [("class" : Text), "key"] ++ Note.attributeNames) : AttributeName name := by
  have hall : ([("class" : Text), "key"] ++ Note.attributeNames).all readsAsWritten = true := by decide +kernel
  exact attributeName_of_readsAsWritten (List.all_eq_true.1 hall name h)

theorem attributeName_key : AttributeName "key" := attributeName (by decide)

theorem boxes_field {t : Text} (h : Solid t) : Boxes (field t) [fieldNode t] :=
  (Content.text h).box (List.forall_mem_singleton.2 attributeName_class)

theorem boxes_tags {tags : List Text} (h : ∀ t ∈ tags, IsWord t) : Boxes (tagsWritten tags) (tagNodes tags) := by
  rw [tagsWritten, tagNodes]
  split
  · exact Boxes.nil
  · exact (Content.text (solid_joinWith h)).box (List.forall_mem_singleton.2 attributeName_class)

theorem boxes_extra {e : Text × Text} (h : Solid e.2) : Boxes (extraWritten e) [extraNode e] :=
  (Content.text h).box (List.forall_mem_cons.2 ⟨attributeName_class, List.forall_mem_singleton.2 attributeName_key⟩)

/-- A card is read as its element. -/
theorem boxes_written : Boxes c.written [c.node] := by
  have hcontent : Boxes (c.fields.flatMap field ++ tagsWritten c.tags ++ c.extra.flatMap extraWritten) c.content :=
    ((Boxes.flatMap fun t ht => boxes_field (c.fields_solid t ht)).append (boxes_tags c.tags_words)).append
      (Boxes.flatMap fun e he => boxes_extra (c.extra_solid e he))
  refine hcontent.content.box (List.forall_mem_cons.2 ⟨attributeName_class, fun a ha => attributeName ?_⟩)
  exact List.mem_append_right _ (c.attributes_sublist.subset (List.mem_map_of_mem ha))

/-! ## The note of a card -/

theorem hasClass_field (name t : Text) : (fieldNode t).hasClass name = (name == "field") := by
  rw [fieldNode, ofClass, hasClass_boxNode (by decide)]
  exact Bool.or_false _

theorem hasClass_extra (name : Text) (e : Text × Text) : (extraNode e).hasClass name = (name == "extra") := by
  have hnames : (("class" : Text) :: [(("key" : Text), e.1)].map (·.1)).Nodup := by
    show ([("class" : Text), "key"] : List Text).Nodup
    decide
  rw [extraNode, ofClass, hasClass_boxNode hnames]
  exact Bool.or_false _

theorem hasClass_tags (name : Text) {tags : List Text} : ∀ n ∈ tagNodes tags, n.hasClass name = (name == "tags") := by
  rw [tagNodes]
  split
  · exact List.forall_mem_nil _
  · refine List.forall_mem_singleton.2 ?_
    rw [ofClass, hasClass_boxNode (by decide)]
    exact Bool.or_false _

theorem hasClass_node (name : Text) : c.node.hasClass name = (name == "card") := by
  have hnames : (("class" : Text) :: c.attributes.map (·.1)).Nodup :=
    (c.attributes_sublist.cons_cons ("class" : Text)).nodup (by decide)
  rw [node, ofClass, hasClass_boxNode hnames]
  exact Bool.or_false _

/-- The children of the element of a card that have a class. -/
theorem childrenWithClass_node (name : Text) :
    c.node.childrenWithClass name =
      (if name = "field" then c.fields.map fieldNode else []) ++ (if name = "tags" then tagNodes c.tags else []) ++
        (if name = "extra" then c.extra.map extraNode else []) := by
  have hpart : ∀ (ns : List Node) (w : Text), (∀ n ∈ ns, n.hasClass name = (name == w)) →
      ns.filter (Node.hasClass name) = if name = w then ns else [] := by
    intro ns w h
    by_cases hw : name = w
    · rw [if_pos hw, List.filter_eq_self]
      exact fun n hn => (h n hn).trans (beq_iff_eq.2 hw)
    · rw [if_neg hw, List.filter_eq_nil_iff]
      exact fun n hn hclass => hw (beq_iff_eq.1 ((h n hn).symm.trans hclass))
  show c.content.filter (Node.hasClass name) = _
  rw [content, List.filter_append, List.filter_append, hpart (c.fields.map fieldNode) "field", hpart (tagNodes c.tags) "tags",
    hpart (c.extra.map extraNode) "extra"]
  · exact List.forall_mem_map.2 fun e _ => hasClass_extra name e
  · exact hasClass_tags name
  · exact List.forall_mem_map.2 fun t _ => hasClass_field name t

theorem attributesOf_node : Note.attributesOf c.node = c.attributes := by
  obtain ⟨guid, modelUuid, deckName⟩ := c
  cases guid <;> cases modelUuid <;> cases deckName <;> rfl

/-- The fields in the element of a card are the bare texts that they were written from. -/
theorem fields_node : (c.node.childrenWithClass "field").map innerShown = c.fields := by
  have hfields : c.node.childrenWithClass "field" = c.fields.map fieldNode := by
    rw [childrenWithClass_node, if_pos rfl, if_neg (by decide), if_neg (by decide), List.append_nil, List.append_nil]
  rw [hfields, List.map_map]
  exact (List.map_congr_left fun t _ => innerShown_boxNode _ t).trans (List.map_id' c.fields)

theorem tags_node : ((c.node.childWithClass? "tags").map fun e => Note.splitTags e.textContent).getD [] = c.tags := by
  have htags : c.node.childrenWithClass "tags" = tagNodes c.tags := by
    rw [childrenWithClass_node, if_neg (by decide), if_pos rfl, if_neg (by decide), List.nil_append, List.append_nil]
  have hfirst : c.node.childWithClass? "tags" = (tagNodes c.tags).head? := by
    rw [← htags]
    exact (List.head?_filter).symm
  rw [hfirst, tagNodes]
  cases htags : c.tags with
  | nil => rfl
  | cons t ts =>
    show Note.splitTags (boxNode [ofClass "tags"] (textNodes (joinWith [' '] (t :: ts)))).textContent = t :: ts
    rw [← htags, textContent_boxNode, Note.splitTags, words_joinWith c.tags_words, distinct_eq c.tags_nodup]

/-- The extra value in the element of one. -/
theorem putExtra_extraNode (done : List (Text × Json)) {e : Text × Text} (he : e.1 ≠ []) :
    Note.putExtra done (extraNode e) = Json.put e.1 (Note.decodeExtra e.2) done := by
  have hkey : (extraNode e).attributeText? "key" = some e.1 := rfl
  have htext : (extraNode e).textContent = e.2 := textContent_boxNode _ e.2
  rw [Note.putExtra, hkey, htext]
  obtain ⟨name, text⟩ := e
  cases name with
  | nil => exact absurd rfl he
  | cons => rfl

theorem extra_node : (c.node.childrenWithClass "extra").foldl Note.putExtra [] = c.extra.map fun e => (e.1, Note.decodeExtra e.2) := by
  have hextra : c.node.childrenWithClass "extra" = c.extra.map extraNode := by
    rw [childrenWithClass_node, if_neg (by decide), if_neg (by decide), if_pos rfl, List.append_nil, List.nil_append]
  rw [hextra, List.foldl_map]
  have hcongr : c.extra.foldl (fun done e => Note.putExtra done (extraNode e)) [] =
      c.extra.foldl (fun done e => Json.put e.1 (Note.decodeExtra e.2) done) [] :=
    List.foldl_ext _ _ _ fun done e he => putExtra_extraNode done (c.extra_named e he)
  rw [hcongr]
  exact Json.foldl_put_eq_map c.extra_nodup

/-- The note of the element of a card is that of the card. -/
theorem ofCard_node : Note.ofCard c.node = c.note := by
  rw [Note.ofCard, attributesOf_node, fields_node, tags_node, extra_node]
  rfl

/-! ## Documents -/

/-- A document is read as the notes of its cards, in order. -/
theorem readNotes_document (cards : List CardSource) : readNotes (document cards) = .ok (cards.map note) := by
  have hcards : Boxes (cards.flatMap written) (cards.map node) := Boxes.flatMap fun c _ => c.boxes_written
  have hparse : parse (document cards) = .ok [boxNode [ofClass "cards"] (cards.map node)] :=
    (hcards.content.box (List.forall_mem_singleton.2 attributeName_class)).parse
  have hclass : (boxNode [ofClass "cards"] (cards.map node)).hasClass "cards" = true := by
    rw [ofClass, hasClass_boxNode (by decide)]
    rfl
  have hfind : (rootOf [boxNode [ofClass "cards"] (cards.map node)]).findClass? "cards" = some (boxNode [ofClass "cards"] (cards.map node)) :=
    List.find?_cons_of_pos hclass
  have hchildren : (boxNode [ofClass "cards"] (cards.map node)).childrenWithClass "card" = cards.map node := by
    refine List.filter_eq_self.2 (List.forall_mem_map.2 fun c _ => ?_)
    rw [hasClass_node]
    rfl
  rw [readNotes, documentNodes, hparse]
  show Except.ok (Note.ofNodes [boxNode [ofClass "cards"] (cards.map node)]) = _
  rw [Note.ofNodes, hfind]
  dsimp only
  rw [hchildren, List.map_map]
  exact congrArg Except.ok (List.map_congr_left fun c _ => c.ofCard_node)

/-- The notes in a document are those that its cards were written from, one for each card, in order: their attributes, tags and extra values
are the given ones, and their fields are the bare texts. These are what stands in the document exactly where no character of a field is
written as a reference. -/
theorem notes_decoded (cards : List CardSource) :
    readNotes (document cards) = .ok (cards.map note) ∧
      (readNotes (document cards) = .ok (cards.map noteAsWritten) ↔ ∀ c ∈ cards, ∀ t ∈ c.fields, escape t = t) := by
  have hread := readNotes_document cards
  have hnote : ∀ c : CardSource, c.note = c.noteAsWritten ↔ ∀ t ∈ c.fields, escape t = t := by
    intro c
    rw [note, noteAsWritten, note, Note.mk.injEq]
    constructor
    · rintro ⟨-, hfields, -⟩
      rw [← List.map_id' c.fields, List.map_map, List.map_inj_left] at hfields
      intro t ht
      exact (hfields t ht).symm
    · intro h
      refine ⟨rfl, ?_, rfl, rfl⟩
      exact (List.map_id' c.fields).symm.trans (List.map_congr_left fun t ht => (h t ht).symm)
  refine ⟨hread, ?_⟩
  rw [hread, Except.ok.injEq, List.map_inj_left]
  exact forall₂_congr fun c _ => hnote c

/-- A card with one field, in which a tag is spelled. -/
def spelledTag : CardSource where
  guid := none
  modelUuid := none
  deckName := none
  fields := [("<b>" : Text)]
  tags := []
  extra := []
  fields_solid := by decide
  tags_words := List.forall_mem_nil _
  tags_nodup := List.nodup_nil
  extra_solid := List.forall_mem_nil _
  extra_named := List.forall_mem_nil _
  extra_nodup := List.nodup_nil

/-- It is not true that fields come back as they are written. -/
theorem fields_bare : ¬ ∀ cards : List CardSource, readNotes (document cards) = .ok (cards.map noteAsWritten) := by
  intro h
  have hsame := Except.ok.inj ((readNotes_document [spelledTag]).symm.trans (h [spelledTag]))
  exact absurd (congrArg (fun notes : List Note => notes.map Note.fields) hsame) (by decide)

end CardSource

end Flashcards
