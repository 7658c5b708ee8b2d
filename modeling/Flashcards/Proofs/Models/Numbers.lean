import Flashcards.Proofs.Json.Integers
import Flashcards.Proofs.Json.Objects
import Flashcards.Proofs.Models.Merging

/-!
# Numbers of models

A model may have a number for a key, and a note an extra value that refers to it. Both come out of JSON, each on a way of its own, and both
may be written as an integer or as a string. All four come to the same key, the decimal of the number, so the note finds the model
(`ModelRegistry.numbers_meet`).
-/

namespace Flashcards

open Text Markup Markup.Node

/-! ## On the side of models -/

/-- A resource of models defines one of them with a number, which is written as an integer or as a string, and these models come after it. -/
inductive NoteModel.Numbered (n : Int) (resource : Json) : NoteModel → List NoteModel → Prop where
  | defined {before after : List NoteModel} {definition : List (Text × Json)} {w : Text} {v : Json}
      (models : listOf resource = before ++ ofEntries definition :: after) (writes : Json.Writes n w v)
      (id : Json.read w = .ok (Json.field "id" definition)) : Numbered n resource (ofEntries definition) after

/-- The key of an integer that is written is its decimal. -/
theorem NoteModel.keyOf?_of_writes {n : Int} {w : Text} {v : Json} (h : Json.Writes n w v) : keyOf? v = some (ofInt n) := by
  have hempty : (ofInt n).isEmpty = false := by simpa using ofInt_ne_nil n
  cases h
  · exact if_neg (by rw [show (Json.int n).plain = ofInt n from rfl, hempty]; exact Bool.false_ne_true)
  · exact if_neg (by rw [show (Json.text (ofInt n)).plain = ofInt n from rfl, hempty]; exact Bool.false_ne_true)

/-- A model with a number carries its decimal. -/
theorem NoteModel.Numbered.carries {n : Int} (hn : (ofNat n.natAbs).length ≤ maxDigits) {resource : Json} {m : NoteModel} {after : List NoteModel}
    (h : Numbered n resource m after) : (∃ before, listOf resource = before ++ m :: after) ∧ m.Carries (ofInt n) := by
  obtain ⟨hlist, hw, hread⟩ := h
  have hwhole := hw.readWhole hn true (List.forall_mem_nil _) (List.forall_mem_nil _)
  rw [List.nil_append, List.append_nil] at hwhole
  obtain rfl := Except.ok.inj ((Json.read_eq_ok_iff.2 hwhole).symm.trans hread)
  exact ⟨⟨_, hlist⟩, .inr (keyOf?_of_writes hw)⟩

/-! ## On the side of notes -/

/-- Among the extra values of the element of a card, the last that has the name of the second reference is an integer, written as one or as a
string, with blanks around it. -/
inductive Note.RefersTo (n : Int) (card : Node) : Prop where
  | extra {earlier later : List Node} {element : Node} {before w after : Text} {v : Json}
      (extra : card.childrenWithClass "extra" = earlier ++ element :: later)
      (key : element.attributeText? "key" = some ("note_model_id" : Text))
      (last : ∀ e ∈ later, e.attributeText? "key" ≠ some ("note_model_id" : Text))
      (writes : Json.Writes n w v) (text : element.textContent = before ++ (w ++ after))
      (blank : ∀ c ∈ before, isJsonBlank c = true) (blank' : ∀ c ∈ after, isJsonBlank c = true)

namespace Note

/-- An element that has another name leaves an extra value as it is. -/
theorem find?_putExtra_of_ne {name : Text} {element : Node} (h : element.attributeText? "key" ≠ some name) (extra : List (Text × Json)) :
    Json.find? name (putExtra extra element) = Json.find? name extra := by
  unfold putExtra
  split
  · rfl
  · rfl
  · rename_i key hkey
    refine Json.find?_put_of_ne ?_ _ _
    rintro rfl
    exact h hkey

/-- The extra value of a name is that of the last element that has the name. -/
theorem find?_extra {card : Node} {earlier later : List Node} {element : Node} {name : Text} (hname : name ≠ [])
    (hextra : card.childrenWithClass "extra" = earlier ++ element :: later) (hkey : element.attributeText? "key" = some name)
    (hlater : ∀ e ∈ later, e.attributeText? "key" ≠ some name) :
    Json.find? name (ofCard card).extra = some (decodeExtra element.textContent) := by
  have hrest : ∀ extra, Json.find? name (later.foldl putExtra extra) = Json.find? name extra := by
    clear hextra
    induction later with
    | nil => exact fun _ => rfl
    | cons e later ih =>
      intro extra
      rw [List.forall_mem_cons] at hlater
      rw [List.foldl_cons, ih hlater.2, find?_putExtra_of_ne hlater.1]
  show Json.find? name ((card.childrenWithClass "extra").foldl putExtra []) = _
  rw [hextra, List.foldl_append, List.foldl_cons, hrest, putExtra, hkey]
  obtain ⟨c, name, rfl⟩ := List.exists_cons_of_ne_nil hname
  exact Json.find?_put_self _ _ _

/-- The second reference of such a note is the decimal of the integer. -/
theorem RefersTo.modelId {n : Int} (hn : (ofNat n.natAbs).length ≤ maxDigits) {card : Node} (h : RefersTo n card) :
    (ofCard card).modelId = some (ofInt n) := by
  obtain ⟨hextra, hkey, hlater, hw, htext, hbefore, hafter⟩ := h
  have hread := hw.readWhole hn false hbefore hafter
  rw [Note.modelId, find?_extra (by decide) hextra hkey hlater, decodeExtra, htext, Json.readStrict, hread]
  cases hw <;> rfl

end Note

/-! ## Where both meet -/

namespace ModelRegistry

/-- A reference that is missing, empty or no key leads nowhere. -/
theorem lookup_eq_none {r : ModelRegistry} {reference : Option Text} (h : ∀ key, reference = some key → key = [] ∨ r.contains key = false) :
    r.lookup reference = none := by
  cases reference with
  | none => rfl
  | some key =>
    rcases h key rfl with rfl | h
    · rfl
    · rw [lookup]
      split
      · rfl
      · have hnot : key ∉ r.entries.map (·.1) := fun hmem => Bool.false_ne_true (h.symm.trans (List.contains_iff_mem.2 hmem))
        rw [get?, find?_eq_none_of_not_mem hnot]
        rfl

/-- A resource of models gives a model the number n, and a notes document gives a note a reference to n. Wherever the models are merged, and whatever is
merged before and after, if no later model carries the key, then the note is among those that are read and resolves to the model unless its first
reference leads to another. -/
theorem numbers_meet {n : Int} (hn : (ofNat n.natAbs).length ≤ maxDigits) {resource : Json} {m : NoteModel}
    {after : List NoteModel} (hm : NoteModel.Numbered n resource m after) {document : Text}
    {nodes : List Node} {container card : Node} (hdocument : documentNodes document = .ok nodes)
    (hcontainer : (rootOf nodes).findClass? "cards" = some container) (hcard : card ∈ container.childrenWithClass "card")
    (hrefers : Note.RefersTo n card) (r : ModelRegistry) (later : List NoteModel) (hlater : ∀ m' ∈ after ++ later, ¬ m'.Carries (ofInt n)) :
    ∃ notes, readNotes document = .ok notes ∧ Note.ofCard card ∈ notes ∧
      ((∀ u, (Note.ofCard card).modelUuid = some u → u = [] ∨ ((r.merge (NoteModel.listOf resource)).merge later).contains u = false) →
        ((r.merge (NoteModel.listOf resource)).merge later).resolve (Note.ofCard card) = some m) := by
  obtain ⟨⟨before, hlist⟩, hcarries⟩ := hm.carries hn
  have hkey : nonEmpty (ofInt n) = true := by simpa [nonEmpty] using ofInt_ne_nil n
  have hstands : ((r.merge (NoteModel.listOf resource)).merge later).get? (ofInt n) = some m := by
    rw [← merge_append, get?_merge, NoteModel.lastKnown?_eq hkey, hlist, List.append_assoc, List.cons_append,
      NoteModel.getLast?_carries_of_split hcarries hlater]
    rfl
  refine ⟨_, congrArg (Except.map Note.ofNodes) hdocument, ?_, fun huuid => ?_⟩
  · rw [Note.ofNodes, hcontainer]
    exact List.mem_map_of_mem hcard
  · generalize (r.merge (NoteModel.listOf resource)).merge later = r' at hstands huuid ⊢
    rw [resolve_of_lookup_eq_none (lookup_eq_none huuid), hrefers.modelId hn, lookup_of_nonEmpty hkey, hstands]

/-- A definition of a model whose number is an integer. -/
def negativeDefinition : List (Text × Json) := [("id", .int (-42)), ("name", .text "A")]

/-- A reference to it that is a string between blanks. -/
def negativeReference : Node := .element "div" [("class", .words ["extra"]), ("key", .text "note_model_id")] [.text .plain " \"-42\"\n"]

/-- The card of a note that refers to it, and to an unknown name first. -/
def negativeCard : Node := .element "div" [("class", .words ["card"]), ("note_model_uuid", .text "u")] [negativeReference]

/-- A document of this note. -/
def negativeDocument : Text :=
  "<div class=cards><div class=card note_model_uuid=u><div class=extra key=note_model_id> \"-42\"\n</div></div></div>"

/-- The note finds the model, also where other models are merged before and after. -/
theorem numbers_meet_negative :
    ∃ notes, readNotes negativeDocument = .ok notes ∧ Note.ofCard negativeCard ∈ notes ∧
      (((empty.merge [numbered "v" "-42"]).merge
        (NoteModel.listOf (.object [("note_models", .list [.object negativeDefinition])]))).merge [numbered "w" "42"]).resolve
          (Note.ofCard negativeCard) = some ⟨none, some "-42", "A", [], [], []⟩ := by
  have hmodels : NoteModel.listOf (.object [("note_models", .list [.object negativeDefinition])]) =
      [] ++ NoteModel.ofEntries negativeDefinition :: [] := rfl
  have hdocument : documentNodes negativeDocument = .ok [.element "div" [("class", .words ["cards"])] [negativeCard]] := by decide +kernel
  have hextra : negativeCard.childrenWithClass "extra" = [] ++ negativeReference :: [] := rfl
  have htext : negativeReference.textContent = " " ++ ('"' :: (ofInt (-42) ++ ['"']) ++ "\n") := rfl
  have hrefers : Note.RefersTo (-42) negativeCard :=
    .extra hextra rfl (List.forall_mem_nil _) .string htext (List.all_eq_true.1 rfl) (List.all_eq_true.1 rfl)
  obtain ⟨notes, hnotes, hnote, hresolve⟩ := numbers_meet (by decide) (.defined hmodels .integer (by decide +kernel)) hdocument rfl
    (by decide +kernel) hrefers (empty.merge [numbered "v" "-42"]) [numbered "w" "42"] (by decide)
  refine ⟨notes, hnotes, hnote, hresolve fun u hu => .inr ?_⟩
  obtain rfl : "u" = u := Option.some.inj hu
  decide +kernel

end ModelRegistry

end Flashcards
