import Mathlib.Data.List.Induction
import Flashcards.Proofs.Template.Filling
import Flashcards.Proofs.Text.Runs

/-!
# Fields in templates

A note has its fields by position, and its model has names for positions. Only where both have one is a field seen under a name. Two positions may
have one name, and then the later field is seen (`Template.find?_named`); the tags of the note go before any field of their name. What a slot shows
is `Note.Shows`, and a template shows it wherever the slot stands (`Template.shown_by_position`).
-/

namespace Flashcards

open Text

/-- What the templates of a model show of a note under a name: the tags, the field at the last position that has the name, or the slot itself. -/
inductive Note.Shows (note : Note) (model : NoteModel) (name : Text) : Text → Prop where
  | tags (hname : name = Template.tagsName) : Shows note model name (joinWith [' '] note.tags)
  | field {i : Nat} {value : Text} (hname : name ≠ Template.tagsName) (hvalue : note.fields[i]? = some value)
      (hdefined : model.fieldNames[i]? = some name) (hlast : ∀ j, i < j → j < note.fields.length → model.fieldNames[j]? ≠ some name) :
      Shows note model name value
  | slot (hname : name ≠ Template.tagsName) (hnone : ∀ i < note.fields.length, model.fieldNames[i]? ≠ some name) :
      Shows note model name (Template.written name)

/-- What is shown is one thing: there is only one last position. -/
theorem Note.Shows.unique {note : Note} {model : NoteModel} {name shown other : Text} (h : note.Shows model name shown)
    (h' : note.Shows model name other) : shown = other := by
  cases h with
  | tags hname =>
    cases h' with
    | tags => rfl
    | field hother => exact absurd hname hother
    | slot hother => exact absurd hname hother
  | @field i value hname hvalue hdefined hlast =>
    have hi : i < note.fields.length := (List.getElem?_eq_some_iff.1 hvalue).1
    cases h' with
    | tags hother => exact absurd hother hname
    | @field j other hother hvalue' hdefined' hlast' =>
      have hj : j < note.fields.length := (List.getElem?_eq_some_iff.1 hvalue').1
      have hij : i = j := by
        rcases Nat.lt_trichotomy i j with hlt | heq | hgt
        · exact absurd hdefined' (hlast j hlt hj)
        · exact heq
        · exact absurd hdefined (hlast' i hgt hi)
      exact Option.some.inj (hvalue.symm.trans (hij ▸ hvalue'))
    | slot hother hnone => exact absurd hdefined (hnone i hi)
  | slot hname hnone =>
    cases h' with
    | tags hother => exact absurd hother hname
    | @field j other hother hvalue hdefined => exact absurd hdefined (hnone j (List.getElem?_eq_some_iff.1 hvalue).1)
    | slot => rfl

namespace Template

/-! ## Contexts -/

theorem find?_put (name other value : Text) (context : Context) :
    Context.find? name (Context.put other value context) = if other = name then some value else Context.find? name context := by
  induction context with
  | nil => rfl
  | cons e context ih =>
    obtain ⟨n, t⟩ := e
    simp only [Context.find?] at ih ⊢
    rw [Context.put]
    by_cases hn : n = other
    · rw [if_pos hn, Note.lookupText?, Note.lookupText?, hn]
      split <;> rfl
    · rw [if_neg hn, Note.lookupText?, Note.lookupText?, ih]
      by_cases hname : n = name
      · have hother : other ≠ name := fun h => hn (hname.trans h.symm)
        rw [if_pos hname, if_pos hname, if_neg hother]
      · rw [if_neg hname, if_neg hname]

/-- A context of fields that are put under their names in order. -/
def named (fields : List (Text × Text)) : Context := fields.foldl (fun context f => Context.put f.2 f.1 context) []

theorem find?_named_concat (fields : List (Text × Text)) (f : Text × Text) (name : Text) :
    Context.find? name (named (fields ++ [f])) = if f.2 = name then some f.1 else Context.find? name (named fields) := by
  rw [named, List.foldl_append]
  exact find?_put name f.2 f.1 (named fields)

/-- Under a name stands the last field that has been put there, and nothing if none has. -/
theorem find?_named (fields : List (Text × Text)) (name : Text) :
    (∃ (i : Nat) (value : Text), fields[i]? = some (value, name) ∧ (∀ j, i < j → ∀ other, fields[j]? ≠ some (other, name)) ∧
      Context.find? name (named fields) = some value) ∨
    (∀ (i : Nat) value, fields[i]? ≠ some (value, name)) ∧ Context.find? name (named fields) = none := by
  -- From the end, since of the fields of one name the last is found.
  induction fields using List.reverseRecOn with
  | nil => exact .inr ⟨fun i value h => (by simp at h), rfl⟩
  | append_singleton fields f ih =>
    have hnew : (fields ++ [f])[fields.length]? = some f := List.getElem?_concat_length
    have hold : ∀ j g, (fields ++ [f])[j]? = some g → j < fields.length ∧ fields[j]? = some g ∨ j = fields.length ∧ f = g := by
      intro j g hj
      rcases Nat.lt_trichotomy j fields.length with hlt | rfl | hgt
      · exact .inl ⟨hlt, by rwa [List.getElem?_append_left hlt] at hj⟩
      · exact .inr ⟨rfl, Option.some.inj (hnew.symm.trans hj)⟩
      · have hlength : (fields ++ [f]).length ≤ j := by rwa [List.length_append]
        rw [List.getElem?_eq_none hlength] at hj
        cases hj
    rw [find?_named_concat]
    by_cases hf : f.2 = name
    · refine .inl ⟨fields.length, f.1, hf ▸ hnew, fun j hlt other hj => ?_, if_pos hf⟩
      rcases hold j _ hj with ⟨hj, -⟩ | ⟨hj, -⟩
      · exact Nat.lt_asymm hlt hj
      · exact Nat.lt_irrefl _ (hj ▸ hlt)
    · have hne : ∀ value, f ≠ (value, name) := fun value h => hf (congrArg Prod.snd h)
      rw [if_neg hf]
      rcases ih with ⟨i, value, hi, hlast, hfind⟩ | ⟨hnone, hfind⟩
      · have hlt : i < fields.length := (List.getElem?_eq_some_iff.1 hi).1
        refine .inl ⟨i, value, by rwa [List.getElem?_append_left hlt], fun j hij other hj => ?_, hfind⟩
        rcases hold j _ hj with ⟨-, hj⟩ | ⟨-, hj⟩
        · exact hlast j hij other hj
        · exact hne other hj
      · refine .inr ⟨fun i value hi => ?_, hfind⟩
        rcases hold i _ hi with ⟨-, hi⟩ | ⟨-, hi⟩
        · exact hnone i value hi
        · exact hne value hi

/-! ## Notes -/

theorem contextOf_eq (note : Note) (model : NoteModel) :
    contextOf note model = Context.put tagsName note.tagsText (named (note.fields.zip model.fieldNames)) := rfl

/-- A position where a field and a name meet. -/
theorem zip_eq_some_iff {note : Note} {model : NoteModel} {i : Nat} {value name : Text} :
    (note.fields.zip model.fieldNames)[i]? = some (value, name) ↔ note.fields[i]? = some value ∧ model.fieldNames[i]? = some name :=
  List.getElem?_zip_eq_some

/-- What a slot shows is what is found under its name, or the slot itself. -/
theorem shows_contextOf (note : Note) (model : NoteModel) (name : Text) :
    note.Shows model name ((Context.find? name (contextOf note model)).getD (written name)) := by
  rw [contextOf_eq, find?_put]
  by_cases hname : tagsName = name
  · rw [if_pos hname]
    exact .tags hname.symm
  · rw [if_neg hname]
    rcases find?_named (note.fields.zip model.fieldNames) name with ⟨i, value, hi, hlast, hfind⟩ | ⟨hnone, hfind⟩
    · obtain ⟨hvalue, hdefined⟩ := zip_eq_some_iff.1 hi
      rw [hfind]
      refine .field (Ne.symm hname) hvalue hdefined fun j hij hj hname' => ?_
      exact hlast j hij _ (zip_eq_some_iff.2 ⟨List.getElem?_eq_getElem hj, hname'⟩)
    · rw [hfind]
      refine .slot (Ne.symm hname) fun i hi hname' => ?_
      exact hnone i _ (zip_eq_some_iff.2 ⟨List.getElem?_eq_getElem hi, hname'⟩)

/-- A name without blanks at its ends is what it is stripped to. -/
theorem strip_eq_self {name : Text} (hhead : Ends isBlank name) (hlast : ∀ c, name.getLast? = some c → isBlank c = false) : strip name = name := by
  have h := trim_append (List.forall_mem_nil _) (List.forall_mem_nil _) hhead hlast
  rwa [List.nil_append, List.append_nil] at h

/-- Names beyond the fields and fields beyond the names are not paired. -/
theorem zip_take_length {α β : Type} (xs : List α) (ys : List β) :
    (xs.take ys.length).zip ys = xs.zip ys ∧ xs.zip (ys.take xs.length) = xs.zip ys := by
  constructor
  · have hlength : (xs.zip ys).length ≤ ys.length := List.length_zip ▸ Nat.min_le_right _ _
    calc (xs.take ys.length).zip ys = (xs.take ys.length).zip (ys.take ys.length) := by rw [List.take_length]
      _ = (xs.zip ys).take ys.length := List.take_zipWith.symm
      _ = xs.zip ys := List.take_of_length_le hlength
  · have hlength : (xs.zip ys).length ≤ xs.length := List.length_zip ▸ Nat.min_le_left _ _
    calc xs.zip (ys.take xs.length) = (xs.take xs.length).zip (ys.take xs.length) := by rw [List.take_length]
      _ = (xs.zip ys).take xs.length := List.take_zipWith.symm
      _ = xs.zip ys := List.take_of_length_le hlength

/-- What a slot shows of a note goes by position: wherever the slot stands in a template, it is the tags for their name, else the field at the last
position that is a field of the note and has the name in the model, and where there is none the slot stays. So neither the fields beyond the names
of the model nor the names beyond the fields of the note are seen in any template. -/
theorem shown_by_position (note : Note) (model : NoteModel) :
    (∀ name, IsSlotName name → Ends isBlank name → (∀ c, name.getLast? = some c → isBlank c = false) →
      ∃ shown, note.Shows model name shown ∧ ∀ before after,
        apply (contextOf note model) (before ++ written name ++ after) =
          apply (contextOf note model) before ++ shown ++ apply (contextOf note model) after) ∧
    ∀ template,
      apply (contextOf { note with fields := note.fields.take model.fieldNames.length } model) template = apply (contextOf note model) template ∧
      apply (contextOf note { model with fieldNames := model.fieldNames.take note.fields.length }) template =
        apply (contextOf note model) template := by
  constructor
  · intro name hname hhead hlast
    refine ⟨_, shows_contextOf note model name, fun before after => ?_⟩
    rw [List.append_assoc, apply_slot _ hname, strip_eq_self hhead hlast, List.append_assoc]
  · intro template
    obtain ⟨hfields, hnames⟩ := zip_take_length note.fields model.fieldNames
    constructor
    · rw [contextOf_eq, contextOf_eq, hfields]
      rfl
    · rw [contextOf_eq, contextOf_eq, hnames]

/-- A note whose second field looks like a slot, and a fourth field that its model has no name for. -/
def crowdedNote : Note := ⟨[], ["1", written "A", "3", "4"], ["x", "y"], []⟩

/-- A model that names two positions alike, one like the tags, and none for the fourth field. -/
def crowdedModel : NoteModel := ⟨none, none, "M", ["A", "B", "A"], [], []⟩

/-- The later of two fields of one name is shown between stray braces, and a value that looks like a slot is not filled. -/
theorem shown_by_position_later :
    apply (contextOf crowdedNote crowdedModel) ("\x7b\x7bB\x7d\x7d\x7b" ++ written "A" ++ "\x7d\x7b\x7bTags\x7d\x7d") =
      "\x7b\x7bA\x7d\x7d\x7b3\x7dx y" := by
  have hslot : IsSlotName "A" := by
    refine ⟨by decide, fun c hc => ?_⟩
    obtain rfl : c = 'A' := by simpa using hc
    decide
  have hlast : ∀ c, ("A" : Text).getLast? = some c → isBlank c = false := by
    intro c hc
    obtain rfl : 'A' = c := Option.some.inj hc
    rfl
  obtain ⟨shown, hshows, happly⟩ := (shown_by_position crowdedNote crowdedModel).1 "A" hslot (ends_cons.2 rfl) hlast
  have hfield : crowdedNote.Shows crowdedModel "A" "3" := by
    refine .field (i := 2) (by decide) rfl rfl fun j hij hj hname => ?_
    obtain rfl : j = 3 := Nat.le_antisymm (Nat.le_of_lt_succ hj) hij
    cases hname
  obtain rfl := hshows.unique hfield
  rw [happly]
  decide +kernel

end Template

end Flashcards
