import Flashcards.Markup.Tree
import Flashcards.Proofs.Markup.Names
import Flashcards.Proofs.Text.Words
import Flashcards.Text.Collection

/-!
# Attributes

An attribute that is set is found, and one that is taken away is not; every other attribute is found as before. An element that has been read
has each attribute once, under a name in lower case, and a value that is read again from its text (`AttributesLegible`).
-/

namespace Flashcards.Markup

open Text

namespace Attributes

theorem find?_set_self (name : Text) (value : AttributeValue) (as : Attributes) : (as.set name value).find? name = some value := by
  induction as with
  | nil => exact if_pos rfl
  | cons a as ih =>
    rw [set]
    split
    · rename_i h
      rw [find?, if_pos h]
    · rename_i h
      rw [find?, if_neg h, ih]

theorem find?_set_of_ne {name other : Text} (h : other ≠ name) (value : AttributeValue) (as : Attributes) :
    (as.set name value).find? other = as.find? other := by
  induction as with
  | nil => exact if_neg (Ne.symm h)
  | cons a as ih =>
    rw [set]
    split
    · rename_i ha
      rw [find?, find?, if_neg (ha ▸ Ne.symm h), if_neg (ha ▸ Ne.symm h)]
    · rw [find?, find?, ih]

theorem find?_remove_self (name : Text) (as : Attributes) : (as.remove name).find? name = none := by
  unfold remove
  induction as with
  | nil => rfl
  | cons a as ih =>
    rw [List.filter_cons]
    split
    · rename_i ha
      rw [find?, if_neg (bne_iff_ne.1 ha), ih]
    · exact ih

theorem find?_remove_of_ne {name other : Text} (h : other ≠ name) (as : Attributes) : (as.remove name).find? other = as.find? other := by
  unfold remove
  induction as with
  | nil => rfl
  | cons a as ih =>
    rw [List.filter_cons, find?]
    split
    · rw [find?, ih]
    · rename_i ha
      have hname : a.1 = name := by simpa using ha
      rw [if_neg (hname ▸ Ne.symm h), ih]

/-! ## The attributes of elements that have been read -/

/-- An attribute of a new name is put at the end. -/
theorem set_of_forall_ne {name : Text} {as : Attributes} (h : ∀ a ∈ as, a.1 ≠ name) (value : AttributeValue) :
    as.set name value = as ++ [(name, value)] := by
  induction as with
  | nil => rfl
  | cons a as ih =>
    rw [List.forall_mem_cons] at h
    rw [Attributes.set, if_neg h.1, ih h.2]
    rfl

/-- The names of attributes of which one is set. -/
theorem map_fst_set (name : Text) (value : AttributeValue) (as : Attributes) :
    (as.set name value).map (·.1) = if name ∈ as.map (·.1) then as.map (·.1) else as.map (·.1) ++ [name] := by
  induction as with
  | nil => rfl
  | cons a as ih =>
    rw [set]
    split
    · rename_i ha
      rw [List.map_cons, if_pos (by rw [List.map_cons, ha]; exact List.mem_cons_self)]
      rfl
    · rename_i ha
      rw [List.map_cons, ih, List.map_cons]
      by_cases hmem : name ∈ as.map (·.1)
      · rw [if_pos hmem, if_pos (List.mem_cons_of_mem a.1 hmem)]
      · have hnot : name ∉ a.1 :: as.map (·.1) := by
          rw [List.mem_cons, not_or]
          exact ⟨Ne.symm ha, hmem⟩
        rw [if_neg hmem, if_neg hnot]
        rfl

/-- An attribute among attributes of which one is set is that one, or was there before. -/
theorem mem_set {name : Text} {value : AttributeValue} {as : Attributes} {a : Text × AttributeValue} (h : a ∈ as.set name value) :
    a = (name, value) ∨ a ∈ as := by
  induction as with
  | nil => exact .inl (List.mem_singleton.1 h)
  | cons b as ih =>
    rw [set] at h
    split at h
    · rename_i hb
      rcases List.mem_cons.1 h with rfl | h
      · exact .inl (by rw [hb])
      · exact .inr (List.mem_cons_of_mem b h)
    · rcases List.mem_cons.1 h with rfl | h
      · exact .inr List.mem_cons_self
      · rcases ih h with rfl | h
        · exact .inl rfl
        · exact .inr (List.mem_cons_of_mem b h)

end Attributes

/-- Attributes that are written once each are those of the element. -/
theorem attributesOf_eq (element : Text) {as : RawAttributes} (h : (as.map (·.1)).Nodup) :
    attributesOf element as = as.map fun a => (a.1, attributeValue element a.1 a.2) := by
  exact foldl_eq_map_of_nodup (k := fun a => a.1) (g := fun a : Text × Text => (a.1, attributeValue element a.1 a.2))
    (fun done a hnew => Attributes.set_of_forall_ne hnew _) h

/-- The value of an attribute is read again from its text. -/
theorem attributeValue_joined (element name value : Text) :
    attributeValue element name (attributeValue element name value).joined = attributeValue element name value := by
  unfold attributeValue
  split
  · rw [AttributeValue.joined, words_joinWith fun t ht => isWord_of_mem_words ht]
  · rfl

/-- Attributes as an element has them that has been read. -/
structure AttributesLegible (element : Text) (as : Attributes) : Prop where
  nodup : (as.map (·.1)).Nodup
  names : ∀ a ∈ as, AttributeName a.1
  values : ∀ a ∈ as, attributeValue element a.1 a.2.joined = a.2

theorem AttributesLegible.set {element : Text} {as : Attributes} (h : AttributesLegible element as) {name : Text} (hname : AttributeName name)
    {value : AttributeValue} (hvalue : attributeValue element name value.joined = value) : AttributesLegible element (as.set name value) where
  nodup := by
    rw [Attributes.map_fst_set]
    split
    · exact h.nodup
    · rename_i hnew
      exact Collection.nodup_concat h.nodup hnew
  names := by
    intro a ha
    rcases Attributes.mem_set ha with rfl | ha
    · exact hname
    · exact h.names a ha
  values := by
    intro a ha
    rcases Attributes.mem_set ha with rfl | ha
    · exact hvalue
    · exact h.values a ha

/-- The attributes of an element that is read are such. -/
theorem attributesLegible_attributesOf (element : Text) {as : RawAttributes} (h : ∀ a ∈ as, AttributeName a.1) :
    AttributesLegible element (attributesOf element as) := by
  have hall : ∀ (as : RawAttributes) (done : Attributes), AttributesLegible element done → (∀ a ∈ as, AttributeName a.1) →
      AttributesLegible element (as.foldl (fun as a => as.set a.1 (attributeValue element a.1 a.2)) done) := by
    intro as
    induction as with
    | nil => exact fun done hdone _ => hdone
    | cons a as ih =>
      intro done hdone has
      rw [List.forall_mem_cons] at has
      exact ih _ (hdone.set has.1 (attributeValue_joined element a.1 a.2)) has.2
  exact hall as [] ⟨List.nodup_nil, List.forall_mem_nil _, List.forall_mem_nil _⟩ h

end Flashcards.Markup
