import Flashcards.ModelRegistry

/-!
# The last model under a key

The model under a key is the last one registered that is known by it (`ModelRegistry.get?_merge`). So when the models of a resource have been
registered, a note whose first reference is known by one of them resolves to the last such model of the resource, whatever has been
registered before (`ModelRegistry.resolve_merge`).
-/

namespace Flashcards

open Text

/-- The last of some models that is known by a key. -/
def NoteModel.lastKnown? (key : Text) (models : List NoteModel) : Option NoteModel :=
  (models.filter fun m => m.identifiers.contains key).getLast?

/-- A model is known by texts that are not empty. -/
theorem NoteModel.nonEmpty_of_mem_identifiers {m : NoteModel} {key : Text} (h : key ∈ m.identifiers) : nonEmpty key = true := by
  rw [identifiers] at h
  exact (List.mem_filter.1 h).2

/-- The last of some models that is known by a key is one of them. -/
theorem NoteModel.mem_of_lastKnown? {key : Text} {models : List NoteModel} {m : NoteModel} (h : lastKnown? key models = some m) :
    m ∈ models ∧ key ∈ m.identifiers := by
  have hm := List.mem_filter.1 (List.mem_of_getLast? h)
  exact ⟨hm.1, List.contains_iff_mem.1 hm.2⟩

/-- Where one of some models is known by a key, there is a last one. -/
theorem NoteModel.exists_lastKnown? {key : Text} {models : List NoteModel} {m : NoteModel} (hm : m ∈ models) (hk : key ∈ m.identifiers) :
    ∃ last, lastKnown? key models = some last := by
  have hmem : m ∈ models.filter fun m => m.identifiers.contains key := List.mem_filter.2 ⟨hm, List.contains_iff_mem.2 hk⟩
  exact ⟨_, List.getLast?_eq_some_getLast (List.ne_nil_of_mem hmem)⟩

namespace ModelRegistry

/-- A model put under a key stands there, and every other key has the model that it had. -/
theorem get?_put (model : NoteModel) (r : ModelRegistry) (key k : Text) :
    (r.put model key).get? k = if key = k then some model else r.get? k := by
  obtain ⟨entries⟩ := r
  simp only [put, get?]
  induction entries with
  | nil =>
    by_cases hk : key = k
    · simp only [putEntry, List.find?_cons, hk, beq_self_eq_true, if_pos, Option.map_some]
    · simp only [putEntry, List.find?_cons, beq_false_of_ne hk, if_neg hk, List.find?_nil, Option.map_none]
  | cons e entries ih =>
    obtain ⟨key', model'⟩ := e
    rw [putEntry]
    by_cases hkey : key' = key
    · subst hkey
      by_cases hk : key' = k
      · simp only [if_pos, List.find?_cons, hk, beq_self_eq_true, Option.map_some]
      · simp only [if_pos, List.find?_cons, beq_false_of_ne hk, if_neg hk]
    · rw [if_neg hkey]
      by_cases hk : key' = k
      · have hne : key ≠ k := fun h => hkey (hk.trans h.symm)
        simp only [List.find?_cons, hk, beq_self_eq_true, Option.map_some, if_neg hne]
      · simp only [List.find?_cons, beq_false_of_ne hk]
        exact ih

/-- A model that is registered stands under each of its keys. -/
theorem get?_register (r : ModelRegistry) (model : NoteModel) (k : Text) :
    (r.register model).get? k = if k ∈ model.identifiers then some model else r.get? k := by
  rw [register]
  generalize model.identifiers = keys
  induction keys generalizing r with
  | nil => rw [List.foldl_nil, if_neg List.not_mem_nil]
  | cons key keys ih =>
    rw [List.foldl_cons, ih, get?_put]
    by_cases hmem : k ∈ keys
    · rw [if_pos hmem, if_pos (List.mem_cons_of_mem key hmem)]
    · by_cases hk : key = k
      · rw [if_neg hmem, if_pos hk, if_pos (hk ▸ List.mem_cons_self)]
      · rw [if_neg hmem, if_neg hk, if_neg]
        intro h
        exact (List.mem_cons.1 h).elim (fun h => hk h.symm) hmem

/-- After models have been registered, the model under a key is the last of them that is known by it, and where none is, the one that was
there before. -/
theorem get?_merge (models : List NoteModel) (r : ModelRegistry) (k : Text) :
    (r.merge models).get? k = (NoteModel.lastKnown? k models).or (r.get? k) := by
  rw [merge]
  induction models generalizing r with
  | nil => rfl
  | cons m models ih =>
    rw [List.foldl_cons, ih, get?_register, NoteModel.lastKnown?, NoteModel.lastKnown?]
    by_cases hk : k ∈ m.identifiers
    · have hpos : (m.identifiers.contains k) = true := List.contains_iff_mem.2 hk
      rw [if_pos hk, List.filter_cons, if_pos hpos, List.getLast?_cons]
      cases (models.filter fun m => m.identifiers.contains k).getLast? <;> rfl
    · have hneg : ¬ (m.identifiers.contains k) = true := fun h => hk (List.contains_iff_mem.1 h)
      rw [if_neg hk, List.filter_cons, if_neg hneg]

/-- A note whose first reference is known by a model among those that are registered resolves to the last such model. -/
theorem resolve_merge {models : List NoteModel} {note : Note} {key : Text} {m : NoteModel} (hkey : note.modelUuid = some key)
    (hm : NoteModel.lastKnown? key models = some m) (r : ModelRegistry) : (r.merge models).resolve note = some m := by
  have hne : key.isEmpty = false := by
    have h := NoteModel.nonEmpty_of_mem_identifiers (NoteModel.mem_of_lastKnown? hm).2
    rwa [nonEmpty, Bool.not_eq_true'] at h
  have hlookup : (r.merge models).lookup note.modelUuid = some m := by
    rw [hkey, lookup, hne, get?_merge, hm]
    rfl
  rw [resolve, hlookup]

/-- No key is lost when a model is put under one. -/
theorem keys_prefix_put (model : NoteModel) (r : ModelRegistry) (key : Text) : r.keys <+: (r.put model key).keys := by
  obtain ⟨entries⟩ := r
  simp only [put, keys]
  induction entries with
  | nil => exact List.nil_prefix
  | cons e entries ih =>
    obtain ⟨key', model'⟩ := e
    rw [putEntry]
    by_cases hkey : key' = key
    · rw [if_pos hkey]
      exact List.prefix_refl _
    · rw [if_neg hkey]
      exact (List.prefix_cons_inj key').2 ih

theorem keys_prefix_register (model : NoteModel) (r : ModelRegistry) : r.keys <+: (r.register model).keys := by
  rw [register]
  generalize model.identifiers = keys
  induction keys generalizing r with
  | nil => exact List.prefix_refl _
  | cons key keys ih => exact (keys_prefix_put model r key).trans (ih (r.put model key))

/-- No key is lost when models are registered, and those that were there stay first. -/
theorem keys_prefix_merge (models : List NoteModel) (r : ModelRegistry) : r.keys <+: (r.merge models).keys := by
  rw [merge]
  induction models generalizing r with
  | nil => exact List.prefix_refl _
  | cons m models ih => exact (keys_prefix_register m r).trans (ih (r.register m))

/-- A note whose first reference leads nowhere resolves to the model of the second. -/
theorem resolve_of_lookup_eq_none {r : ModelRegistry} {note : Note} (h : r.lookup note.modelUuid = none) :
    r.resolve note = r.lookup note.modelId := by
  rw [resolve, h]

end ModelRegistry

end Flashcards
