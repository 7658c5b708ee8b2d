import Mathlib.Algebra.GroupWithZero.Nat
import Flashcards.Proofs.Models.Registry
import Flashcards.Proofs.Text.Collection

/-!
# The registry that merges leave

Models are merged list by list into a registry that is empty at first (`ModelRegistry.mergeAll`). It comes to the same to merge all lists as
one, so what is left is told by the models in a row: under each key stands the last model that carries it, and the keys stand in the order in
which they first came. Since a registry is told by its keys and by what stands under them (`ModelRegistry.eq_of_get?`), a list that is merged
twice in a row leaves what it leaves once.

A merge says how many keys it has written. Keys are counted as they are written, also those that are written again
(`ModelRegistry.mergeCounting`). All this together is `ModelRegistry.last_writer`.
-/

namespace Flashcards

open Text

namespace NoteModel

/-- The model carries a key, as its unique name or as its number. -/
def Carries (key : Text) (m : NoteModel) : Prop := m.uuid = some key ∨ m.id = some key

instance (key : Text) (m : NoteModel) : Decidable (m.Carries key) := inferInstanceAs (Decidable (_ ∨ _))

/-- A model is known by the keys that it carries, unless they are empty. -/
theorem mem_identifiers {key : Text} (hk : nonEmpty key = true) (m : NoteModel) : key ∈ m.identifiers ↔ m.Carries key := by
  rw [identifiers, List.mem_filter, List.mem_append, Option.mem_toList, Option.mem_toList, Carries]
  constructor
  · rintro ⟨h, -⟩
    exact h
  · intro h
    exact ⟨h, hk⟩

/-- The last of some models that is known by a key is the last that carries it. -/
theorem lastKnown?_eq {key : Text} (hk : nonEmpty key = true) (models : List NoteModel) :
    lastKnown? key models = (models.filter fun m => m.Carries key).getLast? := by
  rw [lastKnown?]
  congr 1
  refine List.filter_congr fun m _ => ?_
  rw [Bool.eq_iff_iff, decide_eq_true_iff, List.contains_iff_mem]
  exact mem_identifiers hk m

/-- There is none exactly if no model carries the key. -/
theorem getLast?_carries_eq_none_iff (key : Text) (models : List NoteModel) :
    (models.filter fun m => m.Carries key).getLast? = none ↔ ∀ m ∈ models, ¬ m.Carries key := by
  rw [List.getLast?_eq_none_iff, List.filter_eq_nil_iff]
  simp only [decide_eq_true_iff]

/-- A model that carries a key, and after which none does, is the last. -/
theorem getLast?_carries_of_split {key : Text} {before after : List NoteModel} {m : NoteModel} (hm : m.Carries key)
    (hafter : ∀ m' ∈ after, ¬ m'.Carries key) : ((before ++ m :: after).filter fun m => m.Carries key).getLast? = some m := by
  have hnone : (after.filter fun m => m.Carries key) = [] := by
    rw [List.filter_eq_nil_iff]
    intro m' hm'
    simpa using hafter m' hm'
  rw [List.filter_append, List.filter_cons, if_pos (decide_eq_true hm), hnone, List.getLast?_append, List.getLast?_singleton,
    Option.some_or]

end NoteModel

namespace ModelRegistry

variable {r r' : ModelRegistry}

/-! ## Merges in a row -/

/-- Lists of models merged one after the other into a registry without models. -/
def mergeAll (lists : List (List NoteModel)) : ModelRegistry := lists.foldl (fun r models => r.merge models) empty

/-- Two lists merged one after the other come to the same as both merged as one. -/
theorem merge_append (models more : List NoteModel) (r : ModelRegistry) : r.merge (models ++ more) = (r.merge models).merge more :=
  List.foldl_append

/-- One more list is merged last. -/
theorem mergeAll_concat (lists : List (List NoteModel)) (models : List NoteModel) :
    mergeAll (lists ++ [models]) = (mergeAll lists).merge models := List.foldl_append

/-- So do any lists. -/
theorem mergeAll_eq (lists : List (List NoteModel)) : mergeAll lists = empty.merge lists.flatten := by
  rw [mergeAll, merge, List.foldl_flatten]
  rfl

/-- What a reference leads to that is not empty is what stands under it. -/
theorem lookup_of_nonEmpty {key : Text} (hk : nonEmpty key = true) (r : ModelRegistry) : r.lookup (some key) = r.get? key := by
  rw [nonEmpty, Bool.not_eq_true'] at hk
  rw [lookup, hk, if_neg Bool.false_ne_true]

/-- After lists of models have been merged, a key leads to the last model that carries it. -/
theorem lookup_mergeAll {key : Text} (hk : nonEmpty key = true) (lists : List (List NoteModel)) :
    (mergeAll lists).lookup (some key) = (lists.flatten.filter fun m => m.Carries key).getLast? := by
  rw [lookup_of_nonEmpty hk, mergeAll_eq, get?_merge, NoteModel.lastKnown?_eq hk]
  exact Option.or_none

/-! ## The order of keys -/

/-- A key that is written stays where it is, or comes after all others. -/
theorem keys_put (model : NoteModel) (r : ModelRegistry) (key : Text) :
    (r.put model key).keys = if key ∈ r.keys then r.keys else r.keys ++ [key] := by
  obtain ⟨entries⟩ := r
  simp only [put, keys]
  induction entries with
  | nil => rfl
  | cons e entries ih =>
    obtain ⟨key', model'⟩ := e
    unfold putEntry
    by_cases hkey : key' = key
    · simp [hkey]
    · have hne : ¬ key = key' := fun h => hkey h.symm
      simp only [if_neg hkey, List.map_cons, ih, List.mem_cons, hne, false_or]
      by_cases hmem : key ∈ entries.map (·.1) <;> simp [hmem]

/-- Where the keys are those of a collection, the keys of a model that is registered are put into it. -/
theorem keys_register (model : NoteModel) (r : ModelRegistry) {s : Collection} (hr : r.keys = s.items) :
    (r.register model).keys = (s.insertAll model.identifiers).items := by
  unfold register
  generalize model.identifiers = keys
  induction keys generalizing r s with
  | nil => exact hr
  | cons key keys ih =>
    have hput : (r.put model key).keys = (s.insert key).items := by
      rw [keys_put, Collection.items_insert, hr]
    exact ih (r.put model key) hput

/-- And so are those of models that are merged. -/
theorem keys_merge (models : List NoteModel) (r : ModelRegistry) {s : Collection} (hr : r.keys = s.items) :
    (r.merge models).keys = (s.insertAll (models.flatMap NoteModel.identifiers)).items := by
  unfold merge
  induction models generalizing r s with
  | nil => exact hr
  | cons m models ih =>
    rw [List.foldl_cons, ih (r.register m) (keys_register m r hr), List.flatMap_cons, Collection.insertAll_append]

/-- The keys that lists of models leave. -/
def keysOf (lists : List (List NoteModel)) : Collection := Collection.empty.insertAll (lists.flatten.flatMap NoteModel.identifiers)

theorem keys_mergeAll (lists : List (List NoteModel)) : (mergeAll lists).keys = (keysOf lists).items := by
  rw [mergeAll_eq]
  exact keys_merge lists.flatten empty rfl

/-! ## Merging the same models again -/

/-- Under a key that is not among those of some entries, none of them stands. -/
theorem find?_eq_none_of_not_mem {key : Text} {entries : List (Text × NoteModel)} (h : key ∉ entries.map (·.1)) :
    entries.find? (·.1 == key) = none := by
  refine List.find?_eq_none.2 fun e he heq => h ?_
  rw [← beq_iff_eq.1 heq]
  exact List.mem_map_of_mem he

/-- Registries with the same keys, each once, under which the same models stand, are the same. -/
theorem eq_of_get? (hn : r.keys.Nodup) (hk : r'.keys = r.keys) (hg : ∀ key, r'.get? key = r.get? key) : r' = r := by
  obtain ⟨entries⟩ := r
  obtain ⟨entries'⟩ := r'
  simp only [keys, get?] at hn hk hg
  congr 1
  induction entries generalizing entries' with
  | nil => exact List.map_eq_nil_iff.1 hk
  | cons e entries ih =>
    obtain ⟨key, model⟩ := e
    cases entries' with
    | nil => cases hk
    | cons e' entries' =>
      obtain ⟨key', model'⟩ := e'
      rw [List.map_cons, List.map_cons] at hk
      obtain ⟨rfl, hrest⟩ := List.cons.inj hk
      obtain ⟨hnot, hn⟩ := List.nodup_cons.1 hn
      have hmodel : model' = model := by
        have h := hg key'
        simpa using h
      have hget : ∀ k, (entries'.find? (·.1 == k)).map (·.2) = (entries.find? (·.1 == k)).map (·.2) := by
        intro k
        by_cases hkey : key' = k
        · -- The key stands in neither of the rests.
          subst hkey
          rw [find?_eq_none_of_not_mem (hrest.symm ▸ hnot), find?_eq_none_of_not_mem hnot]
        · have h := hg k
          simp only [List.find?_cons, beq_false_of_ne hkey] at h
          exact h
      rw [hmodel, ih hn entries' hrest hget]

/-- Models that are merged twice in a row leave what they leave once. -/
theorem merge_merge_self (models : List NoteModel) (r : ModelRegistry) {s : Collection} (hr : r.keys = s.items) :
    (r.merge models).merge models = r.merge models := by
  have hkeys := keys_merge models r hr
  have hagain := keys_merge models (r.merge models) hkeys
  rw [Collection.insertAll_of_subset fun key hkey => Collection.mem_insertAll.2 (Or.inl hkey)] at hagain
  refine eq_of_get? (hkeys ▸ Collection.nodup _) (hagain.trans hkeys.symm) fun key => ?_
  rw [get?_merge, get?_merge]
  cases NoteModel.lastKnown? key models <;> rfl

/-! ## How many keys are written -/

/-- Models registered key by key, and how many keys have been written. -/
def mergeCounting (models : List NoteModel) (r : ModelRegistry) : ModelRegistry × Nat :=
  models.foldl (fun done m => m.identifiers.foldl (fun done key => (done.1.put m key, done.2 + 1)) done) (r, 0)

/-- The keys that a merge says it has written are those that are written one after the other. -/
theorem mergeCounting_eq (models : List NoteModel) (r : ModelRegistry) : r.mergeCounting models = (r.merge models, keysWritten models) := by
  have hkeys : ∀ (m : NoteModel) (keys : List Text) (r : ModelRegistry) (n : Nat),
      keys.foldl (fun done key => (done.1.put m key, done.2 + 1)) (r, n) = (keys.foldl (put m) r, n + keys.length) := by
    intro m keys
    induction keys with
    | nil => exact fun _ _ => rfl
    | cons key keys ih =>
      intro r n
      rw [List.foldl_cons, ih, List.foldl_cons, List.length_cons, Nat.add_assoc, Nat.add_comm 1]
  have hmodels : ∀ (models : List NoteModel) (r : ModelRegistry) (n : Nat),
      models.foldl (fun done m => m.identifiers.foldl (fun done key => (done.1.put m key, done.2 + 1)) done) (r, n) =
        (r.merge models, n + keysWritten models) := by
    intro models
    induction models with
    | nil => exact fun _ _ => rfl
    | cons m models ih =>
      intro r n
      rw [List.foldl_cons, hkeys, ih, keysWritten, keysWritten, List.flatMap_cons, List.length_append, Nat.add_assoc]
      rfl
  rw [mergeCounting, hmodels, Nat.zero_add]

/-! ## The last writer -/

/-- The registry that lists of models leave is told by the last writer of each key. Under a key stands the last model of all that carries it, and
nothing if none does; so a model after which none carries either of its keys is found under both. The keys stand in the order in which they
first came. A merge writes, and says it has written, as many keys as its models have; two lists merged one after the other come to the same as
both merged as one, and one that is merged again changes nothing. -/
theorem last_writer (lists : List (List NoteModel)) :
    (∀ key, nonEmpty key = true →
      (mergeAll lists).lookup (some key) = (lists.flatten.filter fun m => m.Carries key).getLast? ∧
        ((mergeAll lists).lookup (some key) = none ↔ ∀ m ∈ lists.flatten, ¬ m.Carries key)) ∧
      (∀ before m after name number, lists.flatten = before ++ m :: after → m.uuid = some name → m.id = some number →
        nonEmpty name = true → nonEmpty number = true → (∀ m' ∈ after, ¬ m'.Carries name ∧ ¬ m'.Carries number) →
          (mergeAll lists).lookup (some name) = some m ∧ (mergeAll lists).lookup (some number) = some m) ∧
      (mergeAll lists).keys = distinct (lists.flatten.flatMap NoteModel.identifiers) ∧
      (∀ models, (mergeAll lists).mergeCounting models = ((mergeAll lists).merge models, keysWritten models) ∧
        keysWritten models = (models.map fun m => m.identifiers.length).sum) ∧
      (∀ models more, ((mergeAll lists).merge models).merge more = (mergeAll lists).merge (models ++ more)) ∧
      ∀ models, ((mergeAll lists).merge models).merge models = (mergeAll lists).merge models := by
  refine ⟨fun key hk => ?_, ?_, ?_, fun models => ⟨mergeCounting_eq models _, ?_⟩, fun models more => ?_, fun models => ?_⟩
  · have hlookup := lookup_mergeAll hk lists
    exact ⟨hlookup, by rw [hlookup, NoteModel.getLast?_carries_eq_none_iff]⟩
  · intro before m after name number hsplit hname hnumber hne hne' hafter
    constructor
    · rw [lookup_mergeAll hne, hsplit]
      exact NoteModel.getLast?_carries_of_split (Or.inl hname) fun m' hm' => (hafter m' hm').1
    · rw [lookup_mergeAll hne', hsplit]
      exact NoteModel.getLast?_carries_of_split (Or.inr hnumber) fun m' hm' => (hafter m' hm').2
  · rw [keys_mergeAll]
    exact Collection.items_insertAll_empty _
  · rw [keysWritten, List.length_flatMap]
  · exact (merge_append models more _).symm
  · exact merge_merge_self models _ (keys_mergeAll lists)

/-- A model of a name and a number. -/
def numbered (name number : Text) : NoteModel := ⟨some name, some number, [], [], [], []⟩

/-- Two lists of models, where the number of one is the name of another. -/
def crossing : List (List NoteModel) := [[numbered "1" "2", numbered "2" "3"], [numbered "3" "4", numbered "5" "1"]]

/-- Of these the first model is found under neither of its keys any more, and the last under both. -/
theorem last_writer_crossing :
    (mergeAll crossing).keys = [("1" : Text), "2", "3", "4", "5"] ∧
      (mergeAll crossing).lookup (some "2") = some (numbered "2" "3") ∧
      (mergeAll crossing).lookup (some "5") = some (numbered "5" "1") ∧ (mergeAll crossing).lookup (some "1") = some (numbered "5" "1") ∧
      (mergeAll crossing).lookup (some "6") = none := by
  obtain ⟨hlookup, hsplit, hkeys, -, -, -⟩ := last_writer crossing
  obtain ⟨htwo, -⟩ := hlookup "2" (by decide)
  obtain ⟨-, hnone⟩ := hlookup "6" (by decide)
  obtain ⟨hfive, hone⟩ := hsplit [numbered "1" "2", numbered "2" "3", numbered "3" "4"] (numbered "5" "1") [] "5" "1" (by decide) rfl rfl
    (by decide) (by decide) (by simp)
  exact ⟨hkeys, htwo, hfive, hone, hnone.2 (by decide)⟩

end ModelRegistry

end Flashcards
