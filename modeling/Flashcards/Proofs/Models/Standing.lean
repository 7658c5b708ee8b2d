import Mathlib.Data.List.Induction
import Mathlib.Data.List.Nodup
import Flashcards.Proofs.Models.Merging

/-!
# The models that a registry lists

What is merged are objects, each of which is a model; two of them may be the same model, and one may be merged several times. Under a key
stands the last object that is known by it (`ModelRegistry.holder?`). A registry does not tell apart objects that are the same model, but it
need not: of these at most one stands under some key, since they have the same keys (`ModelRegistry.eq_of_holder?`). So what it lists are the
objects that stand under some key, each once.

They are listed in the order of their first keys, and a key keeps its place when another object takes it over. So the order is that of the
first registrations where no key has changed hands (`ModelRegistry.models_listed`), but not in general (`ModelRegistry.models_overtaking`).
-/

namespace Flashcards

open Text

/-! ## First occurrences -/

section Firsts

variable {α κ : Type} [BEq α] [LawfulBEq α] [BEq κ] [LawfulBEq κ]

/-- Items in the order of their first occurrences, each once. -/
def firsts (xs : List α) : List α := xs.foldl (fun seen x => if x ∈ seen then seen else seen ++ [x]) []

theorem firsts_concat (xs : List α) (x : α) : firsts (xs ++ [x]) = if x ∈ firsts xs then firsts xs else firsts xs ++ [x] := by
  rw [firsts, List.foldl_append]
  rfl

theorem mem_firsts {xs : List α} {x : α} : x ∈ firsts xs ↔ x ∈ xs := by
  induction xs using List.reverseRecOn with
  | nil => rfl
  | append_singleton xs y ih =>
    rw [firsts_concat, List.mem_append, List.mem_singleton, ← ih]
    by_cases hy : y ∈ firsts xs
    · rw [if_pos hy]
      constructor
      · exact Or.inl
      · rintro (hx | rfl)
        · exact hx
        · exact hy
    · rw [if_neg hy, List.mem_append, List.mem_singleton]

theorem nodup_firsts (xs : List α) : (firsts xs).Nodup := by
  induction xs using List.reverseRecOn with
  | nil => exact List.nodup_nil
  | append_singleton xs x ih =>
    rw [firsts_concat]
    by_cases hx : x ∈ firsts xs
    · rwa [if_pos hx]
    · rw [if_neg hx, List.nodup_append]
      refine ⟨ih, List.nodup_singleton x, ?_⟩
      rintro y hy z hz rfl
      exact hx (List.mem_singleton.1 hz ▸ hy)

/-- Items that a function tells apart have first occurrences in the same order as what it makes of them. -/
theorem firsts_map {f : α → κ} {xs : List α} (hf : ∀ x ∈ xs, ∀ y ∈ xs, f x = f y → x = y) : firsts (xs.map f) = (firsts xs).map f := by
  induction xs using List.reverseRecOn with
  | nil => rfl
  | append_singleton xs x ih =>
    have hxs : firsts (xs.map f) = (firsts xs).map f :=
      ih fun y hy z hz => hf y (List.mem_append_left _ hy) z (List.mem_append_left _ hz)
    have hx : f x ∈ (firsts xs).map f ↔ x ∈ firsts xs := by
      constructor
      · rw [List.mem_map]
        rintro ⟨y, hy, heq⟩
        have hmem : y ∈ xs ++ [x] := List.mem_append_left _ (mem_firsts.1 hy)
        rwa [← hf y hmem x (List.mem_append_right _ (List.mem_singleton_self x)) heq]
      · exact List.mem_map_of_mem
    rw [List.map_append, List.map_singleton, firsts_concat, firsts_concat, hxs, if_congr hx rfl rfl]
    split
    · rfl
    · rw [List.map_append, List.map_singleton]

/-- Of two items, the one that occurs first stands first among the first occurrences. -/
theorem pairwise_firsts (xs : List α) : (firsts xs).Pairwise fun x y => xs.idxOf x < xs.idxOf y := by
  induction xs using List.reverseRecOn with
  | nil => exact List.Pairwise.nil
  | append_singleton xs x ih =>
    have hold : (firsts xs).Pairwise fun y z => (xs ++ [x]).idxOf y < (xs ++ [x]).idxOf z := by
      refine ih.imp_of_mem fun hy hz hlt => ?_
      rwa [List.idxOf_append_of_mem (mem_firsts.1 hy), List.idxOf_append_of_mem (mem_firsts.1 hz)]
    rw [firsts_concat]
    by_cases hx : x ∈ firsts xs
    · rwa [if_pos hx]
    · rw [if_neg hx, List.pairwise_append]
      refine ⟨hold, List.pairwise_singleton _ x, fun y hy z hz => ?_⟩
      rw [List.mem_singleton.1 hz, List.idxOf_append_of_mem (mem_firsts.1 hy), List.idxOf_append_of_notMem fun h => hx (mem_firsts.2 h)]
      exact Nat.lt_of_lt_of_le (List.idxOf_lt_length_of_mem (mem_firsts.1 hy)) (Nat.le_add_right _ _)

/-- And the other way round. -/
theorem idxOf_lt_of_firsts {xs : List α} {x y : α} (hy : y ∈ xs) (h : (firsts xs).idxOf x < (firsts xs).idxOf y) : xs.idxOf x < xs.idxOf y := by
  have hylt : (firsts xs).idxOf y < (firsts xs).length := List.idxOf_lt_length_of_mem (mem_firsts.2 hy)
  have hlt := List.pairwise_iff_getElem.1 (pairwise_firsts xs) _ _ (Nat.lt_trans h hylt) hylt h
  rwa [List.getElem_idxOf, List.getElem_idxOf] at hlt

/-- What has brought the first of some keys came no later than what has one that comes after it. -/
theorem idxOf_le_of_find? {f : α → List κ} {xs : List α} {key key' : κ} {x y : α}
    (hkey : (xs.flatMap f).idxOf key < (xs.flatMap f).idxOf key') (hx : xs.find? (fun z => (f z).contains key) = some x) (hy : y ∈ xs)
    (hkey' : key' ∈ f y) : xs.idxOf x ≤ xs.idxOf y := by
  induction xs with
  | nil => cases hy
  | cons z xs ih =>
    rw [List.flatMap_cons] at hkey
    rw [List.find?_cons] at hx
    by_cases hz : key ∈ f z
    · rw [List.contains_iff_mem.2 hz] at hx
      rw [← Option.some.inj hx, List.idxOf_cons_self]
      exact Nat.zero_le _
    · have hcontains : (f z).contains key = false := Bool.eq_false_iff.2 fun h => hz (List.contains_iff_mem.1 h)
      rw [hcontains] at hx
      have hnot : key' ∉ f z := by
        intro hmem
        rw [List.idxOf_append_of_notMem hz, List.idxOf_append_of_mem hmem] at hkey
        exact Nat.not_lt.2 (Nat.le_add_right _ _) (Nat.lt_trans hkey (List.idxOf_lt_length_of_mem hmem))
      have hzx : x ≠ z := by
        rintro rfl
        have h := List.find?_some hx
        exact hz (List.contains_iff_mem.1 h)
      have hzy : y ≠ z := by
        rintro rfl
        exact hnot hkey'
      rw [List.idxOf_append_of_notMem hz, List.idxOf_append_of_notMem hnot] at hkey
      rw [List.idxOf_cons_ne _ hzx.symm, List.idxOf_cons_ne _ hzy.symm]
      exact Nat.succ_le_succ (ih (Nat.lt_of_add_lt_add_left hkey) hx ((List.mem_cons.1 hy).resolve_left hzy))

/-- What some keys lead to stands in the order of the first keys that lead there. -/
theorem pairwise_firsts_filterMap (f : κ → Option α) (keys : List κ) :
    (firsts (keys.filterMap f)).Pairwise fun x y =>
      ∃ key ∈ keys, f key = some x ∧ ∀ key' ∈ keys, f key' = some y → keys.idxOf key < keys.idxOf key' := by
  induction keys using List.reverseRecOn with
  | nil => exact List.Pairwise.nil
  | append_singleton keys last ih =>
    -- The last key does not come before a key that is there already.
    have hlast : ∀ key ∈ keys, ∀ y, (∀ key' ∈ keys, f key' = some y → keys.idxOf key < keys.idxOf key') →
        ∀ key' ∈ keys ++ [last], f key' = some y → (keys ++ [last]).idxOf key < (keys ++ [last]).idxOf key' := by
      intro key hkey y hold key' hkey' hy
      rw [List.idxOf_append_of_mem hkey]
      by_cases hmem : key' ∈ keys
      · rw [List.idxOf_append_of_mem hmem]
        exact hold key' hmem hy
      · rw [List.idxOf_append_of_notMem hmem]
        exact Nat.lt_of_lt_of_le (List.idxOf_lt_length_of_mem hkey) (Nat.le_add_right _ _)
    have hold : (firsts (keys.filterMap f)).Pairwise fun x y =>
        ∃ key ∈ keys ++ [last], f key = some x ∧
          ∀ key' ∈ keys ++ [last], f key' = some y → (keys ++ [last]).idxOf key < (keys ++ [last]).idxOf key' := by
      refine ih.imp fun h => ?_
      obtain ⟨key, hkey, hx, hbefore⟩ := h
      exact ⟨key, List.mem_append_left _ hkey, hx, hlast key hkey _ hbefore⟩
    rw [List.filterMap_append]
    cases hz : f last with
    | none => simpa [hz] using hold
    | some z =>
      have hsingle : [last].filterMap f = [z] := by simp [hz]
      rw [hsingle, firsts_concat]
      by_cases hmem : z ∈ firsts (keys.filterMap f)
      · rwa [if_pos hmem]
      · rw [if_neg hmem, List.pairwise_append]
        refine ⟨hold, List.pairwise_singleton _ z, fun x hx y hy => ?_⟩
        obtain ⟨key, hkey, hfx⟩ := List.mem_filterMap.1 (mem_firsts.1 hx)
        refine ⟨key, List.mem_append_left _ hkey, hfx, hlast key hkey y fun key' hkey' hfy => ?_⟩
        rw [List.mem_singleton.1 hy] at hfy
        exact absurd (mem_firsts.2 (List.mem_filterMap.2 ⟨key', hkey', hfy⟩)) hmem

theorem distinct_eq_firsts (ts : List Text) : distinct ts = firsts ts := rfl

end Firsts

/-! ## Objects under keys -/

namespace ModelRegistry

section Objects

variable {ι : Type} (model : ι → NoteModel)

/-- The last of some objects that is known by a key. -/
def holder? (objects : List ι) (key : Text) : Option ι := (objects.filter fun i => (model i).identifiers.contains key).getLast?

/-- The first of some objects that is known by a key. -/
def founder? (objects : List ι) (key : Text) : Option ι := objects.find? fun i => (model i).identifiers.contains key

/-- The registry that lists of objects leave, merged one after the other. -/
def ofObjects (lists : List (List ι)) : ModelRegistry := mergeAll (lists.map fun objects => objects.map model)

/-- The objects that stand under the keys of the registry, in the order of their first keys. -/
def standing [DecidableEq ι] (lists : List (List ι)) : List ι := firsts ((ofObjects model lists).keys.filterMap (holder? model lists.flatten))

variable {model}

/-- An object that holds a key is one of the objects and is known by it. -/
theorem mem_of_holder? {objects : List ι} {key : Text} {i : ι} (h : holder? model objects key = some i) :
    i ∈ objects ∧ key ∈ (model i).identifiers := by
  obtain ⟨hmem, hkey⟩ := List.mem_filter.1 (List.mem_of_getLast? h)
  exact ⟨hmem, List.contains_iff_mem.1 hkey⟩

/-- Under a key stands the model of the object that holds it. -/
theorem get?_ofObjects (lists : List (List ι)) (key : Text) :
    (ofObjects model lists).get? key = (holder? model lists.flatten key).map model := by
  have hflatten : (lists.map fun objects => objects.map model).flatten = lists.flatten.map model := List.map_flatten.symm
  have hlast : NoteModel.lastKnown? key (lists.flatten.map model) = (holder? model lists.flatten key).map model := by
    rw [NoteModel.lastKnown?, List.filter_map, List.getLast?_map]
    rfl
  rw [ofObjects, mergeAll_eq, hflatten, get?_merge, hlast]
  exact Option.or_none

/-- And a reference leads to it; no object is known by an empty text. -/
theorem lookup_ofObjects (lists : List (List ι)) (key : Text) :
    (ofObjects model lists).lookup (some key) = (holder? model lists.flatten key).map model := by
  by_cases hkey : nonEmpty key = true
  · rw [lookup_of_nonEmpty hkey, get?_ofObjects]
  · have hnone : holder? model lists.flatten key = none := by
      rw [Option.eq_none_iff_forall_ne_some]
      intro i hi
      exact hkey (NoteModel.nonEmpty_of_mem_identifiers (mem_of_holder? hi).2)
    rw [nonEmpty, Bool.not_eq_true', Bool.not_eq_false] at hkey
    rw [hnone, lookup, hkey, if_pos rfl, Option.map_none]

/-- The keys of the registry are those by which objects are known, each at its first place. -/
theorem keys_ofObjects (lists : List (List ι)) :
    (ofObjects model lists).keys = firsts (lists.flatten.flatMap fun i => (model i).identifiers) := by
  have hflatten : (lists.map fun objects => objects.map model).flatten = lists.flatten.map model := List.map_flatten.symm
  rw [ofObjects, keys_mergeAll, keysOf, hflatten, List.flatMap_map, Collection.items_insertAll_empty, distinct_eq_firsts]

/-- A key that an object holds is one of the registry. -/
theorem mem_keys_of_holder? {lists : List (List ι)} {key : Text} {i : ι} (h : holder? model lists.flatten key = some i) :
    key ∈ (ofObjects model lists).keys := by
  obtain ⟨hmem, hkey⟩ := mem_of_holder? h
  rw [keys_ofObjects, mem_firsts]
  exact List.mem_flatMap.2 ⟨i, hmem, hkey⟩

/-- What is last in a row is last of those in the row that pass a test, if it passes. -/
theorem getLast?_filter_of {α : Type} {p : α → Bool} {xs : List α} {x : α} (h : xs.getLast? = some x) (hx : p x = true) :
    (xs.filter p).getLast? = some x := by
  obtain ⟨ys, rfl⟩ := List.getLast?_eq_some_iff.1 h
  rw [List.filter_append, List.filter_cons_of_pos hx, List.filter_nil, List.getLast?_append, List.getLast?_singleton, Option.some_or]

/-- Two objects that are the same model do not both stand under some key. -/
theorem eq_of_holder? {objects : List ι} {key key' : Text} {i j : ι} (hi : holder? model objects key = some i)
    (hj : holder? model objects key' = some j) (hsame : model i = model j) : i = j := by
  have hi' := getLast?_filter_of (p := fun o => (model o).identifiers.contains key') hi
    (List.contains_iff_mem.2 (hsame ▸ (mem_of_holder? hj).2))
  have hj' := getLast?_filter_of (p := fun o => (model o).identifiers.contains key) hj
    (List.contains_iff_mem.2 (hsame ▸ (mem_of_holder? hi).2))
  rw [List.filter_comm, hj'] at hi'
  exact (Option.some.inj hi').symm

/-! ## What is listed -/

variable [DecidableEq ι]

/-- An object stands if it holds a key. -/
theorem mem_standing {lists : List (List ι)} {i : ι} : i ∈ standing model lists ↔ ∃ key, holder? model lists.flatten key = some i := by
  rw [standing, mem_firsts, List.mem_filterMap]
  constructor
  · rintro ⟨key, -, hi⟩
    exact ⟨key, hi⟩
  · rintro ⟨key, hi⟩
    exact ⟨key, mem_keys_of_holder? hi, hi⟩

end Objects

/-- Where the keys are all different, each leads to the model beside it. -/
theorem get?_of_mem {r : ModelRegistry} (hn : r.keys.Nodup) {e : Text × NoteModel} (he : e ∈ r.entries) : r.get? e.1 = some e.2 := by
  obtain ⟨entries⟩ := r
  simp only [keys, get?] at hn he ⊢
  induction entries with
  | nil => cases he
  | cons e' entries ih =>
    obtain ⟨hnot, hn⟩ := List.nodup_cons.1 hn
    rcases List.mem_cons.1 he with rfl | he
    · simp only [List.find?_cons, beq_self_eq_true, Option.map_some]
    · have hne : e'.1 ≠ e.1 := by
        intro h
        exact hnot (List.mem_map.2 ⟨e, he, h.symm⟩)
      simp only [List.find?_cons, beq_false_of_ne hne]
      exact ih hn he

/-- So the models in a row are what the keys lead to. -/
theorem values_eq {r : ModelRegistry} (hn : r.keys.Nodup) : r.entries.map (·.2) = r.keys.filterMap fun key => r.get? key := by
  rw [keys, List.filterMap_map, ← List.filterMap_eq_map]
  exact List.filterMap_congr fun e he => (get?_of_mem hn he).symm

theorem models_eq (r : ModelRegistry) : r.models = firsts (r.entries.map (·.2)) := by
  rw [models, firsts, List.foldl_map]

section Listing

variable {ι : Type} [DecidableEq ι] (model : ι → NoteModel) (lists : List (List ι))

/-- The models that are listed are those of the objects that stand. -/
theorem models_ofObjects : (ofObjects model lists).models = (standing model lists).map model := by
  have hn : (ofObjects model lists).keys.Nodup := by
    rw [keys_ofObjects]
    exact nodup_firsts _
  have hget : ∀ key, (ofObjects model lists).get? key = (holder? model lists.flatten key).map model := get?_ofObjects lists
  rw [models_eq, values_eq hn, standing]
  simp only [hget]
  rw [← List.map_filterMap]
  refine firsts_map fun i hi j hj hsame => ?_
  obtain ⟨key, -, hi⟩ := List.mem_filterMap.1 hi
  obtain ⟨key', -, hj⟩ := List.mem_filterMap.1 hj
  exact eq_of_holder? hi hj hsame

/-- The objects stand in the order of the first keys that they hold. -/
theorem standing_by_keys :
    (standing model lists).Pairwise fun i j => ∃ key, holder? model lists.flatten key = some i ∧
      ∀ key', holder? model lists.flatten key' = some j → (ofObjects model lists).keys.idxOf key < (ofObjects model lists).keys.idxOf key' := by
  refine (pairwise_firsts_filterMap (holder? model lists.flatten) (ofObjects model lists).keys).imp fun h => ?_
  obtain ⟨key, -, hi, hbefore⟩ := h
  exact ⟨key, hi, fun key' hj => hbefore key' (mem_keys_of_holder? hj) hj⟩

/-- An object that has taken over no key is listed before such as have been registered after it. -/
theorem standing_by_time :
    (standing model lists).Pairwise fun i j =>
      (∀ key, holder? model lists.flatten key = some i → founder? model lists.flatten key = some i) →
        lists.flatten.idxOf i < lists.flatten.idxOf j := by
  have hne : (standing model lists).Pairwise fun i j => i ≠ j := nodup_firsts _
  refine ((standing_by_keys model lists).and hne).imp_of_mem fun _ hj h hfounder => ?_
  obtain ⟨⟨key, hi, hbefore⟩, hij⟩ := h
  obtain ⟨key', hj⟩ := mem_standing.1 hj
  have hlt := hbefore key' hj
  obtain ⟨hjmem, hjkey⟩ := mem_of_holder? hj
  rw [keys_ofObjects] at hlt
  have hle := idxOf_le_of_find? (idxOf_lt_of_firsts (List.mem_flatMap.2 ⟨_, hjmem, hjkey⟩) hlt) (hfounder key hi) hjmem hjkey
  refine Nat.lt_of_le_of_ne hle fun heq => hij ?_
  exact List.idxOf_inj (mem_of_holder? hi).1 |>.1 heq

/-- The models that a registry lists after lists of objects have been merged into it. They are those of the objects that stand under some
key, each once, and of no others; what a key leads to is the model of the object that stands under it. The objects are listed in the order of
the first keys under which they stand. So one that has taken over none of its keys is listed before such as have been registered after it, and
where no key has changed hands, the order is that of the first registrations. -/
theorem models_listed :
    (ofObjects model lists).models = (standing model lists).map model ∧ (standing model lists).Nodup ∧
      (∀ i, i ∈ standing model lists ↔ ∃ key, holder? model lists.flatten key = some i) ∧
      (∀ key, (ofObjects model lists).lookup (some key) = (holder? model lists.flatten key).map model) ∧
      ((standing model lists).Pairwise fun i j => ∃ key, holder? model lists.flatten key = some i ∧
        ∀ key', holder? model lists.flatten key' = some j →
          (ofObjects model lists).keys.idxOf key < (ofObjects model lists).keys.idxOf key') ∧
      ((standing model lists).Pairwise fun i j =>
        (∀ key, holder? model lists.flatten key = some i → founder? model lists.flatten key = some i) →
          lists.flatten.idxOf i < lists.flatten.idxOf j) ∧
      ((∀ key, founder? model lists.flatten key = holder? model lists.flatten key) →
        (standing model lists).Pairwise fun i j => lists.flatten.idxOf i < lists.flatten.idxOf j) := by
  refine ⟨models_ofObjects model lists, nodup_firsts _, fun i => mem_standing, fun key => ?_, standing_by_keys model lists,
    standing_by_time model lists, fun hsame => ?_⟩
  · exact lookup_ofObjects lists key
  · exact (standing_by_time model lists).imp fun h => h fun key hi => (hsame key).trans hi

end Listing

/-- A model with a unique name of its own. -/
def called (uuid name : Text) : NoteModel := ⟨some uuid, none, name, [], [], []⟩

/-- Two models, and then one that takes over the key of the first. -/
def overtaking : List (List NoteModel) := [[called "a" "A", called "b" "B"], [called "a" "C"]]

/-- The last of them is listed at the place of the first, before the one that has been registered before it. -/
theorem models_overtaking :
    (mergeAll overtaking).models = [called "a" "C", called "b" "B"] ∧
      ¬(mergeAll overtaking).models.Pairwise fun m m' => overtaking.flatten.idxOf m < overtaking.flatten.idxOf m' := by
  decide

end ModelRegistry

end Flashcards
