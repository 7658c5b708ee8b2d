import Flashcards.Cache
import Flashcards.Proofs.Agenda

/-!
# Loads under way

The loads of a cache have distinct keys (`Cache.Distinct`), and every operation of the cache keeps that. What an operation does to a sum
over all loads is then what it does to the one load of its path (`Cache.total_addWaiter`, `Cache.total_settleLoad`,
`Cache.total_forget`). A request is one of six things (`Cache.Asked`).

Work at a cache goes on in threads. Each request has one, and so has each load: on its way to its outcome, and on its way to be
forgotten. Two sums say which threads the loads have to do with: those who wait for a load hold their threads (`Cache.holds`), and a load
needs the thread of its own that brings it further (`Cache.owes`).
-/

namespace Flashcards

namespace Json

/-- What a value counts as where it is a key. -/
inductive Key where
  | number (n : Int)
  | value (v : Json)
  deriving DecidableEq

/-- What a value counts as where it is a key: the number it has, or itself. -/
def key (v : Json) : Key :=
  match v.asNumber? with
  | some n => .number n
  | none => .value v

/-- Two values are the same key if they count as the same. -/
theorem sameKey_iff {a b : Json} : a.sameKey b = true ↔ a.key = b.key := by
  rw [sameKey, key, key]
  cases a.asNumber? <;> cases b.asNumber? <;> simp

theorem sameKey_refl (a : Json) : a.sameKey a = true := sameKey_iff.2 rfl

/-- Texts count as themselves. -/
theorem key_text (t : Text) : (Json.text t).key = .value (.text t) := rfl

/-- The key of a text is that of nothing else. -/
theorem eq_text_of_key {v : Json} {t : Text} (h : v.key = (Json.text t).key) : v = .text t := by
  rw [key_text, key] at h
  split at h
  · cases h
  · exact Key.value.inj h

end Json

namespace Cache

variable {Waiter : Type}

/-- What the paths of the loads count as. -/
def keys (c : Cache Waiter) : List (Json.Key) := c.loads.map fun l => l.path.key

/-- No two loads have the same key. -/
def Distinct (c : Cache Waiter) : Prop := c.keys.Nodup

/-- A sum over all loads. -/
def total (g : Load Waiter → Nat) (c : Cache Waiter) : Nat := (c.loads.map g).sum

/-! ## Requests -/

/-- What becomes of a request: the six cases. -/
inductive Asked (waiter : Waiter) (path : Json) (c : Cache Waiter) : Cache Waiter × Reply Waiter → Prop
  | blank (hb : path.isBlank = true) : Asked waiter path c (c, .now (.ok .null))
  | notAKey (hb : path.isBlank = false) (hk : path.isKey = false) : Asked waiter path c (c, .now (.error (.notAKey path.kind)))
  | stored {data : Json} (hb : path.isBlank = false) (hk : path.isKey = true) (hs : c.stored? path = some data) :
    Asked waiter path c (c, .now (.ok data))
  | begins (hb : path.isBlank = false) (hk : path.isKey = true) (hs : c.stored? path = none) (hl : c.load? path = none) :
    Asked waiter path c ({ c with loads := c.loads ++ [⟨path, [waiter], none⟩] }, .later [.load path])
  | loaded {load : Load Waiter} {outcome : Outcome} (hb : path.isBlank = false) (hk : path.isKey = true)
    (hs : c.stored? path = none) (hl : c.load? path = some load) (ho : load.outcome = some outcome) :
    Asked waiter path c (c, .now outcome)
  | joins {load : Load Waiter} (hb : path.isBlank = false) (hk : path.isKey = true) (hs : c.stored? path = none)
    (hl : c.load? path = some load) (ho : load.outcome = none) :
    Asked waiter path c (c.addWaiter waiter path, .later [])

/-- A request is one of the six cases. -/
theorem asked (waiter : Waiter) (path : Json) (c : Cache Waiter) : Asked waiter path c (c.ask waiter path) := by
  rw [ask]
  cases hb : path.isBlank with
  | true => exact .blank hb
  | false =>
    cases hk : path.isKey with
    | false => exact .notAKey hb hk
    | true =>
      rw [if_neg Bool.false_ne_true, if_neg (by decide)]
      cases hs : c.stored? path with
      | some data => exact .stored hb hk hs
      | none =>
        cases hl : c.load? path with
        | none => exact .begins hb hk hs hl
        | some load =>
          cases ho : load.outcome with
          | some outcome => simp only [ho]; exact .loaded hb hk hs hl ho
          | none => simp only [ho]; exact .joins hb hk hs hl ho

/-! ## The load of a path -/

theorem load?_path {c : Cache Waiter} {path : Json} {load : Load Waiter} (h : c.load? path = some load) :
    load.path.key = path.key :=
  Json.sameKey_iff.1 (List.find?_some (p := fun l : Load Waiter => l.path.sameKey path) h)

theorem load?_mem {c : Cache Waiter} {path : Json} {load : Load Waiter} (h : c.load? path = some load) : load ∈ c.loads :=
  List.mem_of_find?_eq_some h

/-- A path has no load exactly when no load has its key. -/
theorem load?_eq_none_iff {c : Cache Waiter} {path : Json} : c.load? path = none ↔ path.key ∉ c.keys := by
  rw [load?, List.find?_eq_none, keys, List.mem_map]
  simp only [Json.sameKey_iff, not_exists, not_and]

/-- Of loads of distinct keys, one at most has the key of a path. -/
theorem countP_sameKey_le {c : Cache Waiter} (hd : c.Distinct) (path : Json) :
    (c.loads.countP fun l => l.path.sameKey path) ≤ 1 := by
  have hcount := List.nodup_iff_count.1 hd path.key
  rw [keys, List.count_eq_countP, List.countP_map] at hcount
  refine Nat.le_trans (Nat.le_of_eq (List.countP_congr fun l _ => ?_)) hcount
  rw [Json.sameKey_iff, Function.comp, beq_iff_eq]

/-- A load whose key is that of a path is the load of the path. -/
theorem load?_of_mem {c : Cache Waiter} (hd : c.Distinct) {load : Load Waiter} (hl : load ∈ c.loads) {path : Json}
    (hp : load.path.key = path.key) : c.load? path = some load :=
  Sum.find?_of_mem (countP_sameKey_le hd path) hl (Json.sameKey_iff.2 hp)

/-! ### After an operation -/

/-- A change of the loads of a path that keeps their paths changes what is found for the path. -/
theorem find?_map_update {f : Load Waiter → Load Waiter} (hf : ∀ l, (f l).path = l.path) (path q : Json) (loads : List (Load Waiter)) :
    (loads.map fun l => if l.path.sameKey path then f l else l).find? (fun l => l.path.sameKey q) =
      (loads.find? fun l => l.path.sameKey q).map fun l => if l.path.sameKey path then f l else l := by
  rw [List.find?_map]
  congr 2
  funext l
  rw [Function.comp]
  split
  · rw [hf]
  · rfl

theorem load?_addWaiter (waiter : Waiter) (path q : Json) (c : Cache Waiter) :
    (c.addWaiter waiter path).load? q =
      (c.load? q).map fun l => if l.path.sameKey path then { l with waiters := l.waiters ++ [waiter] } else l :=
  find?_map_update (f := fun l => { l with waiters := l.waiters ++ [waiter] }) (fun _ => rfl) path q c.loads

theorem load?_settleLoad (path q : Json) (outcome : Outcome) (c : Cache Waiter) :
    (c.settleLoad path outcome).load? q =
      (c.load? q).map fun l => if l.path.sameKey path then { l with outcome := some outcome } else l :=
  find?_map_update (f := fun l => { l with outcome := some outcome }) (fun _ => rfl) path q c.loads

theorem load?_begins (c : Cache Waiter) (load : Load Waiter) (q : Json) :
    load? q { c with loads := c.loads ++ [load] } =
      (c.load? q).or (if load.path.sameKey q then some load else none) := by
  rw [load?, load?, List.find?_append, List.find?_singleton]

/-- A load that is forgotten is gone, and the others stay. -/
theorem load?_forget (path q : Json) (c : Cache Waiter) :
    (c.forget path).load? q = if q.key = path.key then none else c.load? q := by
  rw [load?, load?, forget, List.find?_filter]
  split
  · rename_i h
    rw [List.find?_eq_none]
    intro l _
    simp only [Bool.not_eq_true', ← Bool.not_eq_true, Json.sameKey_iff, decide_eq_true_eq]
    exact fun hl => hl.1 (hl.2.trans h)
  · rename_i h
    congr 1
    funext l
    rw [Bool.eq_iff_iff]
    simp only [Bool.not_eq_true', ← Bool.not_eq_true, Json.sameKey_iff, decide_eq_true_eq]
    exact ⟨fun hl => hl.2, fun hl => ⟨fun hp => h (hl.symm.trans hp), hl⟩⟩

/-! ### What is stored -/

/-- A resource that is stored for a path under which there is none stands at the end. -/
theorem putStored_of_none {path data : Json} {entries : List (Json × Json)}
    (h : entries.find? (fun e => e.1.sameKey path) = none) : putStored path data entries = entries ++ [(path, data)] := by
  induction entries with
  | nil => rfl
  | cons e entries ih =>
    rw [List.find?_cons] at h
    cases he : e.1.sameKey path with
    | true => simp [he] at h
    | false =>
      rw [putStored, if_neg (by rw [he]; exact Bool.false_ne_true), ih (by simpa [he] using h)]
      rfl

/-- What is put under a path is the only new thing that is stored. -/
theorem mem_putStored {path data : Json} {entries : List (Json × Json)} {e : Json × Json} (h : e ∈ putStored path data entries) :
    e ∈ entries ∨ e.1.key = path.key ∧ data = e.2 := by
  induction entries with
  | nil => exact Or.inr (List.mem_singleton.1 h ▸ ⟨rfl, rfl⟩)
  | cons e' entries ih =>
    rw [putStored] at h
    split at h
    · rename_i hkey
      rcases List.mem_cons.1 h with rfl | h
      · exact Or.inr ⟨Json.sameKey_iff.1 hkey, rfl⟩
      · exact Or.inl (List.mem_cons_of_mem _ h)
    · rcases List.mem_cons.1 h with rfl | h
      · exact Or.inl List.mem_cons_self
      · exact (ih h).imp_left (List.mem_cons_of_mem _)

/-- What an outcome stores is the value that it is, under the path. -/
theorem mem_store {c : Cache Waiter} {path : Json} {outcome : Outcome} {e : Json × Json} (h : e ∈ (c.store path outcome).stored) :
    e ∈ c.stored ∨ e.1.key = path.key ∧ outcome = .ok e.2 := by
  cases outcome with
  | error failure => exact Or.inl h
  | ok data => exact (mem_putStored h).imp_right fun ⟨hkey, hdata⟩ => ⟨hkey, congrArg _ hdata⟩

/-- A value that is put under a path is found there, and everything else is found as before. -/
theorem find?_putStored (path q data : Json) (entries : List (Json × Json)) :
    ((putStored path data entries).find? fun e => e.1.sameKey q).map (·.2) =
      if path.key = q.key then some data else (entries.find? fun e => e.1.sameKey q).map (·.2) := by
  induction entries with
  | nil =>
    rw [putStored, List.find?_singleton]
    simp only [Json.sameKey_iff]
    split <;> rfl
  | cons e entries ih =>
    have hq : e.1.sameKey q = true ↔ e.1.key = q.key := Json.sameKey_iff
    by_cases hp : e.1.key = path.key
    · rw [putStored, if_pos (Json.sameKey_iff.2 hp), List.find?_cons, List.find?_cons, ← hp]
      dsimp only
      cases h : e.1.sameKey q with
      | true => rw [if_pos (hq.1 h)]; rfl
      | false => rw [if_neg fun hkey => Bool.false_ne_true (h.symm.trans (hq.2 hkey))]
    · rw [putStored, if_neg fun h => hp (Json.sameKey_iff.1 h), List.find?_cons, List.find?_cons]
      dsimp only
      cases h : e.1.sameKey q with
      | true => rw [if_neg fun hkey => hp ((hq.1 h).trans hkey.symm)]
      | false => exact ih

/-- What is stored for a path when a value has been stored. -/
theorem stored?_put (path q data : Json) (c : Cache Waiter) :
    (c.store path (.ok data)).stored? q = if path.key = q.key then some data else c.stored? q :=
  find?_putStored path q data c.stored

theorem stored?_eq_none_iff {c : Cache Waiter} {path : Json} :
    c.stored? path = none ↔ c.stored.find? (fun e => e.1.sameKey path) = none := by
  rw [stored?, Option.map_eq_none_iff]

/-! ## Sums over all loads -/

section Sums

variable {c : Cache Waiter} {path : Json} {load : Load Waiter}

theorem total_begins (g : Load Waiter → Nat) (c : Cache Waiter) (load : Load Waiter) :
    total g { c with loads := c.loads ++ [load] } = c.total g + g load := by
  simp only [total, List.map_append, List.sum_append, List.map_cons, List.map_nil, List.sum_cons, List.sum_nil]
  omega

/-- One who waits is one more for the load of the path. -/
theorem total_addWaiter (g : Load Waiter → Nat) (hd : c.Distinct) (hl : c.load? path = some load) (waiter : Waiter) :
    (c.addWaiter waiter path).total g + g load = c.total g + g { load with waiters := load.waiters ++ [waiter] } :=
  Sum.map_update (countP_sameKey_le hd path) hl

/-- An outcome is written down for the load of the path. -/
theorem total_settleLoad (g : Load Waiter → Nat) (hd : c.Distinct) (hl : c.load? path = some load) (outcome : Outcome) :
    (c.settleLoad path outcome).total g + g load = c.total g + g { load with outcome := some outcome } :=
  Sum.map_update (countP_sameKey_le hd path) hl

/-- The load that is forgotten is that of the path. -/
theorem total_forget (g : Load Waiter → Nat) (hd : c.Distinct) (hl : c.load? path = some load) :
    (c.forget path).total g + g load = c.total g :=
  Sum.filter_not (countP_sameKey_le hd path) hl

/-- What is stored makes no difference for the loads. -/
theorem loads_store (path : Json) (outcome : Outcome) (c : Cache Waiter) : (c.store path outcome).loads = c.loads := by
  cases outcome <;> rfl

theorem total_store (g : Load Waiter → Nat) (path : Json) (outcome : Outcome) (c : Cache Waiter) :
    (c.store path outcome).total g = c.total g := by
  rw [total, total, loads_store]

theorem load?_store (path path' : Json) (outcome : Outcome) (c : Cache Waiter) :
    (c.store path outcome).load? path' = c.load? path' := by
  rw [load?, load?, loads_store]

theorem keys_store (path : Json) (outcome : Outcome) (c : Cache Waiter) : (c.store path outcome).keys = c.keys := by
  rw [keys, keys, loads_store]

theorem fetches_store (path : Json) (outcome : Outcome) (c : Cache Waiter) : (c.store path outcome).fetches = c.fetches := by
  cases outcome <;> rfl

end Sums

/-! ## Distinct keys -/

section Distinct

variable {c : Cache Waiter} {path : Json}

theorem empty_distinct : (empty : Cache Waiter).Distinct := List.nodup_nil

/-- A change of loads that keeps their paths keeps their keys. -/
theorem map_update_keys {f : Load Waiter → Load Waiter} (hf : ∀ l, (f l).path = l.path) (loads : List (Load Waiter)) :
    ((loads.map fun l => if l.path.sameKey path then f l else l).map fun l => l.path.key) = loads.map fun l => l.path.key := by
  rw [List.map_map]
  refine List.map_congr_left fun l _ => ?_
  show (if l.path.sameKey path = true then f l else l).path.key = l.path.key
  split
  · rw [hf]
  · rfl

theorem keys_addWaiter (waiter : Waiter) (path : Json) (c : Cache Waiter) : (c.addWaiter waiter path).keys = c.keys :=
  map_update_keys (f := fun l => { l with waiters := l.waiters ++ [waiter] }) (fun _ => rfl) c.loads

theorem keys_settleLoad (path : Json) (outcome : Outcome) (c : Cache Waiter) : (c.settleLoad path outcome).keys = c.keys :=
  map_update_keys (f := fun l => { l with outcome := some outcome }) (fun _ => rfl) c.loads

theorem begins_distinct (hd : c.Distinct) (hl : c.load? path = none) (waiters : List Waiter) :
    Distinct { c with loads := c.loads ++ [⟨path, waiters, none⟩] } := by
  rw [load?_eq_none_iff] at hl
  rw [Distinct, keys, List.map_append]
  refine List.nodup_append.2 ⟨hd, by simp, ?_⟩
  intro κ hκ κ' hκ' heq
  rw [List.map_singleton, List.mem_singleton] at hκ'
  exact hl (hκ' ▸ heq ▸ hκ)

theorem forget_distinct (hd : c.Distinct) (path : Json) : (c.forget path).Distinct :=
  List.Nodup.sublist (List.filter_sublist.map _) hd

/-- An answer that is received keeps the keys distinct. -/
theorem finish_distinct (hd : c.Distinct) (path : Json) (answer : Answer) : (c.finish path answer).1.Distinct := by
  rw [finish, Distinct, keys_settleLoad, keys_store]
  exact hd

end Distinct

end Cache

/-! ## Threads -/

/-- A thread of work. -/
inductive Thread where
  /-- A call on its way to its end. -/
  | call (call : Nat)
  /-- The data of a deck on its way to a call. -/
  | data (call : Nat)
  /-- The notes of a deck on their way to a call. -/
  | notes (call : Nat)
  /-- A load on its way to its outcome. -/
  | load (key : Json.Key)
  /-- A load that is to be forgotten. -/
  | forget (key : Json.Key)
  deriving DecidableEq

namespace Thread

/-- One if a thread is a given one, else zero. -/
def one (θ θ' : Thread) : Nat := if θ' = θ then 1 else 0

@[simp]
theorem one_self (θ : Thread) : θ.one θ = 1 := if_pos rfl

theorem one_of_ne {θ θ' : Thread} (h : θ' ≠ θ) : θ.one θ' = 0 := if_neg h

theorem one_pos {θ θ' : Thread} : 0 < θ.one θ' ↔ θ' = θ := by
  rw [one]
  split <;> simp_all

/-- A sum over the threads of loads counts the loads of a key. -/
theorem sum_one (key : Json.Key) (keys : List Json.Key) :
    (keys.map fun κ => (Thread.load key).one (.load κ)).sum = keys.count key := by
  induction keys with
  | nil => rfl
  | cons κ keys ih =>
    rw [List.map_cons, List.sum_cons, ih, List.count_cons, one]
    by_cases hκ : κ = key
    · simp [hκ, Nat.add_comm]
    · simp [hκ]

/-- One for the thread of a call that has been made, else zero. -/
def made (calls : Nat) : Thread → Nat
  | .call k => if k < calls then 1 else 0
  | _ => 0

/-- A call that is made has a thread. -/
theorem made_succ (θ : Thread) (calls : Nat) : θ.made (calls + 1) = θ.made calls + θ.one (.call calls) := by
  cases θ with
  | call k =>
    simp only [made, one, call.injEq]
    split <;> split <;> split <;> omega
  | data | notes | load | forget => rfl

end Thread

/-- The weight of those who wait for a load. When it has an outcome, they are woken and no longer wait. -/
def Load.holds {Waiter : Type} (weight : Waiter → Nat) (l : Load Waiter) : Nat :=
  if l.outcome.isSome then 0 else (l.waiters.map weight).sum

/-- Whether a load needs a thread: to get an outcome, or to be forgotten. -/
def Load.owes {Waiter : Type} (θ : Thread) (l : Load Waiter) : Nat :=
  θ.one (if l.outcome.isSome then .forget l.path.key else .load l.path.key)

namespace Cache

variable {Waiter : Type} {c : Cache Waiter} {path : Json} {load : Load Waiter}

/-- The weight of all who wait. -/
def holds (weight : Waiter → Nat) (c : Cache Waiter) : Nat := c.total (Load.holds weight)

/-- How many loads need a thread. -/
def owes (θ : Thread) (c : Cache Waiter) : Nat := c.total (Load.owes θ)

/-- A thread that a load needs to get an outcome is needed by the load of its path, which has none. -/
theorem load_of_owes (hd : c.Distinct) (h : 0 < c.owes (.load path.key)) :
    ∃ load, c.load? path = some load ∧ load.outcome = none := by
  obtain ⟨l, hl, ho⟩ := Sum.exists_of_pos h
  rw [Load.owes] at ho
  cases hout : l.outcome with
  | some outcome => simp [hout, Thread.one] at ho
  | none =>
    rw [hout] at ho
    exact ⟨l, load?_of_mem hd hl (Thread.load.inj (Thread.one_pos.1 ho)), hout⟩

/-- A thread that a load needs to be forgotten is needed by the load of its path, which has an outcome. -/
theorem load_of_owes_forget (hd : c.Distinct) (h : 0 < c.owes (.forget path.key)) :
    ∃ load, c.load? path = some load ∧ load.outcome.isSome = true := by
  obtain ⟨l, hl, ho⟩ := Sum.exists_of_pos h
  rw [Load.owes] at ho
  cases hout : l.outcome.isSome with
  | false => simp [hout, Thread.one] at ho
  | true =>
    rw [hout] at ho
    exact ⟨l, load?_of_mem hd hl (Thread.forget.inj (Thread.one_pos.1 ho)), hout⟩

/-- A thread that is none of a load is needed by none. -/
theorem owes_eq_zero {θ : Thread} (hl : ∀ key, θ ≠ .load key) (hf : ∀ key, θ ≠ .forget key) : c.owes θ = 0 := by
  refine Nat.eq_zero_of_not_pos fun h => ?_
  obtain ⟨l, -, ho⟩ := Sum.exists_of_pos h
  rw [Load.owes, Thread.one_pos] at ho
  split at ho
  · exact hf _ ho.symm
  · exact hl _ ho.symm

/-- A thread of a load is needed once at most. -/
theorem owes_load_le (hd : c.Distinct) (path : Json) : c.owes (.load path.key) ≤ 1 := by
  rcases Nat.eq_zero_or_pos (c.owes (.load path.key)) with hz | hpos
  · omega
  · obtain ⟨load, hl, ho⟩ := load_of_owes hd hpos
    have hf := total_forget (Load.owes (.load path.key)) hd hl
    have hrest : (c.forget path).total (Load.owes (.load path.key)) = 0 := by
      refine Sum.eq_zero fun l hmem => ?_
      have hne := (List.mem_filter.1 hmem).2
      rw [Bool.not_eq_true', ← Bool.not_eq_true, Json.sameKey_iff] at hne
      refine Thread.one_of_ne ?_
      split
      · simp
      · simpa using hne
    have hone : Load.owes (.load path.key) load = 1 := by
      rw [Load.owes, ho, load?_path hl]
      exact Thread.one_self _
    rw [owes]
    omega

/-- One who asks first begins a load, and waits for it. -/
theorem threads_begins (weight : Waiter → Nat) (θ : Thread) (waiter : Waiter) (path : Json) (c : Cache Waiter) :
    holds weight { c with loads := c.loads ++ [⟨path, [waiter], none⟩] } = c.holds weight + weight waiter ∧
      owes θ { c with loads := c.loads ++ [⟨path, [waiter], none⟩] } = c.owes θ + θ.one (.load path.key) := by
  simp only [holds, owes, total_begins, Load.holds, Load.owes, Option.isSome_none, Bool.false_eq_true, if_false, List.map_cons,
    List.map_nil, List.sum_cons, List.sum_nil, Nat.add_zero, and_self]

/-- One who asks while a load is under way waits for it too. -/
theorem threads_addWaiter (weight : Waiter → Nat) (θ : Thread) (hd : c.Distinct) (hl : c.load? path = some load)
    (ho : load.outcome = none) (waiter : Waiter) :
    (c.addWaiter waiter path).holds weight = c.holds weight + weight waiter ∧ (c.addWaiter waiter path).owes θ = c.owes θ := by
  have hh := total_addWaiter (Load.holds weight) hd hl waiter
  have hw := total_addWaiter (Load.owes θ) hd hl waiter
  simp only [Load.holds, Load.owes, ho, Option.isSome_none, Bool.false_eq_true, if_false, List.map_append, List.sum_append,
    List.map_cons, List.map_nil, List.sum_cons, List.sum_nil] at hh hw
  rw [holds, holds, owes, owes]
  omega

/-- A load that gets its outcome is to be forgotten, and nobody waits for it any longer. -/
theorem threads_finish (weight : Waiter → Nat) (θ : Thread) (hd : c.Distinct) (hl : c.load? path = some load)
    (ho : load.outcome = none) (answer : Answer) :
    (c.finish path answer).1.holds weight + (load.waiters.map weight).sum = c.holds weight ∧
      (c.finish path answer).1.owes θ + θ.one (.load path.key) = c.owes θ + θ.one (.forget path.key) := by
  have hd' : (c.store path (outcomeOf path answer)).Distinct := by
    rw [Distinct, keys_store]
    exact hd
  have hl' : (c.store path (outcomeOf path answer)).load? path = some load := by rw [load?_store, hl]
  have hh := total_settleLoad (Load.holds weight) hd' hl' (outcomeOf path answer)
  have hw := total_settleLoad (Load.owes θ) hd' hl' (outcomeOf path answer)
  have hkey := load?_path hl
  simp only [Load.holds, Load.owes, ho, total_store, Option.isSome_none, Option.isSome_some, Bool.false_eq_true, if_false, if_true,
    hkey] at hh hw
  simp only [finish, holds, owes]
  omega

/-- A load that is forgotten no longer needs to be. -/
theorem threads_forget (weight : Waiter → Nat) (θ : Thread) (hd : c.Distinct) (hl : c.load? path = some load)
    (ho : load.outcome.isSome = true) :
    (c.forget path).holds weight = c.holds weight ∧ (c.forget path).owes θ + θ.one (.forget path.key) = c.owes θ := by
  have hh := total_forget (Load.holds weight) hd hl
  have hw := total_forget (Load.owes θ) hd hl
  have hkey := load?_path hl
  simp only [Load.holds, Load.owes, ho, if_true, hkey] at hh hw
  rw [holds, holds, owes, owes]
  omega

/-- The chores that an outcome leaves: the load is to be forgotten, and those who wait for it to be woken. -/
theorem finish_chores (hl : c.load? path = some load) (answer : Answer) :
    (c.finish path answer).2 = .forget path :: load.waiters.map fun w => .wake w (outcomeOf path answer) := by
  simp only [finish, hl, Option.map_some, Option.getD_some]

/-- Whoever is woken has waited for a load of the path. -/
theorem mem_finish_chores {chore : Chore Waiter} {answer : Answer} (h : chore ∈ (c.finish path answer).2) :
    chore = .forget path ∨
      ∃ l ∈ c.loads, l.path.key = path.key ∧ ∃ w ∈ l.waiters, chore = .wake w (outcomeOf path answer) := by
  rcases List.mem_cons.1 h with rfl | h
  · exact Or.inl rfl
  · obtain ⟨w, hw, rfl⟩ := List.mem_map.1 h
    cases hl : c.load? path with
    | none => simp [hl] at hw
    | some l =>
      rw [hl] at hw
      exact Or.inr ⟨l, load?_mem hl, load?_path hl, w, hw, rfl⟩

/-- A load keeps its path and those who wait for it when an answer comes; if it is for the path, it has the outcome then. -/
theorem mem_finish_loads {l : Load Waiter} {answer : Answer} (h : l ∈ (c.finish path answer).1.loads) :
    ∃ l' ∈ c.loads, l.path = l'.path ∧ l.waiters = l'.waiters ∧
      (l.outcome = l'.outcome ∨ l'.path.key = path.key ∧ l.outcome = some (outcomeOf path answer)) := by
  obtain ⟨l', hl', rfl⟩ := List.mem_map.1 h
  rw [loads_store] at hl'
  refine ⟨l', hl', ?_⟩
  split
  · rename_i hkey
    exact ⟨rfl, rfl, Or.inr ⟨Json.sameKey_iff.1 hkey, rfl⟩⟩
  · exact ⟨rfl, rfl, Or.inl rfl⟩

end Cache

end Flashcards
