import Flashcards.Proofs.Cache.Memo

/-!
# A cleared cache

When the cache is cleared, what is stored is dropped, and loads that are under way go on: whoever asks for a path whose load is under way
shares it, whether it has begun before the clearing or after. So fetches are numbered, those of each path by themselves. At most one of them is
out at a time, and so the one that is out is the last that has been started.

What is stored for a path after the clearing, and what is told to those who ask for it then, is what a later fetch has come to, or what the
load has come to that was under way when the cache was cleared (`Cache.Course.Since`). No earlier fetch comes through
(`Cache.Course.clearing_bounds`).
-/

namespace Flashcards

namespace Cache.Course

/-! ## What happens -/

/-- What can happen at a cache that may be cleared. -/
inductive Occurrence where
  | event (event : Event)
  | clear

/-- The cache cleared. -/
def clear (c : Course) : Course := { c with agenda := c.agenda.change (Desk.change Cache.clear) }

/-- One thing happens at a cache that may be cleared. -/
def occur (c : Course) : Occurrence → Course
  | .event event => c.step event
  | .clear => c.clear

/-- Things happen one after the other. -/
def through (occurrences : List Occurrence) (c : Course) : Course := occurrences.foldl occur c

variable {c : Course} {p : ResourcePath} {n : Nat}

/-- The cache may be cleared at any time. -/
theorem Sound.clear (h : c.Sound) : c.clear.Sound where
  choring := h.choring
  distinct := h.distinct
  carried := h.carried
  paths := h.paths
  stored _ hmem := nomatch hmem
  once := List.nodup_nil
  come _ _ _ hs := nomatch hs
  counted := h.counted

theorem Sound.occur (h : c.Sound) (occurrence : Occurrence) : (c.occur occurrence).Sound := by
  cases occurrence with
  | event event => exact h.step event
  | clear => exact h.clear

theorem Sound.through (h : c.Sound) (occurrences : List Occurrence) : (c.through occurrences).Sound := by
  induction occurrences generalizing c with
  | nil => exact h
  | cons occurrence occurrences ih => exact ih (h.occur occurrence)

/-! ## Fetches by their numbers -/

/-- How many fetches of a path have been started. The last of them has this number. -/
def fetchesOf (p : ResourcePath) (c : Course) : Nat := c.agenda.requested.count p.json

/-- The answer to a fetch of a path that an occurrence brings, if it brings one. -/
def answerIn? (p : ResourcePath) (c : Course) : Occurrence → Option Answer
  | .event event => c.answerTo? p event
  | .clear => none

/-- The fetches of a path that end in the course of things, by their numbers, and how they end. -/
def ends (p : ResourcePath) : Course → List Occurrence → List (Nat × Answer)
  | _, [] => []
  | c, occurrence :: occurrences =>
    ((c.answerIn? p occurrence).toList.map fun answer => (c.fetchesOf p, answer)) ++ ends p (c.occur occurrence) occurrences

/-- What an event does to the fetches of a path: it answers the one that is out; it starts one, where none is out; or neither. -/
theorem Sound.fetchesOf_step (h : c.Sound) (p : ResourcePath) (event : Event) :
    ((c.answerTo? p event).isSome = true ∧ p.json ∈ c.agenda.out ∧ p.json ∉ (c.step event).agenda.out ∧
        (c.step event).fetchesOf p = c.fetchesOf p) ∨
      (c.answerTo? p event = none ∧ p.json ∉ c.agenda.out ∧ (c.step event).fetchesOf p = c.fetchesOf p + 1) ∨
      (c.answerTo? p event = none ∧ (p.json ∈ (c.step event).agenda.out ↔ p.json ∈ c.agenda.out) ∧
        (c.step event).fetchesOf p = c.fetchesOf p) := by
  have hstarts := h.starts event
  have hnodup := h.out_nodup
  have hh := happens h.choring event
  generalize c.step event = c' at hh hstarts
  cases hh with
  | now | begins | joins | idle | forgets | wakes => exact Or.inr (Or.inr ⟨rfl, Iff.rfl, rfl⟩)
  | nothing hf => exact Or.inr (Or.inr ⟨by rw [answerTo?, hf, if_neg (by simp)], Iff.rfl, rfl⟩)
  | @fetches path rest hr =>
    by_cases hp : path = p.json
    · subst hp
      refine Or.inr (Or.inl ⟨rfl, ?_, ?_⟩)
      · -- The fetch that is started is the one of this path.
        rcases hstarts with hreq | ⟨q, hreq, -, hout⟩
        · exact absurd (congrArg List.length hreq) (by simp)
        · obtain hq := List.append_cancel_left hreq
          rw [List.cons.injEq] at hq
          rw [hq.1]
          exact hout
      · simp [fetchesOf]
    · refine Or.inr (Or.inr ⟨rfl, ?_, ?_⟩)
      · simp [Ne.symm hp]
      · simp [fetchesOf, hp]
  | @comes i answer path hf =>
    by_cases hp : path = p.json
    · subst hp
      refine Or.inl ⟨by rw [answerTo?, hf, if_pos rfl]; rfl, List.mem_of_getElem? hf, fun hmem => ?_, rfl⟩
      obtain ⟨j, hj, hjp⟩ := List.mem_eraseIdx_iff_getElem?.1 hmem
      obtain ⟨hlt, -⟩ := List.getElem?_eq_some_iff.1 hjp
      exact hj ((List.getElem?_inj hlt hnodup).1 (hjp.trans hf.symm))
    · refine Or.inr (Or.inr ⟨by rw [answerTo?, hf, if_neg (by simpa using hp)], ?_, rfl⟩)
      change p.json ∈ c.agenda.out.eraseIdx i ↔ _
      rw [List.mem_eraseIdx_iff_getElem?]
      constructor
      · rintro ⟨j, -, hj⟩
        exact List.mem_of_getElem? hj
      · intro hmem
        obtain ⟨j, hj⟩ := List.getElem?_of_mem hmem
        refine ⟨j, ?_, hj⟩
        rintro rfl
        exact hp (Option.some.inj (hf.symm.trans hj))

/-- A fetch that is answered has been out, and is no longer. -/
theorem Sound.fetchesOf_answer (h : c.Sound) {event : Event} {answer : Answer} (ha : c.answerTo? p event = some answer) :
    p.json ∈ c.agenda.out ∧ p.json ∉ (c.step event).agenda.out ∧ (c.step event).fetchesOf p = c.fetchesOf p := by
  rcases h.fetchesOf_step p event with ⟨-, hanswered⟩ | ⟨hnone, -⟩ | ⟨hnone, -⟩
  · exact hanswered
  · rw [ha] at hnone; cases hnone
  · rw [ha] at hnone; cases hnone

/-- A fetch that ends has been started later, or it is the one that is out. -/
theorem Sound.mem_ends (h : c.Sound) {occurrences : List Occurrence} {e : Nat × Answer} (he : e ∈ ends p c occurrences) :
    c.fetchesOf p < e.1 ∨ e.1 = c.fetchesOf p ∧ p.json ∈ c.agenda.out := by
  induction occurrences generalizing c with
  | nil => cases he
  | cons occurrence occurrences ih =>
    rcases List.mem_append.1 he with he | he
    · obtain ⟨answer, ha, rfl⟩ := List.mem_map.1 he
      cases occurrence with
      | clear => cases ha
      | event event =>
        exact Or.inr ⟨rfl, (h.fetchesOf_answer (Option.mem_toList.1 ha)).1⟩
    · have hi := ih (h.occur occurrence) he
      cases occurrence with
      | clear => exact hi
      | event event =>
        change (c.step event).fetchesOf p < e.1 ∨ e.1 = (c.step event).fetchesOf p ∧ p.json ∈ (c.step event).agenda.out at hi
        rcases h.fetchesOf_step p event with ⟨-, -, hgone, hcount⟩ | ⟨-, -, hcount⟩ | ⟨-, hout, hcount⟩
        · rw [hcount] at hi
          exact hi.elim Or.inl fun hlast => absurd hlast.2 hgone
        · omega
        · rwa [hcount, hout] at hi

/-- No fetch ends twice: fetches end in the order of their numbers. -/
theorem Sound.ends_increasing (h : c.Sound) (p : ResourcePath) (occurrences : List Occurrence) :
    ((ends p c occurrences).map Prod.fst).Pairwise (· < ·) := by
  induction occurrences generalizing c with
  | nil => exact List.Pairwise.nil
  | cons occurrence occurrences ih =>
    have hi := ih (h.occur occurrence)
    rw [ends]
    cases hanswer : c.answerIn? p occurrence with
    | none => exact hi
    | some answer =>
      cases occurrence with
      | clear => cases hanswer
      | event event =>
        obtain ⟨-, hgone, hcount⟩ := h.fetchesOf_answer hanswer
        refine List.Pairwise.cons (fun number hnumber => ?_) hi
        obtain ⟨e, he, rfl⟩ := List.mem_map.1 hnumber
        have hlater := (h.step event).mem_ends he
        rw [hcount] at hlater
        exact hlater.resolve_right fun hlast => hgone hlast.2

/-! ## What comes through -/

/-- Whoever waits for a load has asked for its path. -/
def Asking (c : Course) : Prop := ∀ load ∈ c.cache.loads, ∀ n ∈ load.waiters, ∃ p, c.asked[n]? = some p ∧ load.path = p.json

/-- What is stored for a path is what a fetch has come to. What its load has come to, and what those have been told or are to be told who have
asked for it from a request on, is that too, or what an earlier load had come to. -/
structure Since (p : ResourcePath) (first : Nat) (fetched earlier : Outcome → Prop) (c : Course) : Prop where
  stored : ∀ data, c.cache.stored? p.json = some data → fetched (.ok data)
  loaded : ∀ load outcome, c.cache.load? p.json = some load → load.outcome = some outcome → fetched outcome ∨ earlier outcome
  told : ∀ n outcome, first ≤ n → c.asked[n]? = some p → c.Told n outcome → fetched outcome ∨ earlier outcome

/-- The path that an event asks for, if it asks for one. -/
def asks : Event → List ResourcePath
  | .request path => [path]
  | .run | .answer _ _ => []

/-- Whatever happens, who has asked stays. -/
theorem asked_step (event : Event) (c : Course) : (c.step event).asked = c.asked ++ asks event := by
  cases event with
  | request path => rfl
  | run | answer => exact (List.append_nil _).symm

theorem fresh_asking : fresh.Asking := fun _ hl => nomatch hl

/-- A path that has been asked for stays asked for. -/
theorem getElem?_asked {asked : List ResourcePath} (path : ResourcePath) {q : ResourcePath} (hn : asked[n]? = some q) :
    (asked ++ [path])[n]? = some q := by
  rw [List.getElem?_append_left (List.getElem?_eq_some_iff.1 hn).1, hn]

theorem Sound.asking_step (h : c.Sound) (ha : c.Asking) (event : Event) : (c.step event).Asking := by
  have hh := happens h.choring event
  generalize c.step event = c' at hh
  cases hh with
  | idle | nothing | fetches | wakes => exact ha
  | @now path outcome _ =>
    intro load hl m hm
    obtain ⟨q, hq, hpath⟩ := ha load hl m hm
    exact ⟨q, getElem?_asked path hq, hpath⟩
  | @begins path _ _ =>
    intro load hl m hm
    rcases List.mem_append.1 hl with hl | hl
    · obtain ⟨q, hq, hpath⟩ := ha load hl m hm
      exact ⟨q, getElem?_asked path hq, hpath⟩
    · obtain rfl := List.mem_singleton.1 hl
      obtain rfl := List.mem_singleton.1 hm
      exact ⟨path, List.getElem?_concat_length, rfl⟩
  | @joins path load' _ _ _ =>
    intro load hl m hm
    obtain ⟨l, hmem, rfl⟩ := List.mem_map.1 hl
    by_cases hkey : l.path.sameKey path.json = true
    · rw [if_pos hkey] at hm ⊢
      rcases List.mem_append.1 hm with hm | hm
      · obtain ⟨q, hq, hpath⟩ := ha l hmem m hm
        exact ⟨q, getElem?_asked path hq, hpath⟩
      · obtain rfl := List.mem_singleton.1 hm
        exact ⟨path, List.getElem?_concat_length, eq_json_of_key (Json.sameKey_iff.1 hkey)⟩
    · rw [if_neg hkey] at hm ⊢
      obtain ⟨q, hq, hpath⟩ := ha l hmem m hm
      exact ⟨q, getElem?_asked path hq, hpath⟩
  | forgets => exact fun load hl => ha load (List.mem_filter.1 hl).1
  | comes hf =>
    intro load hl m hm
    obtain ⟨l, hl, hpath, hwaiters, -⟩ := mem_finish_loads hl
    rw [hwaiters] at hm
    obtain ⟨q, hq, hpath'⟩ := ha l hl m hm
    exact ⟨q, hq, hpath.trans hpath'⟩

theorem Sound.asking_occur (h : c.Sound) (ha : c.Asking) (occurrence : Occurrence) : (c.occur occurrence).Asking := by
  cases occurrence with
  | event event => exact h.asking_step ha event
  | clear => exact ha

theorem Sound.asking_through (h : c.Sound) (ha : c.Asking) (occurrences : List Occurrence) : (c.through occurrences).Asking := by
  induction occurrences generalizing c with
  | nil => exact ha
  | cons occurrence occurrences ih => exact ih (h.occur occurrence) (h.asking_occur ha occurrence)

/-- Whoever is told has asked. -/
theorem Sound.lt_of_told (h : c.Sound) {outcome : Outcome} (ht : c.Told n outcome) : n < c.asked.length := by
  have hc := h.carried (.call n)
  have howes := c.cache.owes_eq_zero (θ := .call n) (by simp) (by simp)
  rw [of_threads] at hc
  simp only [cache, Thread.made] at howes hc
  refine Nat.lt_of_not_le fun hn => ?_
  rw [if_neg (Nat.not_lt.2 hn)] at hc
  rcases ht with hready | hanswered
  · have hle := Sum.le_of_mem (fun job => (Thread.call n).one (thread job)) hready
    rw [thread_wake, Thread.one_self] at hle
    omega
  · have hpos := answered_pos hanswered
    rw [answered] at hpos
    omega

/-- Whoever has asked for a path is answered when nothing is left to run and no fetch of the path is out. -/
theorem Sound.served (h : c.Sound) (ha : c.Asking) (hr : c.agenda.ready = []) (hout : p.json ∉ c.agenda.out) (hn : c.asked[n]? = some p) :
    ∃ outcome, (n, outcome) ∈ c.answered := by
  have hc := h.carried (.call n)
  have howes := c.cache.owes_eq_zero (θ := .call n) (by simp) (by simp)
  have hfetch : (c.agenda.out.map fun path => (Thread.call n).one (.load path.key)).sum = 0 :=
    Sum.eq_zero fun _ _ => Thread.one_of_ne (by simp)
  rw [of_threads, hr, hfetch] at hc
  simp only [cache, Thread.made, (List.getElem?_eq_some_iff.1 hn).1, if_true, List.map_nil, List.sum_nil] at howes hc
  rcases Nat.eq_zero_or_pos ((c.agenda.state.answered.map fun e => (Thread.call n).one (.call e.1)).sum) with hz | hpos
  · -- It waits for a load, which has a fetch that is out or to be started.
    have hheld : 0 < c.cache.holds fun m => (Thread.call n).one (.call m) := by
      rw [cache]
      omega
    obtain ⟨load, hl, hwaits⟩ := Sum.exists_of_pos hheld
    rw [Load.holds] at hwaits
    split at hwaits
    · cases hwaits
    · rename_i ho
      obtain ⟨m, hm, hone⟩ := Sum.exists_of_pos hwaits
      obtain rfl : m = n := Thread.call.inj (Thread.one_pos.1 hone)
      obtain ⟨q, hq, hpath⟩ := ha load hl m hm
      obtain rfl : q = p := Option.some.inj (hq.symm.trans hn)
      have hkey : load.path.key = q.json.key := by rw [hpath]
      have hload := load?_of_mem h.distinct hl hkey
      rcases h.outstanding_iff.2 ⟨load, hload, Option.not_isSome_iff_eq_none.1 ho⟩ with hmem | hmem
      · exact absurd hmem hout
      · rw [hr] at hmem
        cases hmem
  · obtain ⟨e, he, hone⟩ := Sum.exists_of_pos hpos
    obtain rfl : e.1 = n := Thread.call.inj (Thread.one_pos.1 hone)
    exact ⟨e.2, he⟩

/-- What a load has come to after an event: what it had come to, or what the event brings for it. -/
theorem Sound.outcome_step (h : c.Sound) {event : Event} {load : Load Nat} {outcome : Outcome}
    (hl : (c.step event).cache.load? p.json = some load) (ho : load.outcome = some outcome) :
    (∃ load', c.cache.load? p.json = some load' ∧ load'.outcome = some outcome) ∨
      ∃ answer, c.answerTo? p event = some answer ∧ outcome = outcomeOf p.json answer := by
  have hh := happens h.choring event
  generalize c.step event = c' at hh hl
  cases hh with
  | now | idle | nothing | fetches | wakes => exact Or.inl ⟨load, hl, ho⟩
  | @begins path _ _ =>
    change load? p.json { c.cache with loads := c.cache.loads ++ [⟨path.json, [c.asked.length], none⟩] } = _ at hl
    rw [load?_begins] at hl
    rcases Option.or_eq_some_iff.1 hl with hl | ⟨-, hl⟩
    · exact Or.inl ⟨load, hl, ho⟩
    · split at hl
      · obtain rfl := Option.some.inj hl
        cases ho
      · cases hl
  | @joins path load' _ _ _ =>
    change (c.cache.addWaiter c.asked.length path.json).load? p.json = _ at hl
    rw [load?_addWaiter] at hl
    obtain ⟨l, hmem, rfl⟩ := Option.map_eq_some_iff.1 hl
    refine Or.inl ⟨l, hmem, ?_⟩
    split at ho <;> exact ho
  | @forgets path rest hr =>
    change (c.cache.forget path).load? p.json = _ at hl
    rw [load?_forget] at hl
    split at hl
    · cases hl
    · exact Or.inl ⟨load, hl, ho⟩
  | @comes i answer path hf =>
    change (c.cache.finish path answer).1.load? p.json = _ at hl
    rw [finish, load?_settleLoad, load?_store] at hl
    obtain ⟨l, hmem, rfl⟩ := Option.map_eq_some_iff.1 hl
    split at ho
    · rename_i hkey
      rw [Json.sameKey_iff, load?_path hmem] at hkey
      obtain rfl := eq_json_of_key hkey.symm
      exact Or.inr ⟨answer, by rw [answerTo?, hf, if_pos rfl], (Option.some.inj ho).symm⟩
    · exact Or.inl ⟨l, hmem, ho⟩

/-- Who is told what after an event: whoever was, one who asks for what is there, and those who have waited for what the event brings. -/
theorem Sound.told_step_inv (h : c.Sound) {event : Event} {outcome : Outcome} (ht : (c.step event).Told n outcome) :
    c.Told n outcome ∨
      (∃ path, event = .request path ∧ n = c.asked.length ∧ ((∃ data, c.cache.stored? path.json = some data ∧ outcome = .ok data) ∨
        ∃ load, c.cache.load? path.json = some load ∧ load.outcome = some outcome)) ∨
      ∃ (path : ResourcePath) (load : Load Nat) (answer : Answer), c.answerTo? path event = some answer ∧
        c.cache.load? path.json = some load ∧ n ∈ load.waiters ∧ outcome = outcomeOf path.json answer := by
  have hh := happens h.choring event
  generalize c.step event = c' at hh ht
  cases hh with
  | @now path outcome' hnow =>
    rcases ht with hready | hanswered
    · exact Or.inl (Or.inl hready)
    · rcases List.mem_append.1 hanswered with hanswered | hnew
      · exact Or.inl (Or.inr hanswered)
      · obtain ⟨rfl, rfl⟩ := Prod.mk.inj (List.mem_singleton.1 hnew)
        exact Or.inr (Or.inl ⟨path, rfl, rfl, hnow.imp_right fun hload => hload.2⟩)
  | begins =>
    refine Or.inl (ht.imp_left fun hready => ?_)
    exact (List.mem_append.1 hready).resolve_right (by simp)
  | joins | idle | nothing => exact Or.inl ht
  | fetches hr | forgets hr => exact Or.inl (ht.imp_left fun hready => hr ▸ List.mem_cons_of_mem _ hready)
  | wakes hr =>
    rcases ht with hready | hanswered
    · exact Or.inl (Or.inl (hr ▸ List.mem_cons_of_mem _ hready))
    · rcases List.mem_append.1 hanswered with hanswered | hnew
      · exact Or.inl (Or.inr hanswered)
      · obtain ⟨rfl, rfl⟩ := Prod.mk.inj (List.mem_singleton.1 hnew)
        exact Or.inl (Or.inl (hr ▸ List.mem_cons_self))
  | @comes i answer path hf =>
    obtain ⟨q, load, rfl, hl, -, -⟩ := h.pending (h.owes_of_out hf)
    rcases ht with hready | hanswered
    · rcases List.mem_append.1 hready with hready | hnew
      · exact Or.inl (Or.inl hready)
      · obtain ⟨chore, hchore, heq⟩ := List.mem_map.1 hnew
        rw [finish_chores hl] at hchore
        rcases List.mem_cons.1 hchore with rfl | hchore
        · cases heq
        · obtain ⟨m, hm, rfl⟩ := List.mem_map.1 hchore
          cases heq
          exact Or.inr (Or.inr ⟨q, load, answer, by rw [answerTo?, hf, if_pos rfl], hl, hm, rfl⟩)
    · exact Or.inl (Or.inr hanswered)

variable {first : Nat} {fetched earlier : Outcome → Prop}

/-- What is stored and told is kept to what fetches have come to if the answer that an event brings is one of these. -/
theorem Since.step (hs : c.Since p first fetched earlier) (h : c.Sound) (ha : c.Asking) {event : Event}
    (hfetched : ∀ answer, c.answerTo? p event = some answer → fetched (outcomeOf p.json answer)) :
    (c.step event).Since p first fetched earlier := by
  refine ⟨fun data hdata => ?_, fun load outcome hl ho => ?_, fun n outcome hfirst hn ht => ?_⟩
  · rw [h.stored?_step] at hdata
    rcases Option.or_eq_some_iff.1 hdata with hold | ⟨-, hnew⟩
    · exact hs.stored data hold
    · obtain ⟨answer, hanswer, ho⟩ := Option.bind_eq_some_iff.1 hnew
      cases hout : outcomeOf p.json answer with
      | error failure => rw [hout] at ho; cases ho
      | ok data' =>
        rw [hout] at ho
        obtain rfl := Option.some.inj ho
        exact hout ▸ hfetched answer hanswer
  · rcases h.outcome_step hl ho with ⟨load', hl', ho'⟩ | ⟨answer, hanswer, rfl⟩
    · exact hs.loaded load' outcome hl' ho'
    · exact Or.inl (hfetched answer hanswer)
  · have hold : n < c.asked.length → c.asked[n]? = some p := fun hlt => by
      rw [asked_step] at hn
      rwa [List.getElem?_append_left hlt] at hn
    rcases h.told_step_inv ht with ht | ⟨path, rfl, rfl, hthere⟩ | ⟨path, load, answer, hanswer, hl, hwaits, rfl⟩
    · exact hs.told n outcome hfirst (hold (h.lt_of_told ht)) ht
    · obtain rfl : path = p := by
        rw [asked_step] at hn
        exact Option.some.inj (List.getElem?_concat_length.symm.trans hn)
      rcases hthere with ⟨data, hdata, rfl⟩ | ⟨load, hl, ho⟩
      · exact Or.inl (hs.stored data hdata)
      · exact hs.loaded load outcome hl ho
    · obtain ⟨q, hq, hpath⟩ := ha load (load?_mem hl) n hwaits
      obtain rfl : q = path := ResourcePath.key_inj (by rw [← hpath, load?_path hl])
      obtain rfl : q = p := Option.some.inj (hq.symm.trans (hold (List.getElem?_eq_some_iff.1 hq).1))
      exact Or.inl (hfetched answer hanswer)

/-- A clearing drops what is stored, and leaves the rest. -/
theorem Since.clear (hs : c.Since p first fetched earlier) : c.clear.Since p first fetched earlier where
  stored _ hdata := nomatch hdata
  loaded := hs.loaded
  told := hs.told

theorem Since.through (hs : c.Since p first fetched earlier) (h : c.Sound) (ha : c.Asking) {occurrences : List Occurrence}
    (hfetched : ∀ e ∈ ends p c occurrences, fetched (outcomeOf p.json e.2)) :
    (c.through occurrences).Since p first fetched earlier := by
  induction occurrences generalizing c with
  | nil => exact hs
  | cons occurrence occurrences ih =>
    have hrest : ∀ e ∈ ends p (c.occur occurrence) occurrences, fetched (outcomeOf p.json e.2) := fun e he =>
      hfetched e (List.mem_append_right _ he)
    refine ih ?_ (h.occur occurrence) (h.asking_occur ha occurrence) hrest
    cases occurrence with
    | clear => exact hs.clear
    | event event =>
      refine hs.step h ha fun answer hanswer => hfetched (c.fetchesOf p, answer) (List.mem_append_left _ ?_)
      exact List.mem_map.2 ⟨answer, Option.mem_toList.2 hanswer, rfl⟩

/-- Right after a clearing nothing is stored and no later request has been told anything, but a load may have an outcome. -/
theorem Sound.since_clear (h : c.Sound) (p : ResourcePath) (fetched : Outcome → Prop) :
    c.clear.Since p c.asked.length fetched fun outcome => ∃ load, c.cache.load? p.json = some load ∧ load.outcome = some outcome := by
  constructor
  case stored => exact fun _ hdata => nomatch hdata
  case loaded => exact fun load outcome hl ho => Or.inr ⟨load, hl, ho⟩
  case told => exact fun n outcome hfirst _ ht => absurd (h.clear.lt_of_told ht) (Nat.not_lt.2 hfirst)

/-! ## The bounds of a clearing -/

/-- What holds for a path when the cache is cleared in a course of things and others happen after it. -/
structure Clearing (p : ResourcePath) (c : Course) (occurrences : List Occurrence) : Prop where
  /-- While a fetch of the path is out none is started: the fetch that is out is the last one, and that gives it its number. -/
  last : p.json ∈ (c.clear.through occurrences).agenda.out → ∀ occurrence,
    ((c.clear.through occurrences).occur occurrence).fetchesOf p = (c.clear.through occurrences).fetchesOf p
  /-- No fetch ends twice. -/
  once : ((ends p c.clear occurrences).map Prod.fst).Nodup
  /-- Whoever asks for the path after the clearing gets what a fetch has come to that has been started after the clearing, or what the load
  comes to that was under way when the cache was cleared. -/
  told : ∀ n outcome, c.asked.length ≤ n → (c.clear.through occurrences).asked[n]? = some p →
    (n, outcome) ∈ (c.clear.through occurrences).answered →
      (∃ e ∈ ends p c.clear occurrences, c.fetchesOf p < e.1 ∧ outcome = outcomeOf p.json e.2) ∨
        ∃ load, c.cache.load? p.json = some load ∧ (load.outcome = some outcome ∨
          load.outcome = none ∧ ∃ answer, (c.fetchesOf p, answer) ∈ ends p c.clear occurrences ∧ outcome = outcomeOf p.json answer)
  /-- What is stored for the path is what a fetch has come to that has been started after the clearing, or that was out when the cache was
  cleared. -/
  stored : ∀ data, (c.clear.through occurrences).cache.stored? p.json = some data →
    (∃ e ∈ ends p c.clear occurrences, c.fetchesOf p < e.1 ∧ outcomeOf p.json e.2 = .ok data) ∨
      p.json ∈ c.agenda.out ∧ ∃ answer, (c.fetchesOf p, answer) ∈ ends p c.clear occurrences ∧ outcomeOf p.json answer = .ok data
  /-- Where no load of the path was under way, all fetches of it that end after the clearing have been started after it, and whoever gets or has
  stored the path has it from one of these. -/
  barrier : c.cache.load? p.json = none → (∀ e ∈ ends p c.clear occurrences, c.fetchesOf p < e.1) ∧
    (∀ n outcome, c.asked.length ≤ n → (c.clear.through occurrences).asked[n]? = some p →
      (n, outcome) ∈ (c.clear.through occurrences).answered → ∃ e ∈ ends p c.clear occurrences, outcome = outcomeOf p.json e.2) ∧
    ∀ data, (c.clear.through occurrences).cache.stored? p.json = some data →
      ∃ e ∈ ends p c.clear occurrences, outcomeOf p.json e.2 = .ok data
  /-- Nobody is left without an answer: when nothing is left to run and no fetch of the path is out, all who have asked for it have got one. -/
  served : (c.clear.through occurrences).agenda.ready = [] → p.json ∉ (c.clear.through occurrences).agenda.out →
    ∀ n, (c.clear.through occurrences).asked[n]? = some p → ∃ outcome, (n, outcome) ∈ (c.clear.through occurrences).answered
  /-- Whoever asks for the path when no load of it is under way and nothing is stored, such as right after the clearing, has a fetch started. -/
  begins : (c.clear.through occurrences).cache.load? p.json = none → (c.clear.through occurrences).cache.stored? p.json = none →
    let asking := (c.clear.through occurrences).step (.request p)
    ∃ others, (asking.after (List.replicate asking.agenda.ready.length .run)).agenda.requested =
      (c.clear.through occurrences).agenda.requested ++ others ++ [p.json]

/-- A fetch of a path that is out is that of a load under way. -/
theorem Sound.load_of_out (h : c.Sound) (hout : p.json ∈ c.agenda.out) : ∃ load, c.cache.load? p.json = some load ∧ load.outcome = none :=
  h.outstanding_iff.1 (Or.inl hout)

/-- Whatever has happened before a clearing of the cache and whatever happens after it, of all fetches of a path that were started before
only the one whose load was under way comes through. -/
theorem clearing_bounds (before after : List Occurrence) (p : ResourcePath) : Clearing p (fresh.through before) after := by
  have h : (fresh.through before).Sound := fresh_sound.through before
  have ha : (fresh.through before).Asking := fresh_sound.asking_through fresh_asking before
  generalize fresh.through before = c at h ha
  have hafter := h.clear.through after
  have hnumber : ∀ e ∈ ends p c.clear after, c.fetchesOf p < e.1 ∨ e.1 = c.fetchesOf p ∧ p.json ∈ c.agenda.out := fun e he =>
    h.clear.mem_ends he
  have hsince : (c.clear.through after).Since p c.asked.length
      (fun outcome => ∃ e ∈ ends p c.clear after, outcome = outcomeOf p.json e.2)
      (fun outcome => ∃ load, c.cache.load? p.json = some load ∧ load.outcome = some outcome) :=
    (h.since_clear p _).through h.clear ha fun e he => ⟨e, he, rfl⟩
  constructor
  case last =>
    intro hout occurrence
    cases occurrence with
    | clear => rfl
    | event event =>
      rcases hafter.fetchesOf_step p event with ⟨-, -, -, hcount⟩ | ⟨-, hnot, -⟩ | ⟨-, -, hcount⟩
      · exact hcount
      · exact absurd hout hnot
      · exact hcount
  case once => exact (h.clear.ends_increasing p after).imp Nat.ne_of_lt
  case told =>
    intro n outcome hfirst hn hanswered
    rcases hsince.told n outcome hfirst hn (Or.inr hanswered) with ⟨e, he, rfl⟩ | ⟨load, hl, ho⟩
    · rcases hnumber e he with hlater | ⟨hlast, hout⟩
      · exact Or.inl ⟨e, he, hlater, rfl⟩
      · obtain ⟨load, hl, ho⟩ := h.load_of_out hout
        exact Or.inr ⟨load, hl, Or.inr ⟨ho, e.2, hlast ▸ he, rfl⟩⟩
    · exact Or.inr ⟨load, hl, Or.inl ho⟩
  case stored =>
    intro data hdata
    obtain ⟨e, he, ho⟩ := hsince.stored data hdata
    rcases hnumber e he with hlater | ⟨hlast, hout⟩
    · exact Or.inl ⟨e, he, hlater, ho.symm⟩
    · exact Or.inr ⟨hout, e.2, hlast ▸ he, ho.symm⟩
  case barrier =>
    intro hnone
    refine ⟨fun e he => ?_, fun n outcome hfirst hn hanswered => ?_, fun data hdata => ?_⟩
    · refine (hnumber e he).resolve_right fun hlast => ?_
      obtain ⟨load, hl, -⟩ := h.load_of_out hlast.2
      rw [hnone] at hl
      cases hl
    · refine (hsince.told n outcome hfirst hn (Or.inr hanswered)).resolve_right ?_
      rintro ⟨load, hl, -⟩
      rw [hnone] at hl
      cases hl
    · obtain ⟨e, he, ho⟩ := hsince.stored data hdata
      exact ⟨e, he, ho.symm⟩
  case served => exact fun hr hout n hn => hafter.served (h.clear.asking_through ha after) hr hout hn
  case begins =>
    intro hl hs
    obtain ⟨hready, hreq⟩ := hafter.step_begins hs hl
    obtain ⟨others, hstarted⟩ := (hafter.step (.request p)).started hready
    refine ⟨others, ?_⟩
    rw [← hreq, ← hstarted, hready, List.length_append, List.length_singleton]

/-- A path that is asked for. -/
def aPath : ResourcePath := ⟨"a", by decide⟩

/-- The path has been asked for, and its fetch is out. -/
def underway : Course := fresh.through [.event (.request aPath), .event .run]

/-- The path is asked for again, then its fetch ends, and what is ready runs. -/
def sharing : List Occurrence := [.event (.request aPath), .event (.answer 0 (.ok "1")), .event .run, .event .run, .event .run]

/-- When this happens after a clearing, the later request gets what the only fetch has come to, which had been started before, and this is stored
again. -/
theorem clearing_passed :
    underway.fetchesOf aPath = 1 ∧ underway.asked.length = 1 ∧ underway.clear.cache.stored? aPath.json = none ∧
      (underway.clear.through sharing).fetchesOf aPath = 1 ∧
      (underway.clear.through sharing).answered.map (fun e => (e.1, e.2.toOption)) = [(0, some (.int 1)), (1, some (.int 1))] ∧
      (underway.clear.through sharing).cache.stored? aPath.json = some (.int 1) := by
  decide +kernel

end Cache.Course

end Flashcards
