import Flashcards.Proofs.Cache.Loads

/-!
# Requests, loads and fetches

What happens at a cache by itself: requests are made at any time, fetches end at any time, and chores run in the order in which they
became ready. All that one event can do is said once (`Cache.Course.Happens`), and from it the invariant `Cache.Course.Sound`: every
request is in one place, as one who waits, as a chore that wakes, or among those that have been answered; a load has a fetch that is to
be started or is out until it has an outcome, and then it is to be forgotten; what is stored is what a load came to, and it has none any
longer that is without an outcome.
-/

namespace Flashcards

/-- The path of a resource: a text that is not empty. -/
structure ResourcePath where
  text : Text
  nonempty : text ≠ []
  deriving DecidableEq

/-- A path as it is asked for. -/
def ResourcePath.json (p : ResourcePath) : Json := .text p.text

theorem ResourcePath.key_inj {p q : ResourcePath} (h : p.json.key = q.json.key) : p = q := by
  obtain ⟨t, ht⟩ := p
  obtain ⟨u, hu⟩ := q
  rw [json, json, Json.key_text, Json.key_text, Json.Key.value.injEq, Json.text.injEq] at h
  subst h
  rfl

theorem ResourcePath.json_inj {p q : ResourcePath} (h : p.json = q.json) : p = q := key_inj (congrArg Json.key h)

/-- A path is asked for as a key. -/
theorem ResourcePath.isKey (p : ResourcePath) : p.json.isBlank = false ∧ p.json.isKey = true := by
  obtain ⟨t, ht⟩ := p
  cases t with
  | nil => exact absurd rfl ht
  | cons c t => exact ⟨rfl, rfl⟩

namespace Cache

/-! ## What happens -/

/-- What can happen at a cache: a resource is asked for, the chore that has been ready longest runs, or a fetch is answered. An optional
resource is asked for like any other; whoever asks makes of the outcome what is needed (`Optional.ofOutcome`). -/
inductive Event where
  | request (path : ResourcePath)
  | run
  | answer (i : Nat) (answer : Answer)

/-- What is under way at a cache, with the paths that have been asked for, in order. Requests are numbered in this order. -/
structure Course where
  agenda : Agenda (Desk Nat) (Job Nat) Json
  asked : List ResourcePath

namespace Course

/-- A cache before any request. -/
def fresh : Course := ⟨Agenda.idle Desk.empty, []⟩

/-- The cache as it is. -/
def cache (c : Course) : Cache Nat := c.agenda.state.cache

/-- The requests that have been answered, with their outcomes. -/
def answered (c : Course) : List (Nat × Outcome) := c.agenda.state.answered

/-- One thing happens. A request runs at once until it has to wait. -/
def step (c : Course) : Event → Course
  | .request path =>
    ⟨(c.agenda.add (.ask c.asked.length path.json)).runAt Desk.program c.agenda.ready.length, c.asked ++ [path]⟩
  | .run => { c with agenda := c.agenda.runAt Desk.program 0 }
  | .answer i answer => { c with agenda := c.agenda.answerAt Desk.program i answer }

/-- Things happen one after the other. -/
def after (events : List Event) (c : Course) : Course := events.foldl step c

/-- All that can happen. -/
inductive Happens (c : Course) : Event → Course → Prop
  | now {path : ResourcePath} {outcome : Outcome}
    (h : (∃ data, c.cache.stored? path.json = some data ∧ outcome = .ok data) ∨
      c.cache.stored? path.json = none ∧ ∃ load, c.cache.load? path.json = some load ∧ load.outcome = some outcome) :
    Happens c (.request path)
      ⟨{ c.agenda with state := ⟨c.cache, c.answered ++ [(c.asked.length, outcome)]⟩ }, c.asked ++ [path]⟩
  | begins {path : ResourcePath} (hs : c.cache.stored? path.json = none) (hl : c.cache.load? path.json = none) :
    Happens c (.request path)
      ⟨{ c.agenda with
          state := ⟨{ c.cache with loads := c.cache.loads ++ [⟨path.json, [c.asked.length], none⟩] }, c.answered⟩
          ready := c.agenda.ready ++ [.chore (.load path.json)] },
        c.asked ++ [path]⟩
  | joins {path : ResourcePath} {load : Load Nat} (hs : c.cache.stored? path.json = none)
    (hl : c.cache.load? path.json = some load) (ho : load.outcome = none) :
    Happens c (.request path)
      ⟨{ c.agenda with state := ⟨c.cache.addWaiter c.asked.length path.json, c.answered⟩ }, c.asked ++ [path]⟩
  | idle (h : c.agenda.ready = []) : Happens c .run c
  | fetches {path : Json} {rest : List (Job Nat)} (h : c.agenda.ready = .chore (.load path) :: rest) :
    Happens c .run
      ⟨⟨⟨c.cache.beginFetch, c.answered⟩, rest, c.agenda.out ++ [path], c.agenda.requested ++ [path]⟩, c.asked⟩
  | forgets {path : Json} {rest : List (Job Nat)} (h : c.agenda.ready = .chore (.forget path) :: rest) :
    Happens c .run ⟨⟨⟨c.cache.forget path, c.answered⟩, rest, c.agenda.out, c.agenda.requested⟩, c.asked⟩
  | wakes {number : Nat} {outcome : Outcome} {rest : List (Job Nat)} (h : c.agenda.ready = .chore (.wake number outcome) :: rest) :
    Happens c .run ⟨⟨⟨c.cache, c.answered ++ [(number, outcome)]⟩, rest, c.agenda.out, c.agenda.requested⟩, c.asked⟩
  | nothing {i : Nat} {answer : Answer} (h : c.agenda.out[i]? = none) : Happens c (.answer i answer) c
  | comes {i : Nat} {answer : Answer} {path : Json} (h : c.agenda.out[i]? = some path) :
    Happens c (.answer i answer)
      ⟨⟨⟨(c.cache.finish path answer).1, c.answered⟩, c.agenda.ready ++ (c.cache.finish path answer).2.map .chore,
        c.agenda.out.eraseIdx i, c.agenda.requested⟩, c.asked⟩

/-- Only chores are ready: a request runs at once. -/
def Choring (c : Course) : Prop := ∀ job ∈ c.agenda.ready, ∃ chore, job = .chore chore

/-- One of these things happens. -/
theorem happens {c : Course} (hc : c.Choring) (event : Event) : Happens c event (c.step event) := by
  cases event with
  | request path =>
    have hj : (c.agenda.add (.ask c.asked.length path.json)).ready[c.agenda.ready.length]? =
        some (.ask c.asked.length path.json) := List.getElem?_concat_length
    have he : (c.agenda.add (.ask c.asked.length path.json)).ready.eraseIdx c.agenda.ready.length = c.agenda.ready := by
      rw [Agenda.add, List.eraseIdx_append_of_length_le (Nat.le_refl _)]
      simp
    have ha := c.cache.asked c.asked.length path.json
    rw [step, Agenda.runAt_of_some _ hj, he]
    simp only [Agenda.take, Agenda.add, Desk.program, Desk.perform]
    rw [show c.agenda.state.cache = c.cache from rfl]
    generalize c.cache.ask c.asked.length path.json = r at ha
    cases ha with
    | blank hb => rw [path.isKey.1] at hb; cases hb
    | notAKey _ hk => rw [path.isKey.2] at hk; cases hk
    | stored _ _ hs => simpa [Turn.rest, Desk.answer, cache, answered] using Happens.now (Or.inl ⟨_, hs, rfl⟩)
    | loaded _ _ hs hl ho => simpa [Turn.rest, Desk.answer, cache, answered] using Happens.now (Or.inr ⟨hs, _, hl, ho⟩)
    | begins _ _ hs hl => simpa [cache, answered] using Happens.begins hs hl
    | joins _ _ hs hl ho => simpa [cache, answered] using Happens.joins hs hl ho
  | run =>
    cases hr : c.agenda.ready with
    | nil => rw [step, Agenda.runAt_of_none _ (by rw [hr]; rfl)]; exact Happens.idle hr
    | cons job rest =>
      obtain ⟨chore, rfl⟩ := hc job (by rw [hr]; exact List.mem_cons_self)
      rw [step, Agenda.runAt_of_some _ (by rw [hr]; rfl)]
      cases chore with
      | load path => simpa [Agenda.take, Desk.program, Desk.perform, Desk.change, hr, cache, answered] using Happens.fetches hr
      | forget path =>
        simpa [Agenda.take, Desk.program, Desk.perform, Desk.change, hr, Turn.rest, cache, answered] using Happens.forgets hr
      | wake number outcome =>
        simpa [Agenda.take, Desk.program, Desk.perform, Desk.answer, hr, Turn.rest, cache, answered] using Happens.wakes hr
  | answer i answer =>
    cases hf : c.agenda.out[i]? with
    | none => rw [step, Agenda.answerAt_of_none _ hf]; exact Happens.nothing hf
    | some path =>
      rw [step, Agenda.answerAt_of_some _ hf]
      simpa [Agenda.take, Desk.program, Desk.receive, cache, answered] using Happens.comes hf

/-! ## The invariant -/

/-- The thread of a job: that of a request or of a load. -/
def thread : Job Nat → Thread
  | .ask number _ => .call number
  | .chore (.load path) => .load path.key
  | .chore (.forget path) => .forget path.key
  | .chore (.wake number _) => .call number

theorem thread_load (path : Json) : thread (.chore (.load path)) = .load path.key := by rw [thread]

theorem thread_forget (path : Json) : thread (.chore (.forget path)) = .forget path.key := by rw [thread]

theorem thread_wake (number : Nat) (outcome : Outcome) : thread (.chore (.wake number outcome)) = .call number := by rw [thread]

/-- How often a thread is carried: by those who wait, by those who have been answered, by jobs and by fetches. -/
def threads (θ : Thread) : Measure (Desk Nat) (Job Nat) Json where
  state d := d.cache.holds (fun n => θ.one (.call n)) + (d.answered.map fun e => θ.one (.call e.1)).sum
  job job := θ.one (thread job)
  fetch path := θ.one (.load path.key)

/-- Every request is in one place, every load has what it needs, and what is stored is what a load has come to. -/
structure Sound (c : Course) : Prop where
  choring : c.Choring
  distinct : c.cache.Distinct
  carried : ∀ θ : Thread, (threads θ).of c.agenda = c.cache.owes θ + θ.made c.asked.length
  paths : ∀ l ∈ c.cache.loads, ∃ p : ResourcePath, l.path = p.json
  stored : ∀ e ∈ c.cache.stored, ∃ p : ResourcePath, e.1 = p.json
  once : (c.cache.stored.map (·.1)).Nodup
  come : ∀ (p : ResourcePath) (data : Json) (load : Load Nat), c.cache.stored? p.json = some data →
    c.cache.load? p.json = some load → load.outcome = some (.ok data)
  counted : c.cache.fetches = c.agenda.requested.length

variable {c : Course}

/-- How often a thread is carried, all places together. -/
theorem of_threads (θ : Thread) (a : Agenda (Desk Nat) (Job Nat) Json) :
    (threads θ).of a =
      a.state.cache.holds (fun n => θ.one (.call n)) + (a.state.answered.map fun e => θ.one (.call e.1)).sum +
        (a.ready.map fun job => θ.one (thread job)).sum + (a.out.map fun path => θ.one (.load path.key)).sum := rfl

theorem fresh_sound : fresh.Sound where
  choring _ h := nomatch h
  distinct := empty_distinct
  carried θ := by cases θ <;> rfl
  paths _ h := nomatch h
  stored _ h := nomatch h
  once := List.nodup_nil
  come _ _ _ h := nomatch h
  counted := rfl

/-- The key of a path of a resource is that of no other path. -/
theorem eq_json_of_key {path : Json} {p : ResourcePath} (h : path.key = p.json.key) : path = p.json := Json.eq_text_of_key h

/-- The load of a path is the load of a resource. -/
theorem Sound.path_of_load (h : c.Sound) {path : Json} {load : Load Nat} (hl : c.cache.load? path = some load) :
    ∃ p : ResourcePath, path = p.json := by
  obtain ⟨p, hp⟩ := h.paths load (load?_mem hl)
  exact ⟨p, eq_json_of_key (hp ▸ (load?_path hl).symm)⟩

/-- A fetch that is out is that of a load without an outcome, and nothing is stored for its path. -/
theorem Sound.pending (h : c.Sound) {path : Json} (howes : 0 < c.cache.owes (.load path.key)) :
    ∃ (p : ResourcePath) (load : Load Nat), path = p.json ∧ c.cache.load? path = some load ∧ load.outcome = none ∧
      c.cache.stored? path = none := by
  obtain ⟨load, hl, ho⟩ := load_of_owes h.distinct howes
  obtain ⟨p, rfl⟩ := h.path_of_load hl
  refine ⟨p, load, rfl, hl, ho, ?_⟩
  cases hs : c.cache.stored? p.json with
  | none => rfl
  | some data =>
    have := h.come p data load hs hl
    rw [ho] at this
    nomatch this

/-- What carries a thread of a load is needed by the load. -/
theorem Sound.owes_of_out (h : c.Sound) {i : Nat} {path : Json} (hf : c.agenda.out[i]? = some path) :
    0 < c.cache.owes (.load path.key) := by
  have hle := (Course.threads (.load path.key)).fetch_le_of hf
  have hc := h.carried (.load path.key)
  simp only [Course.threads, Thread.one_self, Thread.made] at hle hc
  omega

theorem Sound.owes_of_ready (h : c.Sound) {i : Nat} {job : Job Nat} (hj : c.agenda.ready[i]? = some job)
    (hn : ∀ number, thread job ≠ .call number) : 0 < c.cache.owes (thread job) := by
  have hle := (Course.threads (thread job)).job_le_of hj
  have hc := h.carried (thread job)
  have hm : (thread job).made c.asked.length = 0 := by
    cases ht : thread job with
    | call number => exact absurd ht (hn number)
    | data | notes | load | forget => rfl
  simp only [Course.threads, Thread.one_self] at hle hc
  omega

/-! ## Steps -/

/-- The cache after an answer: what is new in it is at the end. -/
theorem store_of_none {cache : Cache Nat} {path : Json} (hs : cache.stored? path = none) (outcome : Outcome) :
    (cache.store path outcome).stored = cache.stored ++ (match outcome with | .ok data => [(path, data)] | .error _ => []) := by
  cases outcome with
  | ok data => exact putStored_of_none (stored?_eq_none_iff.1 hs)
  | error failure => exact (List.append_nil _).symm

/-- What is stored for a path after an outcome that another path may have. -/
theorem stored?_store {cache : Cache Nat} {p : ResourcePath} (hs : cache.stored? p.json = none) (outcome : Outcome) (q : ResourcePath) :
    (cache.store p.json outcome).stored? q.json =
      (cache.stored? q.json).or (if p = q then outcome.toOption else none) := by
  rw [stored?, store_of_none hs, List.find?_append, stored?]
  cases outcome with
  | error failure => simp [Except.toOption]
  | ok data =>
    have hkey : p.json.sameKey q.json = decide (p = q) := by
      rw [Bool.eq_iff_iff, Json.sameKey_iff, decide_eq_true_eq]
      exact ⟨ResourcePath.key_inj, fun h => h ▸ rfl⟩
    rw [List.find?_singleton, Option.map_or, hkey]
    by_cases hpq : p = q <;> simp [hpq, Except.toOption]

/-- Nothing is stored twice. -/
theorem nodup_store {cache : Cache Nat} {p : ResourcePath} (hs : cache.stored? p.json = none) (h : (cache.stored.map (·.1)).Nodup)
    (outcome : Outcome) : ((cache.store p.json outcome).stored.map (·.1)).Nodup := by
  rw [store_of_none hs, List.map_append]
  refine List.nodup_append.2 ⟨h, by split <;> simp, ?_⟩
  intro x hx y hy hxy
  split at hy
  · obtain rfl : y = p.json := by simpa using hy
    obtain ⟨e, he, rfl⟩ := List.mem_map.1 hx
    have hnone := List.find?_eq_none.1 (stored?_eq_none_iff.1 hs) e he
    rw [hxy] at hnone
    exact hnone (Json.sameKey_refl _)
  · cases hy

/-- A load of a resource that is stored has come to it, also after an answer. -/
theorem Sound.come_finish (h : c.Sound) {p q : ResourcePath} (hs : c.cache.stored? p.json = none) {answer : Answer} {data : Json}
    {load : Load Nat} (hq : (c.cache.finish p.json answer).1.stored? q.json = some data)
    (hl : (c.cache.finish p.json answer).1.load? q.json = some load) : load.outcome = some (.ok data) := by
  change (c.cache.store p.json (outcomeOf p.json answer)).stored? q.json = some data at hq
  rw [stored?_store hs] at hq
  rw [finish, load?_settleLoad, load?_store] at hl
  obtain ⟨load', hl', rfl⟩ := Option.map_eq_some_iff.1 hl
  by_cases hpq : p = q
  · subst hpq
    rw [hs, Option.none_or, if_pos rfl] at hq
    rw [if_pos (Json.sameKey_iff.2 (load?_path hl'))]
    cases hout : outcomeOf p.json answer with
    | ok data' => rw [hout] at hq; rw [Option.some.inj hq]
    | error failure => rw [hout] at hq; cases hq
  · rw [if_neg hpq, Option.or_none] at hq
    rw [if_neg]
    · exact h.come q data load' hq hl'
    · rw [Json.sameKey_iff, load?_path hl']
      exact fun hkey => hpq (ResourcePath.key_inj hkey).symm

/-- An answer gives the load of its path an outcome, which is stored if it is a value. -/
theorem Sound.comes (h : c.Sound) {i : Nat} {path : Json} (answer : Answer) (hf : c.agenda.out[i]? = some path) :
    Sound ⟨⟨⟨(c.cache.finish path answer).1, c.answered⟩, c.agenda.ready ++ (c.cache.finish path answer).2.map .chore,
      c.agenda.out.eraseIdx i, c.agenda.requested⟩, c.asked⟩ := by
  obtain ⟨p, load, rfl, hl, ho, hs⟩ := h.pending (h.owes_of_out hf)
  constructor
  case choring =>
    intro job hjob
    rcases List.mem_append.1 hjob with hjob | hjob
    · exact h.choring job hjob
    · obtain ⟨chore, -, rfl⟩ := List.mem_map.1 hjob
      exact ⟨chore, rfl⟩
  case distinct => exact finish_distinct h.distinct _ _
  case carried =>
    intro θ
    have hchores := finish_chores hl answer
    obtain ⟨hh, hw⟩ := threads_finish (fun n => θ.one (.call n)) θ h.distinct hl ho answer
    have hout := Sum.map_eraseIdx (fun path : Json => θ.one (.load path.key)) hf
    have hc := h.carried θ
    rw [of_threads] at hc ⊢
    simp only [cache, answered] at hh hw hchores hc ⊢
    simp only [hchores, List.map_append, List.map_cons, List.map_map, List.sum_append, List.sum_cons, Function.comp_def, thread_forget,
      thread_wake]
    omega
  case paths =>
    intro l hmem
    obtain ⟨l', hl', hpath, -⟩ := mem_finish_loads hmem
    rw [hpath]
    exact h.paths l' hl'
  case stored =>
    intro e he
    rcases mem_store he with he | ⟨hkey, -⟩
    · exact h.stored e he
    · exact ⟨p, eq_json_of_key hkey⟩
  case once => exact nodup_store hs h.once _
  case come => exact fun q data l hq hlq => h.come_finish hs hq hlq
  case counted => exact (fetches_store _ _ _).trans h.counted

/-- A request that begins a load. -/
theorem Sound.begins (h : c.Sound) {path : ResourcePath} (hs : c.cache.stored? path.json = none)
    (hl : c.cache.load? path.json = none) :
    Sound ⟨{ c.agenda with
        state := ⟨{ c.cache with loads := c.cache.loads ++ [⟨path.json, [c.asked.length], none⟩] }, c.answered⟩
        ready := c.agenda.ready ++ [.chore (.load path.json)] }, c.asked ++ [path]⟩ where
  choring job hjob := by
    rcases List.mem_append.1 hjob with hjob | hjob
    · exact h.choring job hjob
    · exact ⟨_, List.mem_singleton.1 hjob⟩
  distinct := begins_distinct h.distinct hl _
  carried θ := by
    obtain ⟨hh, hw⟩ := threads_begins (fun n => θ.one (.call n)) θ c.asked.length path.json c.cache
    have hc := h.carried θ
    have hm := θ.made_succ c.asked.length
    rw [of_threads] at hc ⊢
    simp only [cache, answered] at hh hw hc ⊢
    simp only [List.length_append, List.length_singleton, List.map_append, List.map_cons, List.map_nil, List.sum_append, List.sum_cons,
      List.sum_nil, thread_load]
    omega
  paths l hmem := by
    rcases List.mem_append.1 hmem with hmem | hmem
    · exact h.paths l hmem
    · exact ⟨path, by rw [List.mem_singleton.1 hmem]⟩
  stored := h.stored
  once := h.once
  come q data l hq hlq := by
    change load? q.json { c.cache with loads := c.cache.loads ++ [⟨path.json, [c.asked.length], none⟩] } = some l at hlq
    rw [load?_begins] at hlq
    rcases Option.or_eq_some_iff.1 hlq with hlq | ⟨-, hlq⟩
    · exact h.come q data l hq hlq
    · split at hlq
      · rename_i hkey
        rw [← ResourcePath.key_inj (Json.sameKey_iff.1 hkey)] at hq
        change c.cache.stored? path.json = some data at hq
        rw [hs] at hq
        nomatch hq
      · nomatch hlq
  counted := h.counted

/-- A request that joins a load. -/
theorem Sound.joins (h : c.Sound) {path : ResourcePath} {load : Load Nat} (hl : c.cache.load? path.json = some load)
    (ho : load.outcome = none) :
    Sound ⟨{ c.agenda with state := ⟨c.cache.addWaiter c.asked.length path.json, c.answered⟩ }, c.asked ++ [path]⟩ where
  choring := h.choring
  distinct := by
    show (c.cache.addWaiter c.asked.length path.json).Distinct
    rw [Distinct, keys_addWaiter]
    exact h.distinct
  carried θ := by
    obtain ⟨hh, hw⟩ := threads_addWaiter (fun n => θ.one (.call n)) θ h.distinct hl ho c.asked.length
    have hc := h.carried θ
    have hm := θ.made_succ c.asked.length
    rw [of_threads] at hc ⊢
    simp only [cache, answered] at hh hw hc ⊢
    simp only [List.length_append, List.length_singleton]
    omega
  paths l hmem := by
    obtain ⟨l', hl', rfl⟩ := List.mem_map.1 hmem
    obtain ⟨q, hq⟩ := h.paths l' hl'
    refine ⟨q, ?_⟩
    split <;> exact hq
  stored := h.stored
  once := h.once
  come q data l hq hlq := by
    change (c.cache.addWaiter c.asked.length path.json).load? q.json = some l at hlq
    rw [load?_addWaiter] at hlq
    obtain ⟨l', hl', rfl⟩ := Option.map_eq_some_iff.1 hlq
    have hcome := h.come q data l' hq hl'
    split <;> exact hcome
  counted := h.counted

/-- A load that has an outcome is forgotten. -/
theorem Sound.forgets (h : c.Sound) {path : Json} {rest : List (Job Nat)} (hr : c.agenda.ready = .chore (.forget path) :: rest) :
    Sound ⟨⟨⟨c.cache.forget path, c.answered⟩, rest, c.agenda.out, c.agenda.requested⟩, c.asked⟩ where
  choring job hjob := h.choring job (by rw [hr]; exact List.mem_cons_of_mem _ hjob)
  distinct := forget_distinct h.distinct path
  carried θ := by
    have hj : c.agenda.ready[0]? = some (.chore (.forget path)) := by rw [hr]; rfl
    have howes : 0 < c.cache.owes (.forget path.key) := h.owes_of_ready hj fun _ => by simp [thread]
    obtain ⟨load, hl, ho⟩ := load_of_owes_forget h.distinct howes
    obtain ⟨hh, hw⟩ := threads_forget (fun n => θ.one (.call n)) θ h.distinct hl ho
    have hc := h.carried θ
    rw [of_threads, hr] at hc
    rw [of_threads]
    simp only [cache, answered, List.map_cons, List.sum_cons, thread_forget] at hh hw hc ⊢
    omega
  paths l hmem := h.paths l (List.mem_filter.1 hmem).1
  stored := h.stored
  once := h.once
  come q data l hq hlq := by
    change (c.cache.forget path).load? q.json = some l at hlq
    rw [load?_forget] at hlq
    split at hlq
    · nomatch hlq
    · exact h.come q data l hq hlq
  counted := h.counted

/-- Whatever happens keeps the invariant. -/
theorem Sound.step (h : c.Sound) (event : Event) : (c.step event).Sound := by
  have hh := happens h.choring event
  generalize c.step event = c' at hh
  cases hh with
  | now _ =>
    refine ⟨h.choring, h.distinct, fun θ => ?_, h.paths, h.stored, h.once, h.come, h.counted⟩
    have hc := h.carried θ
    have hm := θ.made_succ c.asked.length
    rw [of_threads] at hc ⊢
    simp only [cache, answered, List.length_append, List.length_singleton, List.map_append, List.map_cons, List.map_nil,
      List.sum_append, List.sum_cons, List.sum_nil] at hc ⊢
    omega
  | begins hs hl => exact h.begins hs hl
  | joins _ hl ho => exact h.joins hl ho
  | idle | nothing => exact h
  | fetches hr =>
    refine ⟨fun job hjob => h.choring job (by rw [hr]; exact List.mem_cons_of_mem _ hjob), h.distinct, fun θ => ?_, h.paths,
      h.stored, h.once, h.come, ?_⟩
    · have hc := h.carried θ
      rw [of_threads, hr] at hc
      rw [of_threads]
      simp only [cache, answered, beginFetch, holds, owes, total, List.map_cons, List.sum_cons, List.map_append, List.map_nil,
        List.sum_append, List.sum_nil, thread_load] at hc ⊢
      omega
    · show c.cache.fetches + 1 = _
      rw [h.counted, List.length_append, List.length_singleton]
  | forgets hr => exact h.forgets hr
  | wakes hr =>
    refine ⟨fun job hjob => h.choring job (by rw [hr]; exact List.mem_cons_of_mem _ hjob), h.distinct, fun θ => ?_, h.paths,
      h.stored, h.once, h.come, h.counted⟩
    have hc := h.carried θ
    rw [of_threads, hr] at hc
    rw [of_threads]
    simp only [cache, answered, List.map_cons, List.sum_cons, List.map_append, List.map_nil, List.sum_append, List.sum_nil,
      thread_wake] at hc ⊢
    omega
  | comes hf => exact h.comes _ hf

theorem Sound.after (h : c.Sound) (events : List Event) : (c.after events).Sound := by
  induction events generalizing c with
  | nil => exact h
  | cons event events ih => exact ih (h.step event)

end Course

end Cache

end Flashcards
