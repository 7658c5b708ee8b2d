import Flashcards.Proofs.Cache.Flight

/-!
# Single flight

At most one fetch of a path is out, and all who ask for the path meanwhile get what that fetch gets. What has been fetched and read once is
stored and never fetched again; what could not be fetched is fetched again for the next who asks, after those who waited have been told.
`Cache.Course.SingleFlight` says this of a course of events, and `Cache.Course.single_flight` shows it for all of them.
-/

namespace Flashcards

namespace Cache.Course

variable {c : Course} {p : ResourcePath} {n : Nat}

/-! ## Fetches that are out -/

/-- A fetch of a path is out, or is about to be started. -/
def Outstanding (p : ResourcePath) (c : Course) : Prop := p.json ∈ c.agenda.out ∨ .chore (.load p.json) ∈ c.agenda.ready

/-- A request waits for the load of a path. -/
def Waiting (n : Nat) (p : ResourcePath) (c : Course) : Prop :=
  ∃ load, c.cache.load? p.json = some load ∧ load.outcome = none ∧ n ∈ load.waiters

/-- A request has been answered with an outcome, or is about to be. -/
def Told (n : Nat) (outcome : Outcome) (c : Course) : Prop :=
  .chore (.wake n outcome) ∈ c.agenda.ready ∨ (n, outcome) ∈ c.answered

/-- A fetch of a path is outstanding exactly if the path has a load without an outcome. -/
theorem Sound.outstanding_iff (h : c.Sound) :
    c.Outstanding p ↔ ∃ load, c.cache.load? p.json = some load ∧ load.outcome = none := by
  constructor
  · intro ho
    have howes : 0 < c.cache.owes (.load p.json.key) := by
      rcases ho with hout | hready
      · obtain ⟨i, hi⟩ := List.getElem?_of_mem hout
        exact h.owes_of_out hi
      · obtain ⟨i, hi⟩ := List.getElem?_of_mem hready
        exact h.owes_of_ready hi fun _ => by simp [thread]
    exact load_of_owes h.distinct howes
  · rintro ⟨load, hl, ho⟩
    have howes : 0 < c.cache.owes (.load p.json.key) := by
      have hle := Sum.le_of_mem (Load.owes (.load p.json.key)) (load?_mem hl)
      rw [Load.owes, ho, load?_path hl, Option.isSome_none, if_neg Bool.false_ne_true, Thread.one_self] at hle
      exact hle
    have hc := h.carried (.load p.json.key)
    rw [of_threads] at hc
    have hstate : c.agenda.state.cache.holds (fun n => (Thread.load p.json.key).one (.call n)) = 0 := by
      refine Sum.eq_zero fun l _ => ?_
      rw [Load.holds, Sum.eq_zero fun _ _ => Thread.one_of_ne (by simp)]
      split <;> rfl
    have hanswered : (c.agenda.state.answered.map fun e => (Thread.load p.json.key).one (.call e.1)).sum = 0 :=
      Sum.eq_zero fun _ _ => Thread.one_of_ne (by simp)
    rcases Nat.eq_zero_or_pos ((c.agenda.out.map fun path => (Thread.load p.json.key).one (.load path.key)).sum) with hz | hpos
    · have hready : 0 < (c.agenda.ready.map fun job => (Thread.load p.json.key).one (thread job)).sum := by omega
      obtain ⟨job, hjob, hone⟩ := Sum.exists_of_pos hready
      refine Or.inr ?_
      obtain ⟨chore, rfl⟩ := h.choring job hjob
      rw [Thread.one_pos] at hone
      cases chore with
      | load path => rwa [← eq_json_of_key (Thread.load.inj hone)]
      | forget path => cases hone
      | wake number outcome => cases hone
    · obtain ⟨path, hpath, hone⟩ := Sum.exists_of_pos hpos
      rw [Thread.one_pos] at hone
      exact Or.inl (eq_json_of_key (Thread.load.inj hone) ▸ hpath)

/-- Nothing is stored for a path of which a fetch is outstanding. -/
theorem Sound.stored?_of_outstanding (h : c.Sound) (ho : c.Outstanding p) : c.cache.stored? p.json = none := by
  obtain ⟨load, hl, hout⟩ := h.outstanding_iff.1 ho
  cases hs : c.cache.stored? p.json with
  | none => rfl
  | some data =>
    have hcome := h.come p data load hs hl
    rw [hout] at hcome
    nomatch hcome

/-- No two fetches of one path are out. -/
theorem Sound.out_nodup (h : c.Sound) : c.agenda.out.Nodup := by
  rw [List.nodup_iff_count]
  intro path
  rcases Nat.eq_zero_or_pos (c.agenda.out.count path) with hz | hpos
  · omega
  · have hcount : c.agenda.out.count path ≤ (c.agenda.out.map fun q => (Thread.load path.key).one (.load q.key)).sum := by
      generalize c.agenda.out = out
      induction out with
      | nil => exact Nat.le_refl _
      | cons q out ih =>
        rw [List.count_cons, List.map_cons, List.sum_cons]
        by_cases hq : q = path
        · simp [hq] at ih ⊢
          omega
        · simp [hq] at ih ⊢
          omega
    have hc := h.carried (.load path.key)
    have hle := owes_load_le h.distinct path
    rw [of_threads] at hc
    simp only [Thread.made] at hc
    omega

/-! ## What fetches come to -/

/-- The answer to a fetch of a path that an event brings, if it brings one. -/
def answerTo? (p : ResourcePath) (c : Course) : Event → Option Answer
  | .answer i answer => if c.agenda.out[i]? = some p.json then some answer else none
  | .request _ | .run => none

/-- The answers to fetches of a path in the course of events, in order. -/
def answersTo (p : ResourcePath) : Course → List Event → List Answer
  | _, [] => []
  | c, event :: events => (c.answerTo? p event).toList ++ answersTo p (c.step event) events

/-- What is stored for a path after an event. -/
theorem Sound.stored?_step (h : c.Sound) (p : ResourcePath) (event : Event) :
    (c.step event).cache.stored? p.json =
      (c.cache.stored? p.json).or ((c.answerTo? p event).bind fun answer => (outcomeOf p.json answer).toOption) := by
  have hh := happens h.choring event
  generalize c.step event = c' at hh
  cases hh with
  | now | begins | joins | idle | fetches | forgets | wakes => exact (Option.or_none).symm
  | nothing hf => rw [answerTo?, hf, if_neg nofun]; exact (Option.or_none).symm
  | @comes i answer path hf =>
    obtain ⟨q, load, rfl, -, -, hs⟩ := h.pending (h.owes_of_out hf)
    rw [answerTo?, hf]
    change (c.cache.store q.json (outcomeOf q.json answer)).stored? p.json = _
    rw [stored?_store hs]
    by_cases hqp : q = p
    · subst hqp
      rw [if_pos rfl, if_pos rfl]
      rfl
    · rw [if_neg hqp, if_neg fun hj => hqp (ResourcePath.json_inj (Option.some.inj hj))]
      rfl

/-- Where a path is stored, no fetch of it is answered. -/
theorem Sound.answerTo?_of_stored (h : c.Sound) {data : Json} (hs : c.cache.stored? p.json = some data) (event : Event) :
    c.answerTo? p event = none := by
  cases event with
  | request | run => rfl
  | answer i answer =>
    refine if_neg fun hf => ?_
    rw [h.stored?_of_outstanding (Or.inl (List.mem_of_getElem? hf))] at hs
    nomatch hs

/-- What is stored stays. -/
theorem Sound.stored?_after (h : c.Sound) {data : Json} (hs : c.cache.stored? p.json = some data) (events : List Event) :
    (c.after events).cache.stored? p.json = some data ∧ c.answersTo p events = [] := by
  induction events generalizing c with
  | nil => exact ⟨hs, rfl⟩
  | cons event events ih =>
    have ha := h.answerTo?_of_stored hs event
    have hs' : (c.step event).cache.stored? p.json = some data := by rw [h.stored?_step, ha, hs]; rfl
    obtain ⟨hafter, hnone⟩ := ih (h.step event) hs'
    exact ⟨hafter, by rw [answersTo, ha, hnone]; rfl⟩

/-- What is stored for a path is what was, or what one of the fetches of the path has come to. -/
theorem Sound.stored?_after_iff (h : c.Sound) (p : ResourcePath) (data : Json) (events : List Event) :
    (c.after events).cache.stored? p.json = some data ↔
      c.cache.stored? p.json = some data ∨ ∃ answer ∈ c.answersTo p events, outcomeOf p.json answer = .ok data := by
  induction events generalizing c with
  | nil => exact ⟨Or.inl, fun hor => hor.elim id fun ⟨_, hmem, _⟩ => nomatch hmem⟩
  | cons event events ih =>
    have hstep := h.stored?_step p event
    cases hs : c.cache.stored? p.json with
    | some data' =>
      obtain ⟨hafter, hnone⟩ := h.stored?_after hs (event :: events)
      rw [hafter, hnone]
      exact ⟨Or.inl, fun hor => hor.elim id fun ⟨_, hmem, _⟩ => nomatch hmem⟩
    | none =>
      change ((c.step event).after events).cache.stored? p.json = some data ↔ _
      rw [ih (h.step event), hstep, hs, answersTo]
      cases ha : c.answerTo? p event with
      | none => simp
      | some answer =>
        cases ho : outcomeOf p.json answer with
        | ok data' =>
          -- Nothing else comes: it is stored.
          have hs' : (c.step event).cache.stored? p.json = some data' := by rw [hstep, hs, ha, Option.bind_some, ho]; rfl
          rw [((h.step event).stored?_after hs' events).2]
          simp [ho, Except.toOption]
        | error failure => simp [ho, Except.toOption]

/-! ## Those who wait -/

/-- One who is asked for while a fetch of the path is outstanding waits. -/
theorem Sound.request_waiting (h : c.Sound) (ho : (c.step (.request p)).Outstanding p) :
    (c.step (.request p)).Waiting c.asked.length p := by
  have hh := happens h.choring (.request p)
  obtain ⟨load, hl, hnone⟩ := (h.step (.request p)).outstanding_iff.1 ho
  have hstored := (h.step (.request p)).stored?_of_outstanding ho
  generalize c.step (.request p) = c' at hh hl hstored
  cases hh with
  | now hnow =>
    rcases hnow with ⟨data, hs, -⟩ | ⟨-, load', hl', ho'⟩
    · change c.cache.stored? p.json = none at hstored
      rw [hs] at hstored
      nomatch hstored
    · change c.cache.load? p.json = some load at hl
      rw [hl] at hl'
      obtain rfl := Option.some.inj hl'
      rw [hnone] at ho'
      nomatch ho'
  | begins hs hn =>
    refine ⟨⟨p.json, [c.asked.length], none⟩, ?_, rfl, List.mem_singleton.2 rfl⟩
    change load? p.json { c.cache with loads := c.cache.loads ++ [⟨p.json, [c.asked.length], none⟩] } = _
    rw [load?_begins, hn, Option.none_or, if_pos (Json.sameKey_refl _)]
  | @joins _ load' hs hl' ho' =>
    refine ⟨{ load' with waiters := load'.waiters ++ [c.asked.length] }, ?_, ho', by simp⟩
    change (c.cache.addWaiter c.asked.length p.json).load? p.json = _
    rw [load?_addWaiter, hl', Option.map_some, if_pos (Json.sameKey_iff.2 (load?_path hl'))]

/-- One who waits goes on waiting until the fetch is answered. Then there is a chore to tell the outcome. -/
theorem Sound.waiting_step (h : c.Sound) (hw : c.Waiting n p) (event : Event) :
    match c.answerTo? p event with
    | none => (c.step event).Waiting n p
    | some answer => (c.step event).Told n (outcomeOf p.json answer) := by
  obtain ⟨load, hl, ho, hn⟩ := hw
  have hh := happens h.choring event
  generalize c.step event = c' at hh
  cases hh with
  | now | idle | fetches | wakes => exact ⟨load, hl, ho, hn⟩
  | nothing hf =>
    rw [answerTo?, hf, if_neg (by simp)]
    exact ⟨load, hl, ho, hn⟩
  | @begins path hs hp =>
    refine ⟨load, ?_, ho, hn⟩
    change load? p.json { c.cache with loads := c.cache.loads ++ [⟨path.json, [c.asked.length], none⟩] } = _
    rw [load?_begins, hl, Option.some_or]
  | @joins path load' hs hl' ho' =>
    refine ⟨if load.path.sameKey path.json then { load with waiters := load.waiters ++ [c.asked.length] } else load, ?_, ?_, ?_⟩
    · change (c.cache.addWaiter c.asked.length path.json).load? p.json = _
      rw [load?_addWaiter, hl, Option.map_some]
    · split <;> exact ho
    · split
      · exact List.mem_append_left _ hn
      · exact hn
  | @forgets path rest hr =>
    refine ⟨load, ?_, ho, hn⟩
    change (c.cache.forget path).load? p.json = _
    rw [load?_forget, if_neg, hl]
    -- What is forgotten has an outcome.
    intro hkey
    have hj : c.agenda.ready[0]? = some (.chore (.forget path)) := by rw [hr]; rfl
    have howes : 0 < c.cache.owes (.forget path.key) := h.owes_of_ready hj fun _ => by simp [thread]
    rw [← hkey] at howes
    obtain ⟨load', hl', hout⟩ := load_of_owes_forget h.distinct howes
    rw [hl] at hl'
    obtain rfl := Option.some.inj hl'
    rw [ho] at hout
    cases hout
  | @comes i answer path hf =>
    obtain ⟨q, load', rfl, hl', ho', -⟩ := h.pending (h.owes_of_out hf)
    rw [answerTo?, hf]
    by_cases hqp : q = p
    · subst hqp
      rw [if_pos rfl]
      rw [hl] at hl'
      obtain rfl := Option.some.inj hl'
      refine Or.inl (List.mem_append_right _ (List.mem_map.2 ⟨_, ?_, rfl⟩))
      rw [finish_chores hl]
      exact List.mem_cons_of_mem _ (List.mem_map.2 ⟨n, hn, rfl⟩)
    · rw [if_neg fun hj => hqp (ResourcePath.json_inj (Option.some.inj hj))]
      refine ⟨load, ?_, ho, hn⟩
      change (c.cache.finish q.json answer).1.load? p.json = _
      rw [finish, load?_settleLoad, load?_store, hl, Option.map_some, if_neg]
      rw [Json.sameKey_iff, load?_path hl]
      exact fun hkey => hqp (ResourcePath.key_inj hkey).symm

/-- One who is told stays told. -/
theorem Sound.told_step {outcome : Outcome} (h : c.Sound) (ht : c.Told n outcome) (event : Event) : (c.step event).Told n outcome := by
  have hh := happens h.choring event
  generalize c.step event = c' at hh
  cases hh with
  | now => exact ht.imp_right (List.mem_append_left _)
  | begins => exact ht.imp_left (List.mem_append_left _)
  | joins | idle | nothing => exact ht
  | comes => exact ht.imp_left (List.mem_append_left _)
  | fetches hr | forgets hr =>
    refine ht.imp_left fun hmem => ?_
    rw [hr] at hmem
    exact (List.mem_cons.1 hmem).resolve_left nofun
  | wakes hr =>
    rcases ht with hmem | hmem
    · rw [hr] at hmem
      rcases List.mem_cons.1 hmem with heq | hmem
      · cases heq
        exact Or.inr (List.mem_append_right _ (List.mem_singleton.2 rfl))
      · exact Or.inl hmem
    · exact Or.inr (List.mem_append_left _ hmem)

theorem Sound.told_after {outcome : Outcome} (h : c.Sound) (ht : c.Told n outcome) (events : List Event) :
    (c.after events).Told n outcome := by
  induction events generalizing c with
  | nil => exact ht
  | cons event events ih => exact ih (h.step event) (h.told_step ht event)

/-- One who waits is told what the first answer to a fetch of the path comes to, and waits until then. -/
theorem Sound.waiting_after (h : c.Sound) (hw : c.Waiting n p) (events : List Event) :
    match (c.answersTo p events).head? with
    | none => (c.after events).Waiting n p
    | some answer => (c.after events).Told n (outcomeOf p.json answer) := by
  induction events generalizing c with
  | nil => exact hw
  | cons event events ih =>
    have hs := h.waiting_step hw event
    rw [answersTo]
    cases ha : c.answerTo? p event with
    | none =>
      rw [ha] at hs
      exact ih (h.step event) hs
    | some answer =>
      rw [ha] at hs
      exact (h.step event).told_after hs events

/-- A request is in one place: whoever has been answered neither waits nor is still to be told, and has been answered once. -/
theorem Sound.places (h : c.Sound) (n : Nat) :
    c.cache.holds (fun m => (Thread.call n).one (.call m)) + (c.answered.map fun e => (Thread.call n).one (.call e.1)).sum +
      (c.agenda.ready.map fun job => (Thread.call n).one (thread job)).sum ≤ 1 := by
  have hc := h.carried (.call n)
  have howes := c.cache.owes_eq_zero (θ := .call n) (by simp) (by simp)
  have hm : (Thread.call n).made c.asked.length ≤ 1 := by
    rw [Thread.made]
    split <;> omega
  rw [of_threads] at hc
  simp only [cache, answered] at howes hc ⊢
  omega

theorem answered_pos {outcome : Outcome} (ha : (n, outcome) ∈ c.answered) :
    0 < (c.answered.map fun e => (Thread.call n).one (.call e.1)).sum := by
  have hle := Sum.le_of_mem (fun e : Nat × Outcome => (Thread.call n).one (.call e.1)) ha
  simp only [Thread.one_self] at hle
  exact hle

/-- One who waits has not been answered. -/
theorem Sound.not_answered (h : c.Sound) (hw : c.Waiting n p) (outcome : Outcome) : (n, outcome) ∉ c.answered := by
  intro ha
  obtain ⟨load, hl, ho, hn⟩ := hw
  have hheld : 0 < c.cache.holds (fun m => (Thread.call n).one (.call m)) := by
    have hle := Sum.le_of_mem (Load.holds fun m => (Thread.call n).one (.call m)) (load?_mem hl)
    have hone := Sum.le_of_mem (fun m => (Thread.call n).one (.call m)) hn
    rw [Load.holds, ho, Option.isSome_none, if_neg Bool.false_ne_true] at hle
    rw [Thread.one_self] at hone
    exact Nat.lt_of_lt_of_le hone hle
  have hplaces := h.places n
  have hpos := answered_pos ha
  omega

/-- One who is still to be told has not been answered. -/
theorem Sound.not_answered_of_wake {outcome : Outcome} (h : c.Sound) (hw : .chore (.wake n outcome) ∈ c.agenda.ready)
    (outcome' : Outcome) : (n, outcome') ∉ c.answered := by
  intro ha
  have hle := Sum.le_of_mem (fun job => (Thread.call n).one (thread job)) hw
  rw [thread_wake, Thread.one_self] at hle
  have hplaces := h.places n
  have hpos := answered_pos ha
  omega

/-- One who is told one outcome is not answered with another. -/
theorem Sound.told_unique {outcome outcome' : Outcome} (h : c.Sound) (ht : c.Told n outcome) (ha : (n, outcome') ∈ c.answered) :
    outcome' = outcome := by
  rcases ht with hw | ha'
  · exact absurd ha (h.not_answered_of_wake hw outcome')
  · by_cases heq : (n, outcome') = (n, outcome)
    · exact congrArg Prod.snd heq
    · have hle := Sum.add_le_of_mem (fun e : Nat × Outcome => (Thread.call n).one (.call e.1)) ha' ha heq
      simp only [Thread.one_self] at hle
      have hplaces := h.places n
      omega

/-! ## After a failure -/

/-- The load of a path is forgotten before a request that waited for it is answered. -/
def Forgetting (n : Nat) (p : ResourcePath) (c : Course) : Prop :=
  c.cache.load? p.json = none ∨
    ∃ before outcome after,
      c.agenda.ready = before ++ .chore (.forget p.json) :: after ∧ .chore (.wake n outcome) ∈ after

/-- One who waits is answered after the load has been forgotten. -/
theorem Sound.forgetting_of_waiting (h : c.Sound) (hw : c.Waiting n p) {event : Event} {answer : Answer}
    (ha : c.answerTo? p event = some answer) : (c.step event).Forgetting n p := by
  obtain ⟨load, hl, ho, hn⟩ := hw
  cases event with
  | request | run => nomatch ha
  | answer i answer' =>
    have hf : c.agenda.out[i]? = some p.json := by
      rw [answerTo?] at ha
      split at ha
      · assumption
      · nomatch ha
    have hh := happens h.choring (.answer i answer')
    generalize c.step (.answer i answer') = c' at hh
    cases hh with
    | nothing hnone => rw [hf] at hnone; nomatch hnone
    | comes hf' =>
      rw [hf] at hf'
      obtain rfl := Option.some.inj hf'
      refine Or.inr ⟨c.agenda.ready, outcomeOf p.json answer', load.waiters.map fun m => .chore (.wake m (outcomeOf p.json answer')),
        ?_, List.mem_map.2 ⟨n, hn, rfl⟩⟩
      simp only [finish_chores hl, List.map_cons, List.map_map, Function.comp_def]

/-- What is in front of the chore that forgets goes first. -/
theorem Forgetting.of_ready {before after rest : List (Job Nat)} {job : Job Nat} {outcome : Outcome}
    (hjob : job ≠ .chore (.forget p.json)) (hr : job :: rest = before ++ .chore (.forget p.json) :: after)
    (hw : .chore (.wake n outcome) ∈ after) :
    ∃ before outcome after, rest = before ++ .chore (.forget p.json) :: after ∧ .chore (.wake n outcome) ∈ after := by
  cases before with
  | nil => exact absurd (List.cons.inj hr).1 hjob
  | cons _ before => exact ⟨before, outcome, after, (List.cons.inj hr).2, hw⟩

/-- As long as no fetch of the path is outstanding, its load has been forgotten or will be before the request is answered. -/
theorem Sound.forgetting_step (h : c.Sound) (hg : c.Forgetting n p) (event : Event) (hout : ¬ (c.step event).Outstanding p) :
    (c.step event).Forgetting n p := by
  have hh := happens h.choring event
  generalize c.step event = c' at hh hout
  cases hh with
  | now | idle | nothing => exact hg
  | @begins path hs hl =>
    have hpath : path ≠ p := by
      rintro rfl
      exact hout (Or.inr (List.mem_append_right _ (List.mem_singleton.2 rfl)))
    rcases hg with hnone | ⟨before, outcome, after, hr, hw⟩
    · refine Or.inl ?_
      change load? p.json { c.cache with loads := c.cache.loads ++ [⟨path.json, [c.asked.length], none⟩] } = none
      rw [load?_begins, hnone, Option.none_or, if_neg]
      rw [Json.sameKey_iff]
      exact fun hkey => hpath (ResourcePath.key_inj hkey)
    · exact Or.inr ⟨before, outcome, _, by rw [hr, List.append_assoc]; rfl, List.mem_append_left _ hw⟩
  | @joins path load hs hl ho =>
    refine hg.imp_left fun hnone => ?_
    change (c.cache.addWaiter c.asked.length path.json).load? p.json = none
    rw [load?_addWaiter, hnone, Option.map_none]
  | fetches hr =>
    refine hg.imp_right fun ⟨before, outcome, after, hr', hw⟩ => ?_
    exact Forgetting.of_ready (by simp) (hr ▸ hr') hw
  | wakes hr =>
    refine hg.imp_right fun ⟨before, outcome, after, hr', hw⟩ => ?_
    exact Forgetting.of_ready (by simp) (hr ▸ hr') hw
  | @forgets path rest hr =>
    have hload := load?_forget path p.json c.cache
    by_cases hkey : p.json.key = path.key
    · exact Or.inl (by rw [if_pos hkey] at hload; exact hload)
    · rw [if_neg hkey] at hload
      rcases hg with hnone | ⟨before, outcome, after, hr', hw⟩
      · exact Or.inl (hload.trans hnone)
      · refine Or.inr (Forgetting.of_ready ?_ (hr ▸ hr') hw)
        rintro heq
        cases heq
        exact hkey rfl
  | @comes i answer path hf =>
    rcases hg with hnone | ⟨before, outcome, after, hr, hw⟩
    · refine Or.inl ?_
      change (c.cache.finish path answer).1.load? p.json = none
      rw [finish, load?_settleLoad, load?_store, hnone, Option.map_none]
    · exact Or.inr ⟨before, outcome, _, by rw [hr, List.append_assoc]; rfl, List.mem_append_left _ hw⟩

/-- A fetch that is not outstanding is not answered. -/
theorem answerTo?_of_not_outstanding (ho : ¬ c.Outstanding p) (event : Event) : c.answerTo? p event = none := by
  cases event with
  | request | run => rfl
  | answer i answer => exact if_neg fun hf => ho (Or.inl (List.mem_of_getElem? hf))

/-- As long as no fetch of the path becomes outstanding, nothing is stored for it, and its load is forgotten in time. -/
theorem Sound.forgetting_after (h : c.Sound) (hg : c.Forgetting n p) (hs : c.cache.stored? p.json = none) {events : List Event}
    (hout : ∀ before rest, events = before ++ rest → ¬ (c.after before).Outstanding p) :
    (c.after events).Forgetting n p ∧ (c.after events).cache.stored? p.json = none := by
  induction events generalizing c with
  | nil => exact ⟨hg, hs⟩
  | cons event events ih =>
    refine ih (h.step event) (h.forgetting_step hg event (hout [event] events rfl)) ?_ fun before rest heq => ?_
    · rw [h.stored?_step, hs, answerTo?_of_not_outstanding (c := c) (hout [] _ rfl)]
      rfl
    · exact hout (event :: before) rest (by rw [heq]; rfl)

/-- A path that has neither a value stored nor a load is fetched when it is asked for. -/
theorem Sound.step_begins (h : c.Sound) (hs : c.cache.stored? p.json = none) (hl : c.cache.load? p.json = none) :
    (c.step (.request p)).agenda.ready = c.agenda.ready ++ [.chore (.load p.json)] ∧
      (c.step (.request p)).agenda.requested = c.agenda.requested := by
  have hh := happens h.choring (.request p)
  generalize c.step (.request p) = c' at hh
  cases hh with
  | now hnow =>
    rcases hnow with ⟨data, hs', -⟩ | ⟨-, load, hl', -⟩
    · rw [hs] at hs'; nomatch hs'
    · rw [hl] at hl'; nomatch hl'
  | begins => exact ⟨rfl, rfl⟩
  | joins _ hl' _ => rw [hl] at hl'; nomatch hl'

/-- A chore that runs leaves the others. -/
theorem Sound.run (h : c.Sound) :
    (c.step .run).agenda.ready = c.agenda.ready.tail ∧
      ∃ more, (c.step .run).agenda.requested = c.agenda.requested ++ more := by
  have hh := happens h.choring .run
  generalize c.step .run = c' at hh
  cases hh with
  | idle hr => exact ⟨by rw [hr]; rfl, [], (List.append_nil _).symm⟩
  | fetches hr => exact ⟨by rw [hr]; rfl, _, rfl⟩
  | forgets hr | wakes hr => exact ⟨by rw [hr]; rfl, [], (List.append_nil _).symm⟩

/-- Chores run out. -/
theorem Sound.ready_after_runs (h : c.Sound) : (c.after (List.replicate c.agenda.ready.length .run)).agenda.ready = [] := by
  generalize hl : c.agenda.ready.length = length
  induction length generalizing c with
  | zero => exact List.eq_nil_of_length_eq_zero hl
  | succ length ih =>
    refine ih (h.step .run) ?_
    rw [h.run.1, List.length_tail, hl, Nat.add_sub_cancel]

/-- A fetch that is to be started is started when the chores before it have run. -/
theorem Sound.started (h : c.Sound) {path : Json} {before : List (Job Nat)}
    (hr : c.agenda.ready = before ++ [.chore (.load path)]) :
    ∃ others, (c.after (List.replicate (before.length + 1) .run)).agenda.requested = c.agenda.requested ++ others ++ [path] := by
  induction before generalizing c with
  | nil =>
    have hh := happens h.choring .run
    change ∃ others, (c.step .run).agenda.requested = _
    generalize c.step .run = c' at hh
    cases hh with
    | idle hr' => rw [hr] at hr'; nomatch hr'
    | fetches hr' =>
      rw [hr] at hr'
      cases hr'
      exact ⟨[], by rw [List.append_nil]⟩
    | forgets hr' => rw [hr] at hr'; nomatch hr'
    | wakes hr' => rw [hr] at hr'; nomatch hr'
  | cons job before ih =>
    obtain ⟨hready, more, hreq⟩ := h.run
    rw [hr] at hready
    obtain ⟨others, ho⟩ := ih (h.step .run) hready
    refine ⟨more ++ others, ?_⟩
    change ((c.step .run).after (List.replicate (before.length + 1) .run)).agenda.requested = _
    rw [ho, hreq, List.append_assoc c.agenda.requested more others]

/-! ## When nothing is left to run -/

/-- When no chore is ready, the loads are as many as the fetches that are out. -/
theorem Sound.loads_length (h : c.Sound) (hr : c.agenda.ready = []) : c.cache.loads.length = c.agenda.out.length := by
  have hzero : ∀ θ : Thread, (∀ m, θ ≠ .call m) → (c.agenda.out.map fun path => θ.one (.load path.key)).sum = c.cache.owes θ := by
    intro θ hθ
    have hc := h.carried θ
    have hheld : c.cache.holds (fun m => θ.one (.call m)) = 0 := by
      refine Sum.eq_zero fun l _ => ?_
      rw [Load.holds, Sum.eq_zero fun _ _ => Thread.one_of_ne fun heq => hθ _ heq.symm]
      split <;> rfl
    have hmade : θ.made c.asked.length = 0 := by
      cases θ with
      | call m => exact absurd rfl (hθ m)
      | data | notes | load | forget => rfl
    have hanswered : (c.agenda.state.answered.map fun e => θ.one (.call e.1)).sum = 0 :=
      Sum.eq_zero fun _ _ => Thread.one_of_ne fun heq => hθ _ heq.symm
    rw [of_threads, hr, hanswered] at hc
    simp only [cache] at hheld hmade hc ⊢
    simp only [List.map_nil, List.sum_nil] at hc
    omega
  -- No load has an outcome: none is to be forgotten.
  have hnone : ∀ l ∈ c.cache.loads, l.outcome.isSome = false := by
    intro l hl
    rw [Bool.eq_false_iff]
    intro ho
    have hle := Sum.le_of_mem (Load.owes (.forget l.path.key)) hl
    rw [Load.owes, ho, if_pos rfl, Thread.one_self] at hle
    have hsum := hzero (.forget l.path.key) (by simp)
    rw [Sum.eq_zero fun _ _ => Thread.one_of_ne (by simp)] at hsum
    rw [owes, total] at hsum
    omega
  have hperm : c.cache.keys.Perm (c.agenda.out.map Json.key) := by
    refine List.perm_iff_count.2 fun key => ?_
    have hsum := hzero (.load key) (by simp)
    have howes : c.cache.owes (.load key) = (c.cache.loads.map fun l => (Thread.load key).one (.load l.path.key)).sum := by
      refine congrArg List.sum (List.map_congr_left fun l hl => ?_)
      rw [Load.owes, hnone l hl, if_neg Bool.false_ne_true]
    rw [← Thread.sum_one, ← Thread.sum_one, keys, List.map_map, List.map_map]
    exact (hsum.trans howes).symm
  have hlength := hperm.length_eq
  rwa [keys, List.length_map, List.length_map] at hlength

/-- The paths that are stored, each once. -/
theorem Sound.stored_paths (h : c.Sound) :
    ∃ paths : List ResourcePath, paths.Nodup ∧ c.cache.stored.length = paths.length ∧
      ∀ p : ResourcePath, p ∈ paths ↔ (c.cache.stored? p.json).isSome = true := by
  obtain ⟨paths, hpaths⟩ : ∃ paths : List ResourcePath, c.cache.stored.map (·.1) = paths.map ResourcePath.json := by
    have hstored := h.stored
    generalize c.cache.stored = entries at hstored
    induction entries with
    | nil => exact ⟨[], rfl⟩
    | cons e entries ih =>
      obtain ⟨paths, hp⟩ := ih fun e' he' => hstored e' (List.mem_cons_of_mem _ he')
      obtain ⟨p, hep⟩ := hstored e List.mem_cons_self
      exact ⟨p :: paths, by rw [List.map_cons, List.map_cons, hp, hep]⟩
  have honce := h.once
  rw [hpaths] at honce
  refine ⟨paths, List.Pairwise.of_map ResourcePath.json (fun _ _ hne heq => hne (congrArg _ heq)) honce, ?_, fun p => ?_⟩
  · rw [← List.length_map (f := fun e : Json × Json => e.1), hpaths, List.length_map]
  · have hmem : p.json ∈ c.cache.stored.map (·.1) ↔ p ∈ paths := by
      rw [hpaths, List.mem_map]
      exact ⟨fun ⟨q, hq, heq⟩ => ResourcePath.json_inj heq ▸ hq, fun hp => ⟨p, hp, rfl⟩⟩
    rw [← hmem, List.mem_map, stored?, Option.isSome_map, List.find?_isSome]
    constructor
    · rintro ⟨e, he, heq⟩
      exact ⟨e, he, by rw [heq]; exact Json.sameKey_refl _⟩
    · rintro ⟨e, he, hkey⟩
      exact ⟨e, he, eq_json_of_key (Json.sameKey_iff.1 hkey)⟩

/-! ## Single flight -/

/-- What holds of a cache after a course of events, whatever they are: who asked for what and when, and how the fetches ended. -/
structure SingleFlight (events : List Event) (c : Course) : Prop where
  /-- No two fetches of one path are out. -/
  apart : c.agenda.out.Nodup
  /-- A fetch that is started is that of a path that is neither stored nor out. -/
  starts : ∀ event, (c.step event).agenda.requested = c.agenda.requested ∨
    ∃ p : ResourcePath, (c.step event).agenda.requested = c.agenda.requested ++ [p.json] ∧
      c.cache.stored? p.json = none ∧ p.json ∉ c.agenda.out
  /-- Whoever asks for a path while a fetch of it is outstanding gets what the first fetch of the path that ends comes to. -/
  shared : ∀ p more outcome, (c.step (.request p)).Outstanding p → (c.asked.length, outcome) ∈ ((c.step (.request p)).after more).answered →
    ∃ answer, ((c.step (.request p)).answersTo p more).head? = some answer ∧ outcome = outcomeOf p.json answer
  /-- What is ready runs out. -/
  rests : (c.after (List.replicate c.agenda.ready.length .run)).agenda.ready = []
  /-- Whoever asks has got this when nothing is left to run after the fetch has ended. -/
  ends : ∀ p more answer, (c.step (.request p)).Outstanding p → ((c.step (.request p)).answersTo p more).head? = some answer →
    ((c.step (.request p)).after more).agenda.ready = [] →
      (c.asked.length, outcomeOf p.json answer) ∈ ((c.step (.request p)).after more).answered
  /-- What is stored for a path is what one of its fetches has come to. -/
  stored : ∀ (p : ResourcePath) data, c.cache.stored? p.json = some data ↔
    ∃ answer ∈ fresh.answersTo p events, outcomeOf p.json answer = .ok data
  /-- What is stored stays, no fetch of its path is started again, and whoever asks for it gets it at once. -/
  kept : ∀ (p : ResourcePath) data, c.cache.stored? p.json = some data → ∀ more,
    (c.after more).cache.stored? p.json = some data ∧
      (c.after more).agenda.requested.count p.json = c.agenda.requested.count p.json ∧
      ((c.after more).asked.length, .ok data) ∈ ((c.after more).step (.request p)).answered
  /-- A fetch that fails, or whose text is not JSON, stores nothing and drops nothing. -/
  failed : ∀ p event answer failure, c.answerTo? p event = some answer → outcomeOf p.json answer = .error failure →
    (c.step event).cache.stored = c.cache.stored
  /-- Whoever asks after such a failure has been reported to one who waited for it has a fresh fetch started, unless a fetch of the path
  has been outstanding in the meantime. -/
  again : ∀ n p event answer failure more outcome, c.Waiting n p → c.answerTo? p event = some answer →
    outcomeOf p.json answer = .error failure →
    (∀ before rest, more = before ++ rest → ¬ ((c.step event).after before).Outstanding p) →
    (n, outcome) ∈ ((c.step event).after more).answered →
      let asking := ((c.step event).after more).step (.request p)
      ∃ others, (asking.after (List.replicate asking.agenda.ready.length .run)).agenda.requested =
        ((c.step event).after more).agenda.requested ++ others ++ [p.json]
  /-- When nothing is left to run, the numbers are those of the paths stored, of the fetches so far, and of the fetches that are out. -/
  numbers : c.agenda.ready = [] → ∃ paths : List ResourcePath, paths.Nodup ∧
    (∀ p, p ∈ paths ↔ (c.cache.stored? p.json).isSome = true) ∧
    c.cache.stats = ⟨paths.length, c.agenda.requested.length, c.agenda.out.length⟩

/-- A fetch that is started is that of a path that is neither stored nor out. -/
theorem Sound.starts (h : c.Sound) (event : Event) :
    (c.step event).agenda.requested = c.agenda.requested ∨
      ∃ p : ResourcePath, (c.step event).agenda.requested = c.agenda.requested ++ [p.json] ∧
        c.cache.stored? p.json = none ∧ p.json ∉ c.agenda.out := by
  have hh := happens h.choring event
  generalize c.step event = c' at hh
  cases hh with
  | now | begins | joins | idle | forgets | wakes | nothing | comes => exact Or.inl rfl
  | @fetches path rest hr =>
    have hj : c.agenda.ready[0]? = some (.chore (.load path)) := by rw [hr]; rfl
    obtain ⟨p, load, rfl, -, -, hs⟩ := h.pending (h.owes_of_ready hj fun _ => by simp [thread])
    refine Or.inr ⟨p, rfl, hs, fun hmem => ?_⟩
    have hle := Sum.le_of_mem (fun path : Json => (Thread.load p.json.key).one (.load path.key)) hmem
    have hc := h.carried (.load p.json.key)
    have howes := owes_load_le h.distinct p.json
    rw [of_threads, hr] at hc
    simp only [cache, Thread.made, List.map_cons, List.sum_cons, thread_load, Thread.one_self] at hle hc howes
    omega

/-- A path that is stored is not fetched again. -/
theorem Sound.count_requested (h : c.Sound) {data : Json} (hs : c.cache.stored? p.json = some data) (events : List Event) :
    (c.after events).agenda.requested.count p.json = c.agenda.requested.count p.json := by
  induction events generalizing c with
  | nil => rfl
  | cons event events ih =>
    have hcount : (c.step event).agenda.requested.count p.json = c.agenda.requested.count p.json := by
      rcases h.starts event with hreq | ⟨q, hreq, hnone, -⟩
      · rw [hreq]
      · rw [hreq, List.count_append, List.count_singleton, if_neg, Nat.add_zero]
        rw [beq_iff_eq]
        intro hqp
        rw [hqp, hs] at hnone
        nomatch hnone
    exact (ih (h.step event) (h.stored?_after hs [event]).1).trans hcount

/-- Whoever asks for what is stored gets it at once. -/
theorem Sound.answered_of_stored (h : c.Sound) {data : Json} (hs : c.cache.stored? p.json = some data) :
    (c.asked.length, .ok data) ∈ (c.step (.request p)).answered := by
  have hh := happens h.choring (.request p)
  generalize c.step (.request p) = c' at hh
  cases hh with
  | now hnow =>
    rcases hnow with ⟨data', hs', rfl⟩ | ⟨hs', -⟩
    · rw [hs] at hs'
      obtain rfl := Option.some.inj hs'
      exact List.mem_append_right _ (List.mem_singleton.2 rfl)
    · rw [hs] at hs'; nomatch hs'
  | begins hs' | joins hs' => rw [hs] at hs'; nomatch hs'

/-- An answer that comes to nothing leaves what is stored as it is. -/
theorem Sound.stored_of_failed (h : c.Sound) {event : Event} {answer : Answer} {failure : Failure}
    (ha : c.answerTo? p event = some answer) (ho : outcomeOf p.json answer = .error failure) :
    (c.step event).cache.stored = c.cache.stored := by
  cases event with
  | request | run => cases ha
  | answer i answer' =>
    rw [answerTo?] at ha
    split at ha
    · rename_i hf
      obtain rfl := Option.some.inj ha
      have hh := happens h.choring (.answer i answer')
      generalize c.step (.answer i answer') = c' at hh
      cases hh with
      | nothing hnone => cases hf.symm.trans hnone
      | comes hf' =>
        rw [hf] at hf'
        obtain rfl := Option.some.inj hf'
        change (c.cache.finish p.json answer').1.stored = _
        rw [finish, ho]
        rfl
    · cases ha

/-- At a cache at which paths are asked for at any time, and the fetches end at any time with anything, each path has one fetch at most
at a time, which all who ask for it share, and what it comes to is stored for good if it is a value. -/
theorem single_flight (events : List Event) : SingleFlight events (fresh.after events) := by
  have h : (fresh.after events).Sound := fresh_sound.after events
  generalize hc : fresh.after events = c at h
  constructor
  case apart => exact h.out_nodup
  case starts => exact h.starts
  case shared =>
    intro p more outcome ho ha
    have hs := h.step (.request p)
    have hw := hs.waiting_after (h.request_waiting ho) more
    cases hhead : ((c.step (.request p)).answersTo p more).head? with
    | none =>
      rw [hhead] at hw
      exact absurd ha ((hs.after more).not_answered hw outcome)
    | some answer =>
      rw [hhead] at hw
      exact ⟨answer, rfl, (hs.after more).told_unique hw ha⟩
  case ends =>
    intro p more answer ho hhead hr
    have hw := (h.step (.request p)).waiting_after (h.request_waiting ho) more
    rw [hhead] at hw
    refine hw.resolve_left fun hmem => ?_
    rw [hr] at hmem
    nomatch hmem
  case rests => exact h.ready_after_runs
  case stored =>
    intro p data
    rw [← hc, fresh_sound.stored?_after_iff]
    exact ⟨fun hor => hor.resolve_left nofun, Or.inr⟩
  case kept =>
    intro p data hs more
    have hafter := (h.stored?_after hs more).1
    exact ⟨hafter, h.count_requested hs more, (h.after more).answered_of_stored hafter⟩
  case failed => exact fun p event answer failure => h.stored_of_failed
  case again =>
    intro n p event answer failure more outcome hw ha ho hout htold
    have hs := h.step event
    have hstored : (c.step event).cache.stored? p.json = none := by
      obtain ⟨load, hl, hnone, -⟩ := hw
      rw [h.stored?_step, h.stored?_of_outstanding (h.outstanding_iff.2 ⟨load, hl, hnone⟩), ha, Option.bind_some, ho]
      rfl
    obtain ⟨hforgetting, hstored'⟩ := hs.forgetting_after (h.forgetting_of_waiting hw ha) hstored hout
    have hload : ((c.step event).after more).cache.load? p.json = none := by
      rcases hforgetting with hnone | ⟨before, outcome', after, hr, hwake⟩
      · exact hnone
      · have hmem : .chore (.wake n outcome') ∈ ((c.step event).after more).agenda.ready := by
          rw [hr]
          exact List.mem_append_right _ (List.mem_cons_of_mem _ hwake)
        exact absurd htold ((hs.after more).not_answered_of_wake hmem outcome)
    obtain ⟨hready, hreq⟩ := (hs.after more).step_begins hstored' hload
    obtain ⟨others, hstarted⟩ := ((hs.after more).step (.request p)).started hready
    refine ⟨others, ?_⟩
    rw [← hreq, ← hstarted, hready, List.length_append, List.length_singleton]
  case numbers =>
    intro hr
    obtain ⟨paths, hnodup, hlength, hmem⟩ := h.stored_paths
    refine ⟨paths, hnodup, hmem, ?_⟩
    rw [stats, hlength, h.counted, h.loads_length hr]

end Cache.Course

end Flashcards
