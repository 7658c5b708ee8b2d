import Flashcards.Proofs.Session.Course

/-!
# The newest selection wins

However many calls overlap, and in whatever order their jobs run and their fetches are answered, the page belongs to the selection that
began last. The invariant is `Course.Faithful`: the page has the title of the last selection, and when the call of that selection has
ended with a result, the page shows it, unless the cards have an element of the name of the region for libraries. A step of any other
call happens aside.
-/

namespace Flashcards

open Text Markup Markup.Node

namespace Course

/-- The page has the title of the last selection and shows what it came to, if it has ended and no library went into the cards. -/
structure Faithful (c : Course) : Prop where
  laidOut : ∃ l : Layout, c.session.page.LaidOut l
  titled : ∀ call node, c.started.getLast? = some (call, node) →
    c.session.current = some node ∧ ∃ mode, c.session.Titled (some node.name) mode
  shows : ∀ call node r, c.started.getLast? = some (call, node) → (call, .ok (.shown r)) ∈ c.ended →
    r.deck = node ∧ (carry Page.libraryId c.session.page.cards = true ∨ c.session.Shows r)

variable {c c' : Course}

theorem fresh_faithful (mode : RenderMode) (rootModels : Json) : (fresh mode rootModels).Faithful where
  laidOut := ⟨Layout.initial, Page.blank_laidOut⟩
  titled _ _ h := nomatch h
  shows _ _ _ h := nomatch h

/-- Only the session counts, the selections that have begun, and the calls that have ended. -/
theorem Faithful.of_eq (h : c.Faithful) (hs : c'.session = c.session) (he : c'.ended = c.ended) (hst : c'.started = c.started) :
    c'.Faithful := by
  refine ⟨?_, ?_, ?_⟩
  · rw [hs]; exact h.laidOut
  · rw [hs, hst]; exact h.titled
  · rw [hs, hst, he]; exact h.shows

/-- A step that happens aside leaves the page to the last selection; a call that ends with it is not that of the last selection, or has
no result. -/
theorem Faithful.aside (h : c.Faithful) (ha : c.session.Aside c'.session) (hst : c'.started = c.started)
    (he : ∀ call node r, c.started.getLast? = some (call, node) → (call, .ok (.shown r)) ∈ c'.ended →
      (call, .ok (.shown r)) ∈ c.ended) : c'.Faithful := by
  obtain ⟨l, hl⟩ := h.laidOut
  refine ⟨?_, fun call node hlast => ?_, fun call node r hlast hmem => ?_⟩
  · obtain ⟨l', hl', -⟩ := ha.titled ⟨l, hl, rfl, rfl⟩
    exact ⟨l', hl'⟩
  · rw [hst] at hlast
    obtain ⟨hcur, mode, ht⟩ := h.titled call node hlast
    exact ⟨ha.same.current.trans hcur, mode, ha.titled ht⟩
  · rw [hst] at hlast
    obtain ⟨hd, hs⟩ := h.shows call node r hlast (he call node r hlast hmem)
    refine ⟨hd, ?_⟩
    cases hc : carry Page.libraryId c.session.page.cards with
    | true => exact Or.inl (ha.carry hl hc)
    | false =>
      obtain ⟨hp, hcards⟩ := (ha.undisturbed hl).cards hc
      exact Or.inr ((hs.resolve_left (by rw [hc]; exact Bool.false_ne_true)).congr hp hcards)

/-- The page has a layout with the title of the last selection. -/
theorem Faithful.layout (h : c.Faithful) :
    ∃ l : Layout, c.session.page.LaidOut l ∧ ∀ call node, c.started.getLast? = some (call, node) → l.deck = some node.name := by
  cases hlast : c.started.getLast? with
  | none =>
    obtain ⟨l, hl⟩ := h.laidOut
    exact ⟨l, hl, fun _ _ h => nomatch h⟩
  | some last =>
    obtain ⟨-, -, l, hl, hd, -⟩ := h.titled last.1 last.2 hlast
    refine ⟨l, hl, fun call node h => ?_⟩
    obtain rfl := Option.some.inj h
    exact hd

/-- The end of a call leaves the page to the last selection. -/
theorem Faithful.ends (h : c.Faithful) (ho : c.Orderly) {i : Nat} {job : CallJob} (hj : c.agenda.ready[i]? = some job) {call : Nat}
    {session : Session} {result : Except Failure CallResult} (he : SessionDesk.Ending c.agenda.state job call session result)
    (hs : c'.session = session) (hst : c'.started = c.started) (hend : c'.ended = c.ended ++ [(call, result)]) : c'.Faithful := by
  obtain ⟨l, hl, hdeck⟩ := h.layout
  have hnot := ho.balanced.not_ended hj he.thread
  have hbegun : ∀ selection, job.selection? = some selection → selection.BegunIn c.started := ho.ready job (List.mem_of_getElem? hj)
  rcases he.effect hl with ⟨ha, hover⟩ | ⟨selection, hsel, hcall, hnew, ht, hshow⟩
  · refine h.aside (hs ▸ ha) hst fun call' node r hlast hmem => ?_
    rw [hend] at hmem
    refine (List.mem_append.1 hmem).resolve_right fun heq => ?_
    obtain ⟨rfl, hres⟩ := Prod.mk.inj (List.mem_singleton.1 heq)
    obtain ⟨-, selection, hsel, hcall, hold⟩ := hover r hres.symm
    -- The call of the last selection would be overtaken.
    have hnewest : c.newest? = some selection.call := by rw [newest?, hlast, hcall]; rfl
    exact Bool.false_ne_true (hold.symm.trans ((ho.isNewest_iff (hbegun selection hsel)).2 hnewest))
  · have hnewest := (ho.isNewest_iff (hbegun selection hsel)).1 hnew
    refine ⟨?_, fun call' node hlast => ?_, fun call' node r hlast hmem => ?_⟩
    · obtain ⟨l', hl', -⟩ := ht
      exact ⟨l', hs ▸ hl'⟩
    · rw [hst] at hlast
      rw [hs, ← hdeck call' node hlast]
      exact ⟨he.sameDeck.current.trans (h.titled call' node hlast).1, l.mode, ht⟩
    · rw [hst] at hlast
      rw [newest?, hlast, Option.map_some, Option.some.injEq] at hnewest
      have hcall' : call' = call := hnewest.trans hcall
      rw [hend] at hmem
      rcases List.mem_append.1 hmem with hmem | hmem
      · exact absurd hcall' (hnot _ hmem)
      · obtain ⟨-, hres⟩ := Prod.mk.inj (List.mem_singleton.1 hmem)
        obtain ⟨hd, hshows⟩ := hshow r hres.symm
        obtain ⟨n, hn, hget⟩ := hbegun selection hsel
        have htok : selection.token = c.session.token := beq_iff_eq.1 hnew
        rw [List.getLast?_eq_getElem?, ← ho.token, ← htok, hn, Nat.add_sub_cancel, hget] at hlast
        obtain ⟨-, hnode⟩ := Prod.mk.inj (Option.some.inj hlast)
        exact ⟨hd.trans hnode, Or.inr (hs ▸ hshows)⟩

/-- A selection that begins has the page. -/
theorem Faithful.opens (h : c.Faithful) (ho : c.Orderly) {i : Nat} {job : CallJob} (hj : c.agenda.ready[i]? = some job) {call : Nat}
    {node : DeckNode} {mode : RenderMode} (hop : SessionDesk.Opening c.agenda.state job call node mode)
    (hs : c'.session = ({ c.session with mode := mode } : Session).select node) (hst : c'.started = c.started ++ [(call, node)])
    (hend : c'.ended = c.ended) : c'.Faithful := by
  obtain ⟨l, hl⟩ := h.laidOut
  have hl' := Session.select_laidOut (s := { c.session with mode := mode }) hl node
  rw [← hs] at hl'
  have hlast : ∀ call' node', c'.started.getLast? = some (call', node') → call = call' ∧ node = node' := by
    intro call' node' h
    rw [hst, List.getLast?_append, List.getLast?_singleton, Option.some_or, Option.some.injEq, Prod.mk.injEq] at h
    exact h
  refine ⟨⟨_, hl'⟩, fun call' node' h' => ?_, fun call' node' r h' hmem => ?_⟩
  · obtain ⟨-, rfl⟩ := hlast call' node' h'
    exact ⟨by rw [hs]; rfl, _, _, hl', rfl, rfl⟩
  · obtain ⟨rfl, -⟩ := hlast call' node' h'
    rw [hend] at hmem
    exact absurd rfl (ho.balanced.not_ended hj hop.thread _ hmem)

theorem Faithful.step (h : c.Faithful) (ho : c.Orderly) (event : CallEvent) : (c.step event).Faithful := by
  cases event with
  | call request => exact h.of_eq rfl rfl (List.append_nil _)
  | answer i answer =>
    obtain ⟨hs, hst, he⟩ := step_answer_same i answer
    exact h.of_eq hs he hst
  | run i =>
    cases hj : c.agenda.ready[i]? with
    | none => rw [step_run_of_none hj]; exact h
    | some job =>
      rcases step_run_cases hj with ⟨_, _, _, hend, hs, hst, he⟩ | ⟨_, _, _, hop, hs, hst, he⟩ | ⟨hs, hst, he⟩
      · exact h.ends ho hj hend hs hst he
      · exact h.opens ho hj hop hs hst he
      · exact h.of_eq hs he hst

/-- Whatever happens, the page belongs to the last selection. -/
theorem Faithful.after (h : c.Faithful) (ho : c.Orderly) (events : List CallEvent) : (c.after events).Faithful := by
  induction events generalizing c with
  | nil => exact h
  | cons event events ih => exact ih (h.step ho event) (ho.step event)

/-! ## Selections that have been overtaken -/

/-- A step of a call that has been overtaken does not disturb what is shown. -/
theorem undisturbed_of_overtaken (h : c.Faithful) (ho : c.Orderly) {event : CallEvent} {call : Nat} (hc : c.caller? event = some call)
    (hov : c.Overtaken call) : c.session.Undisturbed (c.step event).session := by
  obtain ⟨l, hl⟩ := h.laidOut
  have hrefl : c.session.Undisturbed c.session := (Session.Aside.refl _).undisturbed hl
  cases event with
  | call request => exact hrefl
  | answer i answer => rw [(step_answer_same i answer).1]; exact hrefl
  | run i =>
    cases hj : c.agenda.ready[i]? with
    | none => rw [step_run_of_none hj]; exact hrefl
    | some job =>
      have hthread : ∀ k, job.thread = .call k → k = call := by
        intro k hk
        rw [caller?, hj, Option.bind_some, hk] at hc
        exact Option.some.inj hc
      have hbegun := ho.ready job (List.mem_of_getElem? hj)
      rcases step_run_cases hj with ⟨_, _, _, he, hs, -, -⟩ | ⟨_, _, _, hop, -, -, -⟩ | ⟨hs, -, -⟩
      · rw [hs]
        rcases he.effect hl with ⟨ha, -⟩ | ⟨selection, hsel, hcall, hnew, -⟩
        · exact ha.undisturbed hl
        · have hnewest := (ho.isNewest_iff (hbegun selection hsel)).1 hnew
          rw [hcall, hthread _ he.thread] at hnewest
          exact absurd hnewest hov.2
      · have hnone := ho.begins?_eq_none hj hop.thread (hthread _ hop.thread ▸ hov.1)
        rw [show c.session = c.agenda.state.session from rfl, hop.begins] at hnone
        nomatch hnone
      · rw [hs]
        exact hrefl

/-- A call that ends with the result of a selection says that it has been overtaken exactly if it is not the last that has begun one. -/
theorem superseded_iff (h : c.Faithful) (ho : c.Orderly) {event : CallEvent} {call : Nat} {r : DeckResult}
    (he : (c.step event).ended = c.ended ++ [(call, .ok (.shown r))]) : r.status = .superseded ↔ c.newest? ≠ some call := by
  obtain ⟨l, hl⟩ := h.laidOut
  obtain ⟨i, job, rfl, hj⟩ := run_of_ended he
  have hbegun := ho.ready job (List.mem_of_getElem? hj)
  rcases step_run_cases hj with ⟨_, _, _, hend, -, -, heq⟩ | ⟨_, _, _, -, -, -, heq⟩ | ⟨-, -, heq⟩
  · obtain ⟨rfl, rfl⟩ := Prod.mk.inj (List.singleton_inj.1 (List.append_cancel_left (he.symm.trans heq)))
    rcases hend.effect hl with ⟨-, hover⟩ | ⟨selection, hsel, hcall, hnew, -, hshow⟩
    · obtain ⟨hstatus, selection, hsel, hcall, hold⟩ := hover r rfl
      refine ⟨fun _ hnewest => ?_, fun _ => hstatus⟩
      rw [← hcall] at hnewest
      exact Bool.false_ne_true (hold.symm.trans ((ho.isNewest_iff (hbegun selection hsel)).2 hnewest))
    · have hnewest := (ho.isNewest_iff (hbegun selection hsel)).1 hnew
      rw [hcall] at hnewest
      exact ⟨fun hstatus => absurd hstatus (hshow r rfl).2.status_ne, fun hne => absurd hnewest hne⟩
  · simpa using congrArg List.length (he.symm.trans heq)
  · simpa using congrArg List.length (he.symm.trans heq)

/-! ## The newest selection -/

/-- The page belongs to the selection that began last. -/
structure NewestWins (c : Course) : Prop where
  /-- A step of a call whose selection has been overtaken does not disturb what is shown. -/
  overtaken : ∀ event call, c.caller? event = some call → c.Overtaken call → c.session.Undisturbed (c.step event).session
  /-- A call that ends with the result of a selection has been overtaken, by its status, exactly if another selection began after it. -/
  superseded : ∀ event call r, (c.step event).ended = c.ended ++ [(call, .ok (.shown r))] →
    (r.status = .superseded ↔ c.newest? ≠ some call)
  /-- When the last selection has ended with a result, the page has its title in both places. -/
  titled : ∀ call node r, c.started.getLast? = some (call, node) → (call, .ok (.shown r)) ∈ c.ended →
    r.deck = node ∧ c.session.current = some node ∧
      c.session.page.byId? Page.titleId = some (Page.element "h1" [("id", Page.titleId)] [Page.plain node.name]) ∧
      c.session.page.find? (isNamed "title") = some (Page.element "title" [] [Page.plain node.name])
  /-- And it shows the cards of the selection, that it has none, or why it failed, unless the cards have an element of the name of the
  region for libraries. -/
  shown : ∀ call node r, c.started.getLast? = some (call, node) → (call, .ok (.shown r)) ∈ c.ended →
    carry Page.libraryId c.session.page.cards = false → c.session.Shows r

/-- The newest selection wins, however calls overlap. -/
theorem newest_selection_wins (mode : RenderMode) (rootModels : Json) (events : List CallEvent) :
    ((fresh mode rootModels).after events).NewestWins := by
  have ho := (fresh_orderly mode rootModels).after events
  have h := (fresh_faithful mode rootModels).after (fresh_orderly mode rootModels) events
  refine ⟨fun _ _ => undisturbed_of_overtaken h ho, fun _ _ _ => superseded_iff h ho, fun call node r hlast hmem => ?_,
    fun call node r hlast hmem hc => ?_⟩
  · obtain ⟨hcur, -, l, hl, hd, -⟩ := h.titled call node hlast
    refine ⟨(h.shows call node r hlast hmem).1, hcur, ?_, ?_⟩
    · rw [Page.byId?_title hl, Layout.regions, hd]
      rfl
    · rw [Page.find?_pageTitle hl, Layout.regions, hd]
      rfl
  · exact (h.shows call node r hlast hmem).2.resolve_left (by rw [hc]; exact Bool.false_ne_true)

/-- A deck whose resources stand in a directory of its name. -/
def deckNamed (name : Text) : DeckNode := ⟨name, name ++ "/deck.json", name ++ "/notes.html", .null, .null, name, []⟩

/-- Two decks are selected one after the other, and the resources of the first are missing; this is found out when the second has been
selected. -/
def overlap : List CallEvent :=
  let missing (path : Text) : Answer := .error (Failure.ofPath path (some 404) [])
  [.call (.select (deckNamed "a")), .call (.select (deckNamed "b"))] ++ List.replicate 8 (.run 0) ++
    [.answer 0 (missing "a/notes.html"), .run 0, .answer 1 (missing "a/deck.json"), .run 0, .run 0, .run 0]

/-- The first of two selections that overlap ends as overtaken and leaves the page to the second. -/
theorem newest_selection_wins_overlap :
    ((fresh .raw .null).after overlap).session.Undisturbed (((fresh .raw .null).after overlap).step (.run 0)).session ∧
      ∃ r, (((fresh .raw .null).after overlap).step (.run 0)).ended =
          ((fresh .raw .null).after overlap).ended ++ [(0, .ok (.shown r))] ∧ r.status = .superseded := by
  have h := newest_selection_wins .raw .null overlap
  have hcaller : ((fresh .raw .null).after overlap).caller? (.run 0) = some 0 := rfl
  have hover : ((fresh .raw .null).after overlap).Overtaken 0 := ⟨by decide +kernel, by decide +kernel⟩
  have hend : (((fresh .raw .null).after overlap).step (.run 0)).ended =
      ((fresh .raw .null).after overlap).ended ++
        [(0, .ok (.shown (Session.superseded ⟨0, deckNamed "a", 1⟩ (some (Failure.ofPath "a/deck.json" (some 404) [])))))] := rfl
  exact ⟨h.overtaken _ _ hcaller hover, _, hend, (h.superseded _ _ _ hend).2 hover.2⟩

end Course

end Flashcards
