import Mathlib.Algebra.GroupWithZero.Nat
import Flashcards.Agenda

/-!
# Weighing what is under way

A `Measure` gives a weight to each job, to each fetch and to the state. What one step of an agenda does to the whole weight is what the
job or the fetch does to its own: it is taken away, and the turn it leaves is put in its place (`Measure.of_runAt`, `Measure.of_answerAt`).
So a law about everything that is under way, a sum that is kept or one that becomes less, is a law about single jobs.
-/

namespace Flashcards

namespace Sum

/-! ## Sums over lists -/

variable {α : Type} {p : α → Bool} {f : α → α} {g : α → Nat} {x : α}

/-- The sum over a list without one of its items is less by that item. -/
theorem map_eraseIdx (g : α → Nat) {xs : List α} {i : Nat} (h : xs[i]? = some x) :
    ((xs.eraseIdx i).map g).sum + g x = (xs.map g).sum := by
  induction xs generalizing i with
  | nil => nomatch h
  | cons y ys ih =>
    cases i with
    | zero =>
      obtain rfl : y = x := by simpa using h
      simp only [List.eraseIdx_cons_zero, List.map_cons, List.sum_cons]
      omega
    | succ i =>
      have hi := ih (by simpa using h)
      simp only [List.eraseIdx_cons_succ, List.map_cons, List.sum_cons]
      omega

/-- An item is one of the summands. -/
theorem le_of_mem (g : α → Nat) {xs : List α} (h : x ∈ xs) : g x ≤ (xs.map g).sum := by
  obtain ⟨i, hi⟩ := List.getElem?_of_mem h
  have hs := map_eraseIdx g hi
  omega

/-- Two different items are two of the summands. -/
theorem add_le_of_mem (g : α → Nat) {xs : List α} {y : α} (hx : x ∈ xs) (hy : y ∈ xs) (hne : y ≠ x) : g x + g y ≤ (xs.map g).sum := by
  obtain ⟨i, hi⟩ := List.getElem?_of_mem hx
  obtain ⟨j, hj⟩ := List.getElem?_of_mem hy
  have hji : j ≠ i := by
    rintro rfl
    exact hne (Option.some.inj (hj.symm.trans hi))
  have hrest := le_of_mem g (List.mem_eraseIdx_iff_getElem?.2 ⟨j, hji, hj⟩)
  have hs := map_eraseIdx g hi
  omega

/-- A sum of zeros is zero. -/
theorem eq_zero {xs : List α} (h : ∀ y ∈ xs, g y = 0) : (xs.map g).sum = 0 := by
  induction xs with
  | nil => rfl
  | cons y ys ih =>
    rw [List.map_cons, List.sum_cons, h y List.mem_cons_self, ih fun z hz => h z (List.mem_cons_of_mem y hz)]

/-- A sum that is not zero has a summand that is not. -/
theorem exists_of_pos {xs : List α} (h : 0 < (xs.map g).sum) : ∃ y ∈ xs, 0 < g y := by
  induction xs with
  | nil => nomatch h
  | cons y ys ih =>
    rw [List.map_cons, List.sum_cons] at h
    rcases Nat.eq_zero_or_pos (g y) with hy | hy
    · obtain ⟨z, hz, hpos⟩ := ih (by omega)
      exact ⟨z, List.mem_cons_of_mem y hz, hpos⟩
    · exact ⟨y, List.mem_cons_self, hy⟩

/-- An item for which a condition holds, where it holds for one at most, is the first for which it holds. -/
theorem find?_of_mem {xs : List α} (hc : xs.countP p ≤ 1) (hx : x ∈ xs) (hp : p x = true) : xs.find? p = some x := by
  induction xs with
  | nil => nomatch hx
  | cons y ys ih =>
    rw [List.find?_cons]
    rw [List.countP_cons] at hc
    rcases List.mem_cons.1 hx with rfl | hmem
    · rw [hp]
    · have hpos := List.countP_pos_iff.2 ⟨x, hmem, hp⟩
      cases hy : p y with
      | true => rw [hy, if_pos rfl] at hc; omega
      | false => exact ih (by omega) hmem

/-- Where a condition holds for one item at most, a change of those for which it holds is a change of the first. -/
theorem map_update {xs : List α} (hc : xs.countP p ≤ 1) (hx : xs.find? p = some x) :
    ((xs.map fun y => if p y then f y else y).map g).sum + g x = (xs.map g).sum + g (f x) := by
  induction xs with
  | nil => nomatch hx
  | cons y ys ih =>
    rw [List.countP_cons] at hc
    rw [List.find?_cons] at hx
    cases hy : p y with
    | true =>
      rw [hy] at hx hc
      obtain rfl := Option.some.inj hx
      -- The condition holds for no other item.
      have hrest : (ys.map fun z => if p z then f z else z) = ys := by
        rw [if_pos rfl] at hc
        have hzero : ys.countP p = 0 := by omega
        rw [List.countP_eq_zero] at hzero
        exact (List.map_congr_left fun z hz => if_neg (hzero z hz)).trans (List.map_id' ys)
      simp only [List.map_cons, hy, if_true, hrest, List.sum_cons]
      omega
    | false =>
      rw [hy] at hx
      have hi := ih (by omega) hx
      simp only [List.map_cons, hy, Bool.false_eq_true, if_false, List.sum_cons]
      omega

/-- Where a condition holds for one item at most, the items for which it does not are all but the first for which it does. -/
theorem filter_not {xs : List α} (hc : xs.countP p ≤ 1) (hx : xs.find? p = some x) :
    ((xs.filter fun y => !p y).map g).sum + g x = (xs.map g).sum := by
  induction xs with
  | nil => nomatch hx
  | cons y ys ih =>
    rw [List.countP_cons] at hc
    rw [List.find?_cons] at hx
    cases hy : p y with
    | true =>
      rw [hy] at hx hc
      obtain rfl := Option.some.inj hx
      have hrest : (ys.filter fun z => !p z) = ys := by
        rw [if_pos rfl] at hc
        have hzero : ys.countP p = 0 := by omega
        rw [List.countP_eq_zero] at hzero
        exact List.filter_eq_self.2 fun z hz => by simpa using hzero z hz
      simp only [List.filter_cons, hy, Bool.not_true, Bool.false_eq_true, if_false, hrest, List.map_cons, List.sum_cons]
      omega
    | false =>
      rw [hy] at hx
      have hi := ih (by omega) hx
      simp only [List.filter_cons, hy, Bool.not_false, if_true, List.map_cons, List.sum_cons]
      omega

end Sum

variable {State Job Fetch : Type}

/-- Weights for a state, for jobs and for fetches. -/
structure Measure (State Job Fetch : Type) where
  state : State → Nat
  job : Job → Nat
  fetch : Fetch → Nat

namespace Measure

/-- The weight of all that is under way. -/
def of (m : Measure State Job Fetch) (a : Agenda State Job Fetch) : Nat :=
  m.state a.state + (a.ready.map m.job).sum + (a.out.map m.fetch).sum

/-- The weight of what a job leaves. -/
def turn (m : Measure State Job Fetch) (t : Turn State Job Fetch) : Nat :=
  m.state t.state + (t.jobs.map m.job).sum + (t.fetches.map m.fetch).sum

/-- What is left of a turn joins what was there, apart from the state that it replaces. -/
theorem of_take (m : Measure State Job Fetch) (p : Program State Job Fetch) (t : Turn State Job Fetch) (a : Agenda State Job Fetch) :
    m.of (a.take p t) + m.state a.state = m.of a + m.turn t := by
  simp only [of, turn, Agenda.take, List.map_append, List.sum_append]
  omega

/-- A job that is run gives its weight and that of the state for that of its turn. -/
theorem of_runAt (m : Measure State Job Fetch) (p : Program State Job Fetch) {a : Agenda State Job Fetch} {i : Nat} {job : Job}
    (h : a.ready[i]? = some job) :
    m.of (a.runAt p i) + (m.job job + m.state a.state) = m.of a + m.turn (p.perform job a.state) := by
  have hs := Sum.map_eraseIdx m.job h
  have ht := m.of_take p (p.perform job a.state) { a with ready := a.ready.eraseIdx i }
  simp only [Agenda.runAt, h]
  simp only [of] at ht ⊢
  omega

/-- A fetch that is answered gives its weight and that of the state for that of its turn. -/
theorem of_answerAt (m : Measure State Job Fetch) (p : Program State Job Fetch) {a : Agenda State Job Fetch} {i : Nat}
    {fetch : Fetch} (answer : Answer) (h : a.out[i]? = some fetch) :
    m.of (a.answerAt p i answer) + (m.fetch fetch + m.state a.state) = m.of a + m.turn (p.receive fetch answer a.state) := by
  have hs := Sum.map_eraseIdx m.fetch h
  have ht := m.of_take p (p.receive fetch answer a.state) { a with out := a.out.eraseIdx i }
  simp only [Agenda.answerAt, h]
  simp only [of] at ht ⊢
  omega

/-- A job that is added brings its weight. -/
theorem of_add (m : Measure State Job Fetch) (job : Job) (a : Agenda State Job Fetch) :
    m.of (a.add job) = m.of a + m.job job := by
  simp only [of, Agenda.add, List.map_append, List.sum_append, List.map_cons, List.map_nil, List.sum_cons, List.sum_nil]
  omega

/-- A job that is ready weighs no more than all that is under way. -/
theorem job_le_of (m : Measure State Job Fetch) {a : Agenda State Job Fetch} {i : Nat} {job : Job} (h : a.ready[i]? = some job) :
    m.state a.state + m.job job ≤ m.of a := by
  have hs := Sum.map_eraseIdx m.job h
  simp only [of]
  omega

/-- A fetch that is out weighs no more than all that is under way. -/
theorem fetch_le_of (m : Measure State Job Fetch) {a : Agenda State Job Fetch} {i : Nat} {fetch : Fetch}
    (h : a.out[i]? = some fetch) : m.state a.state + m.fetch fetch ≤ m.of a := by
  have hs := Sum.map_eraseIdx m.fetch h
  simp only [of]
  omega

end Measure

/-! ## Steps -/

namespace Agenda

variable {p : Program State Job Fetch} {a : Agenda State Job Fetch}

/-- A job at a position that has none leaves everything as it is. -/
theorem runAt_of_none (p : Program State Job Fetch) {i : Nat} (h : a.ready[i]? = none) : a.runAt p i = a := by
  simp only [runAt, h]

/-- An answer at a position that has no fetch leaves everything as it is. -/
theorem answerAt_of_none (p : Program State Job Fetch) {i : Nat} {answer : Answer} (h : a.out[i]? = none) :
    a.answerAt p i answer = a := by
  simp only [answerAt, h]

theorem runAt_of_some (p : Program State Job Fetch) {i : Nat} {job : Job} (h : a.ready[i]? = some job) :
    a.runAt p i = take p (p.perform job a.state) { a with ready := a.ready.eraseIdx i } := by
  simp only [runAt, h]

theorem answerAt_of_some (p : Program State Job Fetch) {i : Nat} {answer : Answer} {fetch : Fetch} (h : a.out[i]? = some fetch) :
    a.answerAt p i answer = take p (p.receive fetch answer a.state) { a with out := a.out.eraseIdx i } := by
  simp only [answerAt, h]

/-- What holds of all items but the one that is taken away, and of all that are put at the end, holds of all items then. -/
theorem forall_mem_eraseIdx_append {α : Type} {P : α → Prop} {xs ys : List α} (hx : ∀ x ∈ xs, P x) (hy : ∀ y ∈ ys, P y) (i : Nat) :
    ∀ x ∈ xs.eraseIdx i ++ ys, P x :=
  List.forall_mem_append.2 ⟨fun x h => hx x (List.mem_of_mem_eraseIdx h), hy⟩

end Agenda

end Flashcards
