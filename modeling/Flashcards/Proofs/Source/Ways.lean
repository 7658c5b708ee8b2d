import Mathlib.Logic.Relation
import Flashcards.Proofs.Text.Pieces
import Flashcards.Source.Address
import Flashcards.Source.Directory

/-!
# Ways

A way is a list of names that are followed one after the other. A point is no step, and two points take the step before them back, or
are no step at the top. So a way can be shortened at such names until only steps are left (`Shortens`), and these are the place to which it
leads (`LeadsTo`). It does not matter where a way is shortened first: there is one place to which it leads, and both followers of this library
come to it (`leadsTo_iff`, `Place.follow_eq`), the one of addresses and the one of directories, which passes over empty names.
-/

namespace Flashcards

open Text Relation

/-- A name that leads on: neither a point nor two. -/
def IsStep (name : Text) : Prop := name ≠ "." ∧ name ≠ ".."

/-- A way shortened at one place: by a point, by a step and the two points that take it back, or by two points at the top. -/
inductive Shortens : List Text → List Text → Prop where
  | point (before after : List Text) : Shortens (before ++ ("." : Text) :: after) (before ++ after)
  | back {name : Text} (h : IsStep name) (before after : List Text) : Shortens (before ++ name :: (".." : Text) :: after) (before ++ after)
  | top (way : List Text) : Shortens ((".." : Text) :: way) way

/-- A way leads to a place: shortened again and again, it comes to these steps. -/
def LeadsTo (way place : List Text) : Prop := ReflTransGen Shortens way place ∧ ∀ name ∈ place, IsStep name

namespace Address

variable {done place way way' : List Text}

theorem follow_append (done way more : List Text) : follow done (way ++ more) = follow (follow done way) more := by
  induction way generalizing done with
  | nil => rfl
  | cons name way ih =>
    simp only [List.cons_append, follow]
    split
    · exact ih done.dropLast
    · split
      · exact ih done
      · exact ih (done ++ [name])

theorem follow_step {name : Text} (h : IsStep name) (done way : List Text) : follow done (name :: way) = follow (done ++ [name]) way := by
  rw [follow, if_neg h.2, if_neg h.1]

/-- Steps are followed as they are. -/
theorem follow_steps (h : ∀ name ∈ way, IsStep name) (done : List Text) : follow done way = done ++ way := by
  induction way generalizing done with
  | nil => exact (List.append_nil done).symm
  | cons name way ih =>
    rw [List.forall_mem_cons] at h
    rw [follow_step h.1, ih h.2, List.append_assoc, List.singleton_append]

/-- Only steps are put down. -/
theorem isStep_of_mem_follow (hdone : ∀ name ∈ done, IsStep name) (way : List Text) : ∀ name ∈ follow done way, IsStep name := by
  induction way generalizing done with
  | nil => exact hdone
  | cons name way ih =>
    unfold follow
    split
    · exact ih fun n hn => hdone n (List.dropLast_subset done hn)
    · rename_i hback
      split
      · exact ih hdone
      · rename_i hpoint
        refine ih fun n hn => ?_
        rcases List.mem_append.1 hn with hn | hn
        · exact hdone n hn
        · rw [List.mem_singleton.1 hn]
          exact ⟨hpoint, hback⟩

/-- Where a way is shortened, it leads to the same place. -/
theorem follow_of_shortens (h : Shortens way way') : follow [] way = follow [] way' := by
  cases h with
  | point before after =>
    rw [follow_append, follow_append, follow, if_neg (by decide), if_pos rfl]
  | back hname before after =>
    rw [follow_append, follow_append, follow_step hname, follow, if_pos rfl, List.dropLast_concat]
  | top => rfl

/-- To follow a way is to shorten it. -/
theorem shortens_follow (hdone : ∀ name ∈ done, IsStep name) (way : List Text) :
    ReflTransGen Shortens (done ++ way) (follow done way) := by
  induction way generalizing done with
  | nil => rw [List.append_nil]; exact .refl
  | cons name way ih =>
    unfold follow
    split
    · rename_i hback
      subst hback
      rcases List.eq_nil_or_concat done with rfl | ⟨before, last, rfl⟩
      · exact .head (.top way) (ih hdone)
      · rw [List.concat_eq_append] at hdone ⊢
        rw [List.dropLast_concat, List.append_assoc, List.singleton_append]
        have hlast := hdone last (List.mem_append_right _ List.mem_cons_self)
        exact .head (.back hlast before way) (ih fun n hn => hdone n (List.mem_append_left _ hn))
    · rename_i hback
      split
      · rename_i hpoint
        subst hpoint
        exact .head (.point done way) (ih hdone)
      · rename_i hpoint
        have hmore : ∀ n ∈ done ++ [name], IsStep n := by
          intro n hn
          rcases List.mem_append.1 hn with hn | hn
          · exact hdone n hn
          · rw [List.mem_singleton.1 hn]
            exact ⟨hpoint, hback⟩
        have h := ih hmore
        rwa [List.append_assoc, List.singleton_append] at h

end Address

/-- A way leads to the place at which one arrives who follows it from the top, and to no other. -/
theorem leadsTo_iff {way place : List Text} : LeadsTo way place ↔ Address.follow [] way = place := by
  constructor
  · rintro ⟨hshortens, hsteps⟩
    have hsame : ∀ {place}, ReflTransGen Shortens way place → Address.follow [] way = Address.follow [] place := by
      intro place h
      induction h with
      | refl => rfl
      | tail _ hstep ih => exact ih.trans (Address.follow_of_shortens hstep)
    rw [hsame hshortens, Address.follow_steps hsteps, List.nil_append]
  · rintro rfl
    exact ⟨Address.shortens_follow (List.forall_mem_nil _) way, Address.isStep_of_mem_follow (List.forall_mem_nil _) way⟩

/-! ## Ways that are written -/

/-- The names in a path, in order; empty ones do not count. -/
def namesIn (path : Text) : List Text := (splitOn '/' path).filter nonEmpty

/-- The names in two paths that are put together. -/
theorem namesIn_append_cons (path more : Text) : namesIn (path ++ '/' :: more) = namesIn path ++ namesIn more := by
  rw [namesIn, splitOn_append_cons, List.filter_append]
  rfl

/-- Without zeros in the names of a path, it is followed on a disk as a way is. -/
theorem Place.follow_eq {names : List Text} (h : ∀ name ∈ names, '\x00' ∉ name) (here : Place) :
    here.follow names = .ok (Address.follow here (names.filter nonEmpty)) := by
  induction names generalizing here with
  | nil => rfl
  | cons name names ih =>
    rw [List.forall_mem_cons] at h
    have hzero : name.contains '\x00' = false := by simpa using h.1
    have hback : Address.follow here ((".." : Text) :: names.filter nonEmpty) = Address.follow here.dropLast (names.filter nonEmpty) := rfl
    have hpoint : Address.follow here (("." : Text) :: names.filter nonEmpty) = Address.follow here (names.filter nonEmpty) := rfl
    cases name with
    | nil => exact ih h.2 here
    | cons c name =>
      rw [List.filter_cons_of_pos rfl]
      have hempty : (c :: name).isEmpty = false := rfl
      unfold follow
      rw [hempty, Bool.false_or]
      by_cases hp : c :: name = ("." : Text)
      · rw [if_pos (decide_eq_true hp), hp, hpoint, ih h.2]
      · rw [if_neg (by rwa [decide_eq_true_iff])]
        by_cases hb : c :: name = (".." : Text)
        · rw [if_pos hb, hb, hback, ih h.2]
        · rw [if_neg hb, hzero, if_neg Bool.false_ne_true, ih h.2, Address.follow_step ⟨hp, hb⟩]

/-- So it is from the top. -/
theorem Place.follow_splitOn {path : Text} (h : '\x00' ∉ path) (here : Place) :
    here.follow (splitOn '/' path) = .ok (Address.follow here (namesIn path)) :=
  follow_eq (fun _ hname hzero => h (mem_of_mem_splitOn hname _ hzero)) here

end Flashcards
