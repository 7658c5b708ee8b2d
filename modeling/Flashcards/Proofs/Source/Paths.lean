import Mathlib.Data.List.Basic
import Flashcards.Proofs.Source.Ways

/-!
# Paths from a base

A reference with a path is resolved by its path. Its parts, after those of the base unless it starts at the top, are a way, and the last part is no
step of the way unless it leads up. So the path that comes out is told by the place to which the other parts lead (`Address.splitOn_pathFrom`).
The top has an empty name, and a way that leads up past the top loses it; an address with a host gets it back when it is written (`Address.rooted`).
-/

namespace Flashcards.Address

open Text

/-- The parts that are steps of a way: all but the last, which is one only if it leads up. -/
def directoriesOf (parts : List Text) : List Text := if parts.getLast? = some (".." : Text) then parts else parts.dropLast

/-- The directories through which a path leads. -/
def directories (path : Text) : List Text := directoriesOf (splitOn '/' path)

/-- A place with the top, whose name is empty. -/
def rooted (place : List Text) : List Text := if place.head? = some [] then place else [] :: place

/-- The directories through which a path leads from a base. A path without a slash at its start goes on from the directory of the base, and then
empty names do not count. -/
def wayFrom (base path : Text) : List Text :=
  if path.head? = some '/' then directories path else [] :: (namesIn base ++ (directories path).filter nonEmpty)

/-- A path after a host: it has a slash at its start, or is empty. -/
def slashed (path : Text) : Text := if path.isEmpty || path.head? = some '/' then path else '/' :: path

theorem slashed_cons (c : Char) (path : Text) : slashed (c :: path) = if c = '/' then c :: path else '/' :: c :: path := by
  simp [slashed]

theorem slashed_append {path : Text} (h : path ≠ []) (t : Text) : slashed (path ++ t) = slashed path ++ t := by
  obtain ⟨c, path, rfl⟩ := List.exists_cons_of_ne_nil h
  rw [List.cons_append, slashed_cons, slashed_cons]
  split <;> rfl

/-! ## The parts of the path -/

variable {base path : Text}

theorem splitOn_of_head? (h : path.head? = some '/') : ∃ parts, splitOn '/' path = [] :: parts ∧ parts ≠ [] := by
  obtain ⟨path, rfl⟩ := List.head?_eq_some_iff.1 h
  exact ⟨_, splitOn_append_cons '/' [] path, splitOn_ne_nil '/' path⟩

theorem getLast?_splitOn (h : path.getLast? = some '/') : (splitOn '/' path).getLast? = some [] := by
  obtain ⟨path, rfl⟩ := List.getLast?_eq_some_iff.1 h
  rw [splitOn_append_cons]
  exact List.getLast?_concat

/-- The parts of a path, and before them those of its base unless the path starts at the top. -/
def partsFrom (base path : Text) : List Text :=
  if path.head? = some '/' then splitOn '/' path
  else [] :: (namesIn base ++ (splitOn '/' path).dropLast.filter nonEmpty ++ (splitOn '/' path).getLast?.toList)

theorem partsFrom_eq (hhead : base.head? = some '/') :
    partsFrom base path = if path.head? = some '/' then splitOn '/' path else dropEmptyInside (splitOn '/' base ++ splitOn '/' path) := by
  obtain ⟨parts, hbase, -⟩ := splitOn_of_head? hhead
  rw [partsFrom, namesIn, hbase, List.cons_append, dropEmptyInside, List.dropLast_append_of_ne_nil (splitOn_ne_nil '/' path),
    List.filter_append, List.getLast?_append_of_ne_nil parts (splitOn_ne_nil '/' path)]
  rfl

theorem directoriesOf_concat (before : List Text) (last : Text) :
    directoriesOf (before ++ [last]) = if last = ".." then before ++ [last] else before := by
  simp [directoriesOf]

/-- A way is followed to its end: a last part that is no step leaves an empty name. -/
theorem exists_follow_eq {parts : List Text} (hne : parts ≠ []) :
    ∃ last, (last = [] ∨ last ∈ parts) ∧
      follow [] parts ++ (if parts.getLast? = some ("." : Text) ∨ parts.getLast? = some (".." : Text) then [[]] else []) =
        follow [] (directoriesOf parts) ++ [last] := by
  obtain ⟨before, last, rfl⟩ := (List.eq_nil_or_concat parts).resolve_left hne
  rw [List.concat_eq_append, directoriesOf_concat, List.getLast?_concat]
  by_cases hup : last = ".."
  · exact ⟨[], .inl rfl, by rw [if_pos (.inr (congrArg some hup)), if_pos hup]⟩
  · by_cases hpoint : last = "."
    · refine ⟨[], .inl rfl, ?_⟩
      rw [if_pos (.inl (congrArg some hpoint)), if_neg hup, follow_append, follow, if_neg hup, if_pos hpoint]
      rfl
    · refine ⟨last, .inr (List.mem_append_right _ List.mem_cons_self), ?_⟩
      rw [if_neg (not_or.2 ⟨mt Option.some.inj hpoint, mt Option.some.inj hup⟩), if_neg hup, follow_append, follow, if_neg hup, if_neg hpoint,
        List.append_nil]
      rfl

/-- The directories among the parts are those of the way. -/
theorem directoriesOf_partsFrom (base path : Text) : directoriesOf (partsFrom base path) = wayFrom base path := by
  rw [partsFrom, wayFrom]
  split
  · rfl
  · obtain ⟨before, last, hparts⟩ := (List.eq_nil_or_concat (splitOn '/' path)).resolve_left (splitOn_ne_nil '/' path)
    rw [List.concat_eq_append] at hparts
    rw [directories, hparts, List.getLast?_concat, List.dropLast_concat, Option.toList_some, ← List.cons_append, directoriesOf_concat,
      directoriesOf_concat]
    split
    · rename_i hup
      subst hup
      rw [List.filter_append, List.cons_append, List.append_assoc]
      rfl
    · rfl

/-! ## The path -/

theorem joinWith_nil_cons {ts : List Text} (h : ts ≠ []) : joinWith ['/'] ([] :: ts) = '/' :: joinWith ['/'] ts := by
  obtain ⟨t, ts, rfl⟩ := List.exists_cons_of_ne_nil h
  exact joinWith_cons_cons ['/'] [] t ts

/-- A path that is written of the names of a place and a last name, after a host. -/
theorem slashed_joinWith {place : List Text} {last : Text} (hplace : ∀ name ∈ place, '/' ∉ name) (hlast : '/' ∉ last) :
    slashed (if (joinWith ['/'] (place ++ [last])).isEmpty then ['/'] else joinWith ['/'] (place ++ [last])) =
      joinWith ['/'] (rooted place ++ [last]) := by
  cases place with
  | nil =>
    cases last with
    | nil => rfl
    | cons c last =>
      have hc : c ≠ '/' := fun h => hlast (h ▸ List.mem_cons_self)
      show slashed (c :: last) = '/' :: c :: last
      rw [slashed_cons, if_neg hc]
  | cons name place =>
    have hcons : joinWith ['/'] (name :: place ++ [last]) = name ++ '/' :: joinWith ['/'] (place ++ [last]) := by
      obtain ⟨t, ts, hts⟩ := List.exists_cons_of_ne_nil (List.append_ne_nil_of_right_ne_nil place (List.cons_ne_nil last []))
      rw [List.cons_append, hts, joinWith_cons_cons]
      rfl
    rw [hcons, if_neg (by simp)]
    cases name with
    | nil =>
      rw [List.nil_append, slashed_cons, if_pos rfl]
      exact hcons.symm
    | cons c name =>
      have hc : c ≠ '/' := fun h => hplace _ List.mem_cons_self (h ▸ List.mem_cons_self)
      rw [List.cons_append, slashed_cons, if_neg hc, ← List.cons_append, ← hcons]
      exact (joinWith_nil_cons (List.append_ne_nil_of_right_ne_nil _ (List.cons_ne_nil last []))).symm

theorem mem_of_mem_follow {way : List Text} {name : Text} {done : List Text} (h : name ∈ follow done way) : name ∈ done ∨ name ∈ way := by
  induction way generalizing done with
  | nil => exact .inl h
  | cons step way ih =>
    unfold follow at h
    split at h
    · exact (ih h).imp (List.dropLast_subset done ·) (List.mem_cons_of_mem _)
    · split at h
      · exact (ih h).imp_right (List.mem_cons_of_mem _)
      · rcases ih h with h | h
        · rcases List.mem_append.1 h with h | h
          · exact .inl h
          · exact .inr (List.mem_singleton.1 h ▸ List.mem_cons_self)
        · exact .inr (List.mem_cons_of_mem _ h)

theorem mem_directoriesOf {parts : List Text} {name : Text} (h : name ∈ directoriesOf parts) : name ∈ parts := by
  unfold directoriesOf at h
  split at h
  · exact h
  · exact List.dropLast_subset _ h

theorem mem_partsFrom {name : Text} (h : name ∈ partsFrom base path) : name = [] ∨ name ∈ splitOn '/' base ∨ name ∈ splitOn '/' path := by
  unfold partsFrom at h
  split at h
  · exact .inr (.inr h)
  · simp only [namesIn, List.mem_cons, List.mem_append, List.mem_filter, Option.mem_toList] at h
    rcases h with h | (⟨h, -⟩ | ⟨h, -⟩) | h
    · exact .inl h
    · exact .inr (.inl h)
    · exact .inr (.inr (List.dropLast_subset _ h))
    · exact .inr (.inr (List.mem_of_getLast? h))

/-- What is written for the path that leads from a base: the place to which the directories lead, and a last name. -/
theorem exists_pathFrom_eq (hhead : base.head? = some '/') (hlast : base.getLast? = some '/') (path : Text) :
    ∃ last, (last = [] ∨ last ∈ partsFrom base path) ∧
      pathFrom base path =
        if (joinWith ['/'] (follow [] (wayFrom base path) ++ [last])).isEmpty then ['/']
        else joinWith ['/'] (follow [] (wayFrom base path) ++ [last]) := by
  have hne : partsFrom base path ≠ [] := by
    unfold partsFrom
    split
    · exact splitOn_ne_nil '/' path
    · exact List.cons_ne_nil _ _
  obtain ⟨last, hmem, hfollow⟩ := exists_follow_eq hne
  refine ⟨last, hmem, ?_⟩
  rw [directoriesOf_partsFrom] at hfollow
  rw [← hfollow, pathFrom]
  simp only [getLast?_splitOn hlast, if_true, ← partsFrom_eq hhead]
  rfl

theorem not_mem_of_mem_partsFrom {name : Text} (h : name ∈ partsFrom base path) : '/' ∉ name := by
  rcases mem_partsFrom h with rfl | h | h
  · exact List.not_mem_nil
  · exact not_mem_of_mem_splitOn h
  · exact not_mem_of_mem_splitOn h

theorem mem_partsFrom_of_mem_follow {name : Text} (h : name ∈ follow [] (wayFrom base path)) : name ∈ partsFrom base path := by
  rw [← directoriesOf_partsFrom] at h
  exact mem_directoriesOf ((mem_of_mem_follow h).resolve_left List.not_mem_nil)

/-- All parts but the last of the path that leads from a base are the names of the place to which the directories lead. -/
theorem splitOn_pathFrom (hhead : base.head? = some '/') (hlast : base.getLast? = some '/') (path : Text) :
    (splitOn '/' (slashed (pathFrom base path))).dropLast = rooted (follow [] (wayFrom base path)) := by
  obtain ⟨last, hmem, hpath⟩ := exists_pathFrom_eq hhead hlast path
  have hplace : ∀ name ∈ follow [] (wayFrom base path), '/' ∉ name :=
    fun name hname => not_mem_of_mem_partsFrom (mem_partsFrom_of_mem_follow hname)
  have hname : '/' ∉ last := by
    rcases hmem with rfl | hmem
    · exact List.not_mem_nil
    · exact not_mem_of_mem_partsFrom hmem
  have hrooted : ∀ name ∈ rooted (follow [] (wayFrom base path)) ++ [last], '/' ∉ name := by
    intro name h
    rcases List.mem_append.1 h with h | h
    · unfold rooted at h
      split at h
      · exact hplace name h
      · rcases List.mem_cons.1 h with rfl | h
        · exact List.not_mem_nil
        · exact hplace name h
    · exact List.mem_singleton.1 h ▸ hname
  rw [hpath, slashed_joinWith hplace hname, splitOn_joinWith (List.append_ne_nil_of_right_ne_nil _ (List.cons_ne_nil last [])) hrooted,
    List.dropLast_concat]

theorem pathFrom_ne_nil (base path : Text) : pathFrom base path ≠ [] := by
  have hslash : ∀ found : Text, (if found.isEmpty then ['/'] else found) ≠ [] := by
    intro found
    cases found with
    | nil => exact List.cons_ne_nil '/' []
    | cons c found => exact List.cons_ne_nil c found
  exact hslash _

/-! ## The characters of the path -/

theorem mem_joinWith {sep : Text} {ts : List Text} {c : Char} (h : c ∈ joinWith sep ts) : c ∈ sep ∨ ∃ t ∈ ts, c ∈ t := by
  induction ts with
  | nil => cases h
  | cons t ts ih =>
    cases ts with
    | nil => exact .inr ⟨t, List.mem_cons_self, h⟩
    | cons u us =>
      rw [joinWith_cons_cons, List.mem_append, List.mem_append] at h
      rcases h with h | h | h
      · exact .inr ⟨t, List.mem_cons_self, h⟩
      · exact .inl h
      · refine (ih h).imp_right ?_
        rintro ⟨t', ht', hc⟩
        exact ⟨t', List.mem_cons_of_mem _ ht', hc⟩

/-- The path that leads from a base has no other characters than the base, the reference and the slash. -/
theorem mem_of_mem_pathFrom (hhead : base.head? = some '/') (hlast : base.getLast? = some '/') {c : Char} (h : c ∈ pathFrom base path) :
    c = '/' ∨ c ∈ base ∨ c ∈ path := by
  obtain ⟨last, hmem, hpath⟩ := exists_pathFrom_eq hhead hlast path
  have hpart : ∀ name ∈ partsFrom base path, c ∈ name → c ∈ base ∨ c ∈ path := by
    intro name hname hc
    rcases mem_partsFrom hname with rfl | h | h
    · cases hc
    · exact .inl (mem_of_mem_splitOn h c hc)
    · exact .inr (mem_of_mem_splitOn h c hc)
  rw [hpath] at h
  split at h
  · exact .inl (List.mem_singleton.1 h)
  · rcases mem_joinWith h with h | ⟨name, hname, hc⟩
    · exact .inl (List.mem_singleton.1 h)
    · rcases List.mem_append.1 hname with hname | hname
      · exact .inr (hpart name (mem_partsFrom_of_mem_follow hname) hc)
      · rw [List.mem_singleton.1 hname] at hc
        rcases hmem with rfl | hmem
        · cases hc
        · exact .inr (hpart last hmem hc)

end Flashcards.Address
