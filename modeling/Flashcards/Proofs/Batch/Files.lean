import Mathlib.Data.List.TakeWhile
import Flashcards.CommandLine.Batch
import Flashcards.Proofs.Text.Pieces

/-!
# The files of pages

The page of a deck is written to a file in the output directory. Whatever the path of the deck is, the file lies directly in the directory
(`Batch.ofPath_fileIn`): its name has neither slashes nor blanks. Two decks have the same file exactly if their paths come to the same after the
replacement of characters (`Batch.fileIn_inj`), which is not said of different paths in general, but of those that have no other characters
than the name keeps, apart from slashes (`PageFile.name_eq_iff`).
-/

namespace Flashcards

open Text

namespace PageFile

/-! ## Names -/

theorem isSafe_lowLine : isSafe '_' = true := rfl

/-- All characters of a name are such as stand in a name. -/
theorem isSafe_of_mem_joinUnsafe {t : Text} {inRun : Bool} {c : Char} (h : c ∈ joinUnsafe inRun t) : isSafe c = true := by
  induction t generalizing inRun with
  | nil => cases h
  | cons d t ih =>
    rw [joinUnsafe] at h
    split at h
    · rename_i hd
      rcases List.mem_cons.1 h with rfl | h
      · exact hd
      · exact ih h
    · split at h
      · exact ih h
      · rcases List.mem_cons.1 h with rfl | h
        · exact isSafe_lowLine
        · exact ih h

/-- Nothing is replaced where there is nothing to replace. -/
theorem joinUnsafe_of_safe {t : Text} (h : ∀ c ∈ t, isSafe c = true) (inRun : Bool) : joinUnsafe inRun t = t := by
  induction t generalizing inRun with
  | nil => rfl
  | cons c t ih =>
    rw [joinUnsafe, if_pos (h c List.mem_cons_self), ih fun d hd => h d (List.mem_cons_of_mem c hd)]

/-- The name of the file without its ending, also where nothing is left of the path. -/
def base (path : Text) : Text := if (stem path).isEmpty then "deck" else stem path

theorem name_eq (path : Text) : name path = base path ++ ".html" := rfl

/-- Two files have the same name if their bases are the same. -/
theorem name_eq_iff_base {p q : Text} : name p = name q ↔ base p = base q := by
  rw [name_eq, name_eq]
  exact ⟨List.append_cancel_right, fun h => by rw [h]⟩

theorem isSafe_of_mem_name {path : Text} {c : Char} (h : c ∈ name path) : isSafe c = true := by
  rw [name_eq] at h
  rcases List.mem_append.1 h with h | h
  · unfold base at h
    split at h
    · exact List.all_eq_true.1 (show List.all ("deck" : Text) isSafe = true from rfl) c h
    · exact isSafe_of_mem_joinUnsafe h
  · exact List.all_eq_true.1 (show List.all (".html" : Text) isSafe = true from rfl) c h

/-- A path whose characters all stand in the name of the file as they are, apart from the slashes between its names. -/
def Plain (path : Text) : Prop := path ≠ [] ∧ stripSlashes path = path ∧ ∀ c ∈ path, c = '/' ∨ isSafe c = true ∧ c ≠ '_'

-- The characters of the path are gone through, not all characters there are.
instance : DecidablePred Plain := fun path =>
  letI : Decidable (∀ c ∈ path, c = '/' ∨ isSafe c = true ∧ c ≠ '_') := List.decidableBAll _ path
  inferInstanceAs (Decidable (_ ∧ _ ∧ _))

/-- The path of a plain deck with low lines in the place of slashes. -/
theorem base_of_plain {path : Text} (h : Plain path) : base path = path.map fun c => if c = '/' then '_' else c := by
  obtain ⟨hne, hstrip, hsafe⟩ := h
  have hstem : stem path = path.map fun c => if c = '/' then '_' else c := by
    rw [stem, hstrip]
    refine joinUnsafe_of_safe (fun c hc => ?_) false
    obtain ⟨d, hd, rfl⟩ := List.mem_map.1 hc
    split
    · exact isSafe_lowLine
    · rename_i hslash
      exact ((hsafe d hd).resolve_left hslash).1
  rw [base, if_neg, hstem]
  rw [hstem, List.isEmpty_iff, List.map_eq_nil_iff]
  exact hne

/-- Plain paths that are different have different files. -/
theorem name_eq_iff {p q : Text} (hp : Plain p) (hq : Plain q) : name p = name q ↔ p = q := by
  have hback : ∀ {path : Text}, Plain path → (base path).map (fun c => if c = '_' then '/' else c) = path := by
    intro path h
    rw [base_of_plain h, List.map_map]
    refine (List.map_congr_left fun c hc => ?_).trans (List.map_id path)
    rcases h.2.2 c hc with rfl | ⟨-, hlow⟩
    · rfl
    · by_cases hslash : c = '/'
      · rw [hslash]
        rfl
      · simp [hslash, hlow]
  refine ⟨fun h => ?_, congrArg name⟩
  rw [← hback hp, ← hback hq, name_eq_iff_base.1 h]

/-- A name of something in a directory: it is no way to somewhere else. -/
structure Proper (name : Text) : Prop where
  nonEmpty : nonEmpty name = true
  ne_point : name ≠ "."
  ne_points : name ≠ ".."
  slash : '/' ∉ name
  zero : '\x00' ∉ name

/-- The names of files for pages are proper. -/
theorem proper_name (path : Text) : Proper (name path) := by
  have hlength : 4 < (name path).length := by
    rw [name_eq, List.length_append]
    exact Nat.lt_of_lt_of_le (by decide) (Nat.le_add_left _ _)
  have hsafe : ∀ c, isSafe c = false → c ∉ name path := by
    intro c hc hmem
    rw [isSafe_of_mem_name hmem] at hc
    cases hc
  refine ⟨?_, ?_, ?_, hsafe '/' rfl, hsafe '\x00' rfl⟩
  · cases hn : name path with
    | nil => rw [hn] at hlength; cases hlength
    | cons => rfl
  · rintro hn
    rw [hn] at hlength
    exact absurd hlength (by decide)
  · rintro hn
    rw [hn] at hlength
    exact absurd hlength (by decide)

end PageFile

namespace Place

/-- The names that count in a path are those that are not passed over. -/
theorem counts_eq (n : Text) : (nonEmpty n && n != ".") = !(n.isEmpty || decide (n = ".")) := by
  rw [nonEmpty, bne, Bool.not_or, Bool.beq_eq_decide_eq]

/-- Empty names and single points lead nowhere. -/
theorem follow_filter (ns : List Text) (p : Place) : p.follow (ns.filter fun name => nonEmpty name && name != ".") = p.follow ns := by
  induction ns generalizing p with
  | nil => rfl
  | cons n ns ih =>
    have hn := counts_eq n
    rw [List.filter_cons, hn]
    cases hskip : (n.isEmpty || decide (n = ".")) with
    | true => rw [Bool.not_true, if_neg Bool.false_ne_true, ih, follow, if_pos hskip]
    | false =>
      rw [Bool.not_false, if_pos rfl, follow, follow, if_neg (Bool.eq_false_iff.1 hskip), if_neg (Bool.eq_false_iff.1 hskip), ih, ih]

/-- A proper name leads from where the names before it lead. -/
theorem follow_concat {name : Text} (h : PageFile.Proper name) (ns : List Text) (p : Place) :
    p.follow (ns ++ [name]) = (p.follow ns).map (· ++ [name]) := by
  induction ns generalizing p with
  | nil =>
    have hcounts : (name.isEmpty || decide (name = ".")) = false := by
      rw [← Bool.not_eq_true', ← counts_eq, h.nonEmpty, Bool.true_and, bne_iff_ne]
      exact h.ne_point
    have hzero : name.contains '\x00' = false := by
      rw [Bool.eq_false_iff, ne_eq, List.contains_iff_mem]
      exact h.zero
    show p.follow [name] = .ok (p ++ [name])
    rw [follow, if_neg (Bool.eq_false_iff.1 hcounts), if_neg h.ne_points, if_neg (Bool.eq_false_iff.1 hzero), follow]
  | cons n ns ih =>
    rw [List.cons_append, follow, follow]
    split
    · exact ih p
    · split
      · exact ih _
      · split
        · rfl
        · exact ih _

end Place

namespace Batch

/-! ## Files in a directory -/

variable {directory name : Text}

theorem names_slash (t : Text) : names ('/' :: t) = names t := rfl

theorem names_slashes {slashes : Text} (h : ∀ c ∈ slashes, c = '/') (t : Text) : names (slashes ++ t) = names t := by
  induction slashes with
  | nil => rfl
  | cons c slashes ih =>
    rw [List.forall_mem_cons] at h
    rw [h.1, List.cons_append, names_slash, ih h.2]

theorem eq_slash_of_mem_leadingSlashes {path : Text} : ∀ c ∈ leadingSlashes path, c = '/' := by
  intro c hc
  rw [leadingSlashes] at hc
  split at hc
  · exact beq_iff_eq.1 (List.mem_takeWhile_imp (p := fun c => c == '/') hc)
  · exact List.mem_singleton.1 hc

/-- A path begins with a slash in its tidy form if it does as it is. -/
theorem leadingSlashes_eq_nil_iff {path : Text} : leadingSlashes path = [] ↔ path.head? ≠ some '/' := by
  cases path with
  | nil => simp [leadingSlashes]
  | cons c t =>
    by_cases hc : c = '/'
    · subst hc
      rw [leadingSlashes]
      simp only [List.takeWhile_cons, beq_self_eq_true, if_true, List.head?_cons, ne_eq, not_true_eq_false, iff_false]
      split <;> exact List.cons_ne_nil _ _
    · simp [leadingSlashes, hc]

/-- The names of a directory and a proper name have no slashes, and they count. -/
theorem of_mem_names_concat (h : PageFile.Proper name) {w : Text} (hw : w ∈ names directory ++ [name]) :
    '/' ∉ w ∧ nonEmpty w = true ∧ w ≠ "." := by
  rcases List.mem_append.1 hw with hw | hw
  · obtain ⟨hpiece, hcounts⟩ := List.mem_filter.1 hw
    rw [Bool.and_eq_true, bne_iff_ne] at hcounts
    refine ⟨fun hslash => ?_, hcounts⟩
    have hno := of_mem_splitWhere hpiece '/' hslash
    cases hno
  · rw [List.mem_singleton.1 hw]
    exact ⟨h.slash, h.nonEmpty, h.ne_point⟩

/-- A file in a directory is found by the directory's names, and then its own. -/
theorem names_fileIn (h : PageFile.Proper name) (directory : Text) : names (fileIn directory name) = names directory ++ [name] := by
  have hkept : ∀ w ∈ names directory ++ [name], (nonEmpty w && w != ".") = true := by
    intro w hw
    rw [Bool.and_eq_true, bne_iff_ne]
    exact (of_mem_names_concat h hw).2
  rw [fileIn, names_slashes eq_slash_of_mem_leadingSlashes, names,
    splitOn_joinWith (List.append_ne_nil_of_right_ne_nil _ (List.cons_ne_nil name [])) fun w hw => (of_mem_names_concat h hw).1,
    List.filter_eq_self.2 hkept]

/-- Two files in a directory are the same only if they have the same name. -/
theorem fileIn_inj {other : Text} (h : PageFile.Proper name) (h' : PageFile.Proper other) :
    fileIn directory name = fileIn directory other ↔ name = other := by
  refine ⟨fun he => ?_, congrArg (fileIn directory)⟩
  have hnames := congrArg names he
  rw [names_fileIn h, names_fileIn h'] at hnames
  exact List.singleton_inj.1 (List.append_cancel_left hnames)

/-- The path of a file begins with a slash if the path of the directory does. -/
theorem head?_fileIn (h : PageFile.Proper name) (directory : Text) :
    (fileIn directory name).head? = some '/' ↔ directory.head? = some '/' := by
  rw [fileIn]
  cases hs : leadingSlashes directory with
  | cons c slashes =>
    have hc : c = '/' := eq_slash_of_mem_leadingSlashes c (hs ▸ List.mem_cons_self)
    have hd : directory.head? = some '/' := by
      by_contra hno
      rw [leadingSlashes_eq_nil_iff.2 hno] at hs
      cases hs
    simp [hc, hd]
  | nil =>
    have hno := leadingSlashes_eq_nil_iff.1 hs
    rw [List.nil_append]
    refine ⟨fun hhead => ?_, fun hd => absurd hd hno⟩
    -- The first of the names is not empty, and has no slash.
    obtain ⟨w, ws, hws⟩ := List.exists_cons_of_ne_nil (List.append_ne_nil_of_right_ne_nil (names directory) (List.cons_ne_nil name []))
    obtain ⟨hslash, hne, -⟩ := of_mem_names_concat h (hws ▸ List.mem_cons_self : w ∈ names directory ++ [name])
    rw [hws] at hhead
    cases w with
    | nil => cases hne
    | cons c w =>
      have hc : c = '/' := by cases ws <;> exact Option.some.inj hhead
      exact absurd (hc ▸ List.mem_cons_self) hslash

/-- A file in a directory lies directly in the directory, wherever one stands. -/
theorem ofPath_fileIn (h : PageFile.Proper name) (here : Place) (directory : Text) :
    Place.ofPath here (fileIn directory name) = (Place.ofPath here directory).map (· ++ [name]) := by
  rw [Place.ofPath, Place.ofPath, ← Place.follow_filter (splitOn '/' (fileIn directory name)), ← Place.follow_filter (splitOn '/' directory)]
  rw [show (splitOn '/' (fileIn directory name)).filter _ = names directory ++ [name] from names_fileIn h directory,
    Place.follow_concat h]
  simp only [head?_fileIn h]
  rfl

end Batch

end Flashcards
