import Flashcards.Proofs.Source.Parts
import Flashcards.Proofs.Source.Paths

/-!
# References below a base

A base is the address of a directory on the web (`Address.IsBase`). The address to which a reference of its scheme leads begins with the base or does
not, and this is told by the host of the reference and the place to which its path leads (`Address.Below`, `IsBase.prefix_reachedFrom_iff`).

What is read of a text has none of the characters that are dropped, and no address to which references lead has (`Address.Clean`).
-/

namespace Flashcards

open Text

namespace Address

/-! ## Addresses with a host -/

/-- An address of a scheme with a host, whose parts can be told from each other when it is written. -/
structure OnHost (a : Address) : Prop where
  scheme : a.scheme ≠ []
  host : a.host ≠ []
  ends : ∀ c ∈ a.host, endsHost c = false
  /-- Parameters belong to a path, and do not go on after a slash. -/
  parameters : '/' ∉ a.parameters
  path : a.path = [] → a.parameters = []

/-- What comes after the host in an address that is written. -/
def afterHost (a : Address) : Text := slashed a.path ++ (marked ';' a.parameters ++ (marked '?' a.query ++ marked '#' a.fragment))

variable {a b r : Address} {t : Text}

theorem OnHost.toText_eq (h : OnHost a) : a.toText = a.scheme ++ (":" ++ ("//" ++ (a.host ++ a.afterHost))) := by
  have hslashed : slashed (a.path ++ marked ';' a.parameters) = slashed a.path ++ marked ';' a.parameters := by
    by_cases hpath : a.path = []
    · rw [hpath, h.path hpath]
      rfl
    · exact slashed_append hpath _
  have hlocation : a.location = "//" ++ a.host ++ slashed (a.path ++ marked ';' a.parameters) := by
    have hne : nonEmpty a.host = true := by simpa [nonEmpty] using h.host
    rw [location]
    simp only [hne, Bool.true_or, if_true]
    rfl
  rw [toText, hlocation, hslashed, if_neg (by simpa using h.scheme)]
  simp [afterHost]

theorem ends_slashed (path : Text) {t : Text} (h : path = [] → Ends (!endsHost ·) t) : Ends (!endsHost ·) (slashed path ++ t) := by
  cases path with
  | nil => exact h rfl
  | cons c path =>
    rw [slashed_cons]
    split
    · rename_i hc
      exact ends_cons.2 (hc ▸ rfl)
    · exact ends_cons.2 rfl

theorem ends_marked {mark : Char} (hmark : endsHost mark = true) (t : Text) {u : Text} (h : Ends (!endsHost ·) u) :
    Ends (!endsHost ·) (marked mark t ++ u) := by
  unfold marked
  split
  · exact h
  · exact ends_cons.2 (by rw [hmark]; rfl)

theorem OnHost.ends_afterHost (h : OnHost a) : Ends (!endsHost ·) a.afterHost := by
  refine ends_slashed a.path fun hpath => ?_
  rw [h.path hpath]
  refine ends_marked rfl a.query ?_
  have hfragment : Ends (!endsHost ·) (marked '#' a.fragment ++ []) := ends_marked rfl a.fragment (ends_nil _)
  rwa [List.append_nil] at hfragment

/-- A text without a mark that begins a text with marked text at its end begins what stands before. -/
theorem prefix_of_prefix_marked {p t u : Text} {mark : Char} (h : p <+: t ++ marked mark u) (hmark : mark ∉ p) : p <+: t := by
  unfold marked at h
  split at h
  · rwa [List.append_nil] at h
  · have htm : t ++ [mark] <+: t ++ mark :: u := List.prefix_append_right_inj t |>.2 ⟨u, rfl⟩
    rcases List.prefix_or_prefix_of_prefix h htm with h | h
    · rcases List.prefix_concat_iff.1 h with rfl | h
      · exact absurd (List.mem_append_right t List.mem_cons_self) hmark
      · exact h
    · exact absurd (h.subset (List.mem_append_right t List.mem_cons_self)) hmark

/-- A text that ends with a character begins another text before its last characters of other kinds. -/
theorem prefix_of_prefix_append {p t u : Text} {c : Char} (h : p <+: t ++ u) (hlast : p.getLast? = some c) (hc : c ∉ u) : p <+: t := by
  rcases List.prefix_or_prefix_of_prefix h (List.prefix_append t u) with h' | ⟨v, rfl⟩
  · exact h'
  · have hv := (List.prefix_append_right_inj t).1 h
    by_cases hne : v = []
    · simp [hne]
    · rw [List.getLast?_append_of_ne_nil t hne] at hlast
      exact absurd (hv.subset (List.mem_of_getLast? hlast)) hc

/-! ## Bases -/

/-- An address of a directory on the web. -/
structure IsBase (b : Address) : Prop extends OnHost b where
  web : b.scheme = "http" ∨ b.scheme = "https"
  head : b.path.head? = some '/'
  last : b.path.getLast? = some '/'
  plain : '?' ∉ b.path ∧ '#' ∉ b.path
  only : b.parameters = [] ∧ b.query = [] ∧ b.fragment = []

theorem slashed_of_head? {path : Text} (h : path.head? = some '/') : slashed path = path := by
  obtain ⟨path, rfl⟩ := List.head?_eq_some_iff.1 h
  rfl

theorem IsBase.afterHost_eq (h : IsBase b) : b.afterHost = b.path := by
  rw [afterHost, h.only.1, h.only.2.1, h.only.2.2, slashed_of_head? h.head]
  exact List.append_nil _

/-- An address on a host begins with a base of the same scheme exactly if its host is the same and its path begins with that of the base. -/
theorem IsBase.prefix_iff (hb : IsBase b) (ha : OnHost a) (hscheme : a.scheme = b.scheme) :
    b.toText <+: a.toText ↔ a.host = b.host ∧ b.path <+: slashed a.path := by
  rw [hb.toText_eq, ha.toText_eq, hscheme, List.prefix_append_right_inj, List.prefix_append_right_inj, List.prefix_append_right_inj,
    hb.afterHost_eq]
  constructor
  · intro h
    have hhost : a.host = b.host := by
      obtain ⟨rest, hrest⟩ := h
      have hends : Ends (!endsHost ·) (b.path ++ rest) := by
        obtain ⟨path, hpath⟩ := List.head?_eq_some_iff.1 hb.head
        rw [hpath]
        exact ends_cons.2 rfl
      rw [List.append_assoc] at hrest
      have htaken := congrArg (List.takeWhile (!endsHost ·)) hrest
      rw [takeWhile_append (fun c hc => by rw [hb.ends c hc]; rfl) hends,
        takeWhile_append (fun c hc => by rw [ha.ends c hc]; rfl) ha.ends_afterHost] at htaken
      exact htaken.symm
    rw [hhost, List.prefix_append_right_inj, afterHost, ← List.append_assoc, ← List.append_assoc] at h
    have hslash : '/' ∉ marked ';' a.parameters := by
      unfold marked
      split
      · exact List.not_mem_nil
      · exact List.not_mem_cons_of_ne_of_not_mem (by decide) ha.parameters
    exact ⟨hhost, prefix_of_prefix_append (prefix_of_prefix_marked (prefix_of_prefix_marked h hb.plain.2) hb.plain.1) hb.last hslash⟩
  · rintro ⟨hhost, hpath⟩
    rw [hhost, List.prefix_append_right_inj]
    exact hpath.trans (List.prefix_append _ _)

/-- The last part of the path of a base is empty, and all others are its directories. -/
theorem IsBase.directories_eq (hb : IsBase b) : directories b.path = (splitOn '/' b.path).dropLast := by
  have hlast : (splitOn '/' b.path).getLast? ≠ some (".." : Text) := by
    rw [getLast?_splitOn hb.last]
    decide
  rw [directories, directoriesOf, if_neg hlast]

/-- The path of an address begins with the path of a base exactly if its directories do. -/
theorem IsBase.path_prefix_iff (hb : IsBase b) (path : Text) : b.path <+: path ↔ directories b.path <+: (splitOn '/' path).dropLast := by
  rw [isPrefix_iff_dropLast_splitOn hb.last, hb.directories_eq]

/-! ## References -/

/-- The reference leads to an address below the base, by its host and by the place to which its path leads. -/
inductive Below (b r : Address) : Prop where
  /-- It has a host and a path of its own, which are as they are. -/
  | onHost (host : r.host = b.host) (path : b.path <+: r.path)
  /-- It has no path, and leads to the base itself. -/
  | base (host : r.host = []) (path : r.path = []) (parameters : r.parameters = [])
  /-- It has a path, which leads from the base to a place in the directory of the base. -/
  | path {place : List Text} (host : r.host = []) (path : r.path ≠ [] ∨ r.parameters ≠ [])
      (leads : LeadsTo (wayFrom b.path r.path) place) (within : directories b.path <+: rooted place)

theorem scheme_ne_nil (h : b.scheme = "http" ∨ b.scheme = "https") : b.scheme ≠ [] := by
  rcases h with h | h <;> rw [h] <;> decide

theorem joinable (h : b.scheme = "http" ∨ b.scheme = "https") : relativeSchemes.contains b.scheme = true ∧ hostSchemes.contains b.scheme = true := by
  rcases h with h | h <;> rw [h] <;> decide

theorem Written.onHost (hr : Written t r) (hscheme : r.scheme ≠ []) (hhost : r.host ≠ []) :
    OnHost r ∧ (r.path = [] ∨ r.path.head? = some '/') := by
  obtain ⟨rest, parameters, query, fragment, hrest | hrest, hparts, hparameters, -⟩ := hr.spelled
  · obtain ⟨-, hends⟩ := hrest
    rw [hparts] at hends
    refine ⟨⟨hscheme, hhost, hr.host, hr.parameters, fun hpath => ?_⟩, ?_⟩
    · rw [hpath] at hends
      generalize r.parameters = more at hparameters ⊢
      cases hparameters with
      | nothing => rfl
      | mark => exact absurd (ends_cons.1 hends) (by decide)
    · cases hpath : r.path with
      | nil => exact .inl rfl
      | cons c path =>
        rw [hpath] at hends
        have hc := ends_cons.1 hends
        simp only [endsHost, Bool.not_eq_false', Bool.or_eq_true, beq_iff_eq] at hc
        rcases hc with (rfl | rfl) | rfl
        · exact .inr rfl
        · exact absurd (hpath ▸ List.mem_cons_self) hr.path.1
        · exact absurd (hpath ▸ List.mem_cons_self) hr.path.2
  · exact absurd hrest.1 hhost

/-- A reference of the scheme of the base leads to an address on a host. -/
theorem IsBase.reachedFrom_onHost (hb : IsBase b) (hr : Written t r) (hscheme : r.scheme = b.scheme) :
    OnHost (b.reachedFrom r) ∧ (b.reachedFrom r).scheme = b.scheme := by
  have hne : r.scheme ≠ [] := hscheme ▸ hb.scheme
  simp only [reachedFrom, hscheme, (joinable hb.web).2, Bool.true_and, if_true]
  split
  · rename_i hhost
    exact ⟨(hr.onHost hne (by simpa [nonEmpty] using hhost)).1, hscheme⟩
  · split
    · exact ⟨⟨hb.scheme, hb.host, hb.ends, hb.parameters, hb.path⟩, rfl⟩
    · exact ⟨⟨hb.scheme, hb.host, hb.ends, hr.parameters, fun h => absurd h (pathFrom_ne_nil _ _)⟩, rfl⟩

/-- The address to which a reference leads begins with the base exactly if it is below it. -/
theorem IsBase.prefix_reachedFrom_iff (hb : IsBase b) (hr : Written t r) (hscheme : r.scheme = b.scheme) :
    b.toText <+: (b.reachedFrom r).toText ↔ Below b r := by
  obtain ⟨hon, hscheme'⟩ := hb.reachedFrom_onHost hr hscheme
  rw [hb.prefix_iff hon hscheme']
  simp only [reachedFrom, hscheme, (joinable hb.web).2, Bool.true_and, if_true]
  by_cases hhost : r.host = []
  · rw [if_neg (by simp [nonEmpty, hhost])]
    by_cases hpath : r.path = [] ∧ r.parameters = []
    · rw [if_pos (by simp [hpath])]
      dsimp only
      rw [slashed_of_head? hb.head]
      exact iff_of_true ⟨rfl, List.prefix_rfl⟩ (.base hhost hpath.1 hpath.2)
    · rw [if_neg (by simpa using hpath)]
      dsimp only
      rw [hb.path_prefix_iff, splitOn_pathFrom hb.head hb.last]
      constructor
      · exact fun h => .path hhost (by rwa [not_and_or] at hpath) (leadsTo_iff.2 rfl) h.2
      · rintro (⟨h, -⟩ | ⟨-, hp, hq⟩ | ⟨-, -, hleads, hwithin⟩)
        · exact absurd (h.symm.trans hhost) hb.host
        · exact absurd ⟨hp, hq⟩ hpath
        · rw [leadsTo_iff.1 hleads]
          exact ⟨rfl, hwithin⟩
  · rw [if_pos (by simpa [nonEmpty] using hhost)]
    have hslashed : slashed r.path = r.path := by
      rcases (hr.onHost (hscheme ▸ hb.scheme) hhost).2 with h | h
      · rw [h]
        rfl
      · exact slashed_of_head? h
    rw [hslashed]
    constructor
    · exact fun h => .onHost h.1 h.2
    · rintro (⟨h, hpath⟩ | ⟨h, -⟩ | ⟨h, -⟩)
      · exact ⟨h, hpath⟩
      · exact absurd h hhost
      · exact absurd h hhost

/-! ## Dropped characters -/

/-- No part of an address that comes after its scheme holds a character that is dropped. -/
structure Clean (a : Address) : Prop where
  host : ∀ c ∈ a.host, isDropped c = false
  path : ∀ c ∈ a.path, isDropped c = false
  parameters : ∀ c ∈ a.parameters, isDropped c = false
  query : ∀ c ∈ a.query, isDropped c = false
  fragment : ∀ c ∈ a.fragment, isDropped c = false

theorem Written.clean (ha : Written t a) (h : ∀ c ∈ t, isDropped c = false) : Clean a := by
  obtain ⟨rest, parameters, query, fragment, hrest, rfl, hparameters, hquery, hfragment⟩ := ha.spelled
  have hall : ∀ c ∈ a.host ++ (a.path ++ (parameters ++ (query ++ fragment))), isDropped c = false := by
    intro c hc
    rcases hrest with ⟨ht, -⟩ | ⟨hhost, ht⟩
    · exact h c (ht ▸ List.mem_append_right _ hc)
    · rw [hhost, List.nil_append, ht] at hc
      exact h c hc
  simp only [List.forall_mem_append] at hall
  obtain ⟨hhost, hpath, hparameters', hquery', hfragment'⟩ := hall
  exact ⟨hhost, hpath, fun c hc => hparameters' c (hparameters.subset hc), fun c hc => hquery' c (hquery.subset hc),
    fun c hc => hfragment' c (hfragment.subset hc)⟩

/-- An address that is read has no character that is dropped. -/
theorem clean_of_read {default : Text} (h : read default t = .ok a) : Clean a := by
  refine (of_read h).2.clean fun c hc => not_isDropped_of_mem_tidied (t := t) ?_
  rcases of_takeScheme default (tidied t) with hs | hs
  · exact hs.mem hc
  · rwa [hs] at hc

theorem IsBase.clean_reachedFrom (hb : IsBase b) (hbase : Clean b) (hr : Clean r) (hscheme : r.scheme = b.scheme) :
    Clean (b.reachedFrom r) := by
  have hpath : ∀ c ∈ pathFrom b.path r.path, isDropped c = false := by
    intro c hc
    rcases mem_of_mem_pathFrom hb.head hb.last hc with rfl | hc | hc
    · decide
    · exact hbase.path c hc
    · exact hr.path c hc
  have hquery : ∀ c ∈ (if r.query.isEmpty = true then b.query else r.query), isDropped c = false := by
    split
    · exact hbase.query
    · exact hr.query
  simp only [reachedFrom, hscheme, (joinable hb.web).2, Bool.true_and, if_true]
  split
  · exact hr
  · split
    · exact ⟨hbase.host, hbase.path, hbase.parameters, hquery, hr.fragment⟩
    · exact ⟨hbase.host, hpath, hr.parameters, hr.query, hr.fragment⟩

theorem Clean.afterHost (h : Clean a) : ∀ c ∈ a.afterHost, isDropped c = false := by
  have hmarked : ∀ {mark : Char} {t : Text}, isDropped mark = false → (∀ c ∈ t, isDropped c = false) →
      ∀ c ∈ marked mark t, isDropped c = false := by
    intro mark t hmark ht
    unfold marked
    split
    · exact List.forall_mem_nil _
    · exact List.forall_mem_cons.2 ⟨hmark, ht⟩
  have hslashed : ∀ c ∈ slashed a.path, isDropped c = false := by
    unfold slashed
    split
    · exact h.path
    · exact List.forall_mem_cons.2 ⟨by decide, h.path⟩
  simp only [Address.afterHost, List.forall_mem_append]
  exact ⟨hslashed, hmarked (by decide) h.parameters, hmarked (by decide) h.query, hmarked (by decide) h.fragment⟩

/-! ## Base addresses as they are read -/

/-- An address on the web that ends with a slash, without marks of queries and fragments, is that of a directory. -/
theorem Written.isBase (hb : Written t b) (hweb : b.scheme = "http" ∨ b.scheme = "https") (hhost : b.host ≠ []) (hquery : '?' ∉ t)
    (hfragment : '#' ∉ t) (hlast : t.getLast? = some '/') : t = "//" ++ (b.host ++ b.path) ∧ IsBase b := by
  obtain ⟨hon, hhead⟩ := hb.onHost (scheme_ne_nil hweb) hhost
  obtain ⟨rest, parameters, query, fragment, hrest | hrest, rfl, hparameters, hquery', hfragment'⟩ := hb.spelled
  · obtain ⟨rfl, -⟩ := hrest
    simp only [List.mem_append, not_or] at hquery hfragment
    obtain ⟨rfl, hq⟩ := hquery'.eq_nil hquery.2.2.2.2.1
    obtain ⟨rfl, hf⟩ := hfragment'.eq_nil hfragment.2.2.2.2.2
    rw [List.append_nil, List.append_nil] at hlast ⊢
    have hnone : ';' ∉ parameters := by
      intro hmem
      rw [← List.append_assoc, ← List.append_assoc, List.getLast?_append_of_ne_nil _ (List.ne_nil_of_mem hmem)] at hlast
      rcases hparameters.mem (List.mem_of_getLast? hlast) with h | h
      · exact absurd h (by decide)
      · exact hon.parameters h
    obtain ⟨rfl, hp⟩ := hparameters.eq_nil hnone
    rw [List.append_nil] at hlast ⊢
    have hpath : b.path ≠ [] := by
      intro hpath
      rw [hpath, List.append_nil, List.getLast?_append_of_ne_nil _ hhost] at hlast
      exact absurd (hon.ends '/' (List.mem_of_getLast? hlast)) (by decide)
    rw [← List.append_assoc, List.getLast?_append_of_ne_nil _ hpath] at hlast
    exact ⟨rfl, hon, hweb, hhead.resolve_left hpath, hlast, hb.path, hp, hq, hf⟩
  · exact absurd hrest.1 hhost

end Address

end Flashcards
