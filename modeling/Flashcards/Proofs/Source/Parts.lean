import Flashcards.Proofs.Text.Pieces
import Flashcards.Proofs.Text.Runs
import Flashcards.Source.Address

/-!
# The parts of an address

An address that is read is written in the text: first its scheme, perhaps, then its host, perhaps, and then its path, its parameters, its query
and its fragment, each after its mark if it is there (`Address.Written`). The marks tell the parts from each other, so no part holds a mark of
one that comes after it.
-/

namespace Flashcards

open Text

namespace Address

/-- A text as an address is read from it: without blanks at its start, tabs and ends of lines. -/
def tidied (t : Text) : Text := (t.dropWhile isLeadingBlank).filter (!isDropped ·)

theorem not_isDropped_of_mem_tidied {t : Text} {c : Char} (h : c ∈ tidied t) : isDropped c = false := by
  simpa using (List.mem_filter.1 h).2

/-! ## Schemes -/

/-- A text begins with a scheme, which is read in lower case. -/
def Schemed (t scheme rest : Text) : Prop :=
  ∃ first name, t = first :: (name ++ ':' :: rest) ∧ isLetter first = true ∧ (∀ c ∈ name, inScheme c = true) ∧
    scheme = (first :: name).map Char.toLower

/-- The colon after a scheme is the first in the text. -/
theorem ne_colon_of_inScheme {c : Char} (h : inScheme c = true) : (c != ':') = true := by
  rw [bne_iff_ne]
  rintro rfl
  exact absurd h (by decide)

theorem inScheme_of_isLetter {c : Char} (h : isLetter c = true) : inScheme c = true := by
  simp [inScheme, h]

theorem ne_colon_of_scheme {first : Char} {name : Text} (hfirst : isLetter first = true) (hname : ∀ c ∈ name, inScheme c = true) :
    ∀ c ∈ first :: name, (c != ':') = true :=
  List.forall_mem_cons.2 ⟨ne_colon_of_inScheme (inScheme_of_isLetter hfirst), fun c hc => ne_colon_of_inScheme (hname c hc)⟩

theorem takeScheme_of_schemed {t scheme rest : Text} (h : Schemed t scheme rest) (default : Text) : takeScheme default t = (scheme, rest) := by
  obtain ⟨first, name, rfl, hfirst, hname, rfl⟩ := h
  have hall := ne_colon_of_scheme hfirst hname
  have hends : Ends (· != ':') (':' :: rest) := ends_cons.2 rfl
  have htake := takeWhile_append hall hends
  have hdrop := dropWhile_append hall hends
  rw [List.cons_append] at htake hdrop
  rw [takeScheme, htake, hdrop]
  simp only [hfirst, List.all_eq_true.2 hname, Bool.and_self, if_true]

/-- What is taken for a scheme is one, or the default with nothing taken. -/
theorem of_takeScheme (default t : Text) :
    Schemed t (takeScheme default t).1 (takeScheme default t).2 ∨ takeScheme default t = (default, t) := by
  unfold takeScheme
  split
  · rename_i first name mark rest htake hdrop
    split
    · rename_i h
      rw [Bool.and_eq_true, List.all_eq_true] at h
      have hmark : mark = ':' := by
        have h := List.head?_dropWhile_not (· != ':') t
        rw [hdrop] at h
        simpa using h
      refine .inl ⟨first, name, ?_, h.1, h.2, rfl⟩
      rw [← hmark, ← hdrop]
      have happend := List.takeWhile_append_dropWhile (p := (· != ':')) (l := t)
      rw [htake] at happend
      exact happend.symm
    · exact .inr rfl
  · exact .inr rfl

/-- A scheme is read whatever follows. -/
theorem Schemed.append {t scheme rest : Text} (h : Schemed t scheme rest) (more : Text) : Schemed (t ++ more) scheme (rest ++ more) := by
  obtain ⟨first, name, rfl, hfirst, hname, rfl⟩ := h
  exact ⟨first, name, by simp, hfirst, hname, rfl⟩

theorem Schemed.ne_nil {t scheme rest : Text} (h : Schemed t scheme rest) : t ≠ [] := by
  obtain ⟨first, name, rfl, -⟩ := h
  exact List.cons_ne_nil _ _

theorem Schemed.mem {t scheme rest : Text} (h : Schemed t scheme rest) {c : Char} (hc : c ∈ rest) : c ∈ t := by
  obtain ⟨first, name, rfl, -⟩ := h
  exact List.mem_cons_of_mem _ (List.mem_append_right _ (List.mem_cons_of_mem _ hc))

/-- What comes after a scheme ends as the text does, unless that ends with the colon. -/
theorem Schemed.getLast?_eq {t scheme rest : Text} (h : Schemed t scheme rest) {c : Char} (hc : c ≠ ':') (hlast : t.getLast? = some c) :
    rest.getLast? = some c := by
  obtain ⟨first, name, rfl, -⟩ := h
  rw [← List.cons_append, List.getLast?_append, List.getLast?_cons, Option.some_or] at hlast
  cases hrest : rest.getLast? with
  | none =>
    rw [hrest] at hlast
    exact absurd (Option.some.inj hlast).symm hc
  | some d =>
    rw [hrest] at hlast
    exact hlast

/-! ## The other parts -/

/-- Two slashes and the host, and what is left after them, or no slashes and no host. -/
theorem of_takeHost (t : Text) :
    (t = "//" ++ ((takeHost t).1 ++ (takeHost t).2) ∧ Ends (!endsHost ·) (takeHost t).2 ∨ (takeHost t).1 = [] ∧ (takeHost t).2 = t) ∧
      ∀ c ∈ (takeHost t).1, endsHost c = false := by
  unfold takeHost
  split
  · rename_i t
    refine ⟨.inl ⟨?_, ends_dropWhile _ _⟩, fun c hc => by simpa using List.mem_takeWhile_imp hc⟩
    rw [List.takeWhile_append_dropWhile]
    rfl
  · exact ⟨.inr ⟨rfl, rfl⟩, List.forall_mem_nil _⟩

/-- The last part of a path: what stands after its last slash. -/
theorem exists_last (path : Text) :
    ∃ before, path = before ++ (path.reverse.takeWhile (· != '/')).reverse ∧
      path.take (path.length - (path.reverse.takeWhile (· != '/')).reverse.length) = before := by
  have h : path = (path.reverse.dropWhile (· != '/')).reverse ++ (path.reverse.takeWhile (· != '/')).reverse := by
    rw [← List.reverse_append, List.takeWhile_append_dropWhile, List.reverse_reverse]
  refine ⟨_, h, ?_⟩
  generalize (path.reverse.takeWhile (· != '/')).reverse = last at h ⊢
  generalize (path.reverse.dropWhile (· != '/')).reverse = before at h
  subst h
  rw [List.length_append, Nat.add_sub_cancel, List.take_left]

theorem of_takeParameters (path : Text) :
    (∃ u, path = (takeParameters path).1 ++ u ∧ After ';' u (takeParameters path).2) ∧ '/' ∉ (takeParameters path).2 := by
  obtain ⟨before, hpath, hbefore⟩ := exists_last path
  have hlast : '/' ∉ (path.reverse.takeWhile (· != '/')).reverse := by
    intro h
    have hne := List.mem_takeWhile_imp (List.mem_reverse.1 h)
    simp at hne
  unfold takeParameters
  dsimp only
  rw [hbefore]
  generalize (path.reverse.takeWhile (· != '/')).reverse = last at hpath hlast ⊢
  cases h : breakOn ';' last with
  | none => exact ⟨⟨[], (List.append_nil path).symm, .nothing⟩, List.not_mem_nil⟩
  | some r =>
    obtain ⟨name, parameters⟩ := r
    have hsplit := of_breakOn h
    refine ⟨⟨';' :: parameters, by rw [hpath, hsplit, List.append_assoc], .mark parameters⟩, fun hmem => hlast ?_⟩
    rw [hsplit]
    exact List.mem_append_right _ (List.mem_cons_of_mem _ hmem)

/-- A text writes the parts of an address that come after the scheme. -/
structure Written (t : Text) (a : Address) : Prop where
  spelled : ∃ rest parameters query fragment,
    (t = "//" ++ (a.host ++ rest) ∧ Ends (!endsHost ·) rest ∨ a.host = [] ∧ rest = t) ∧
      rest = a.path ++ (parameters ++ (query ++ fragment)) ∧
      After ';' parameters a.parameters ∧ After '?' query a.query ∧ After '#' fragment a.fragment
  host : ∀ c ∈ a.host, endsHost c = false
  path : '?' ∉ a.path ∧ '#' ∉ a.path
  parameters : '/' ∉ a.parameters

/-- What is read of a text is written in it. -/
theorem of_read {default t : Text} {a : Address} (h : read default t = .ok a) :
    a.scheme = (takeScheme default (tidied t)).1 ∧ Written (takeScheme default (tidied t)).2 a := by
  unfold read at h
  rw [← tidied] at h
  obtain ⟨hhost, hin⟩ := of_takeHost (takeScheme default (tidied t)).2
  obtain ⟨fragment, hfragment, hafter⟩ := of_cut '#' (takeHost (takeScheme default (tidied t)).2).2
  obtain ⟨query, hquery, hafter'⟩ := of_cut '?' (cut '#' (takeHost (takeScheme default (tidied t)).2).2).1
  have hmark := not_mem_cut '#' (takeHost (takeScheme default (tidied t)).2).2
  have hmark' := not_mem_cut '?' (cut '#' (takeHost (takeScheme default (tidied t)).2).2).1
  generalize takeScheme default (tidied t) = schemed at *
  obtain ⟨scheme, t⟩ := schemed
  dsimp only at *
  generalize takeHost t = hosted at *
  obtain ⟨host, rest⟩ := hosted
  dsimp only at *
  generalize cut '#' rest = cutted at *
  obtain ⟨unmarked, ending⟩ := cutted
  dsimp only at *
  generalize cut '?' unmarked = cutted at *
  obtain ⟨path, asked⟩ := cutted
  dsimp only at *
  have hnamed : (∃ u, path = (if parameterSchemes.contains scheme = true then takeParameters path else (path, [])).1 ++ u ∧
      After ';' u (if parameterSchemes.contains scheme = true then takeParameters path else (path, [])).2) ∧
      '/' ∉ (if parameterSchemes.contains scheme = true then takeParameters path else (path, [])).2 := by
    split
    · exact of_takeParameters path
    · exact ⟨⟨[], (List.append_nil path).symm, .nothing⟩, List.not_mem_nil⟩
  generalize (if parameterSchemes.contains scheme = true then takeParameters path else (path, [])) = named at h hnamed
  obtain ⟨way, parameters⟩ := named
  obtain ⟨⟨u, rfl, hu⟩, hslash⟩ := hnamed
  split at h
  · cases h
  · cases h
    subst hquery
    subst hfragment
    simp only [List.mem_append, not_or, List.append_assoc] at hmark hmark' hhost
    exact ⟨rfl, ⟨⟨_, u, query, fragment, hhost, rfl, hu, hafter', hafter⟩, hin, ⟨hmark'.1, hmark.1⟩, hslash⟩⟩

theorem fault?_of_read {default t : Text} {a : Address} (h : read default t = .ok a) : Host.fault? a.host = none := by
  unfold read at h
  dsimp only at h
  split at h
  · cases h
  · rename_i hfault
    cases h
    exact hfault

/-- An address with a scheme and a host, without marks of queries and fragments, is read. -/
theorem exists_read_eq (default : Text) {t scheme host rest : Text} (hscheme : Schemed (tidied t) scheme ("//" ++ (host ++ rest)))
    (hhost : ∀ c ∈ host, endsHost c = false) (hends : Ends (!endsHost ·) rest) (hquery : '?' ∉ rest) (hfragment : '#' ∉ rest)
    (hfault : Host.fault? host = none) : ∃ path parameters, read default t = .ok ⟨scheme, host, path, parameters, [], []⟩ := by
  have htaken : takeHost ("//" ++ (host ++ rest)) = (host, rest) := by
    have hall : ∀ c ∈ host, (!endsHost c) = true := fun c hc => by rw [hhost c hc]; rfl
    show ((host ++ rest).takeWhile (!endsHost ·), (host ++ rest).dropWhile (!endsHost ·)) = _
    rw [takeWhile_append hall hends, dropWhile_append hall hends]
  unfold read
  rw [← tidied, takeScheme_of_schemed hscheme]
  dsimp only
  rw [htaken]
  dsimp only
  rw [cut_of_not_mem hfragment]
  dsimp only
  rw [cut_of_not_mem hquery]
  dsimp only
  rw [hfault]
  exact ⟨_, _, rfl⟩

end Address

end Flashcards
