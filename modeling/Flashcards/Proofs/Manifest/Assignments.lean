import Flashcards.Manifest
import Flashcards.Proofs.Json.Values
import Flashcards.Proofs.Text.Replacing
import Flashcards.Proofs.Text.Runs

/-!
# Manifests that are assigned

A manifest may be written as a script that assigns its object to a variable. The object is cut out between the brace that follows the sign of
equality and the last brace of the script, whatever stands between them. That these are the braces of the object follows from where an object
that is written begins and ends (`Json.read_object`). So a script of any layout is read as what it assigns, and what it assigns is not taken
for a script (`Manifest.read_assignment`).
-/

namespace Flashcards

open Text

/-- The layout of a script that assigns something to a variable, or to a property of the window. -/
structure Assignment where
  start : Text
  ofWindow : Bool
  name : Text
  beforeSign : Text
  afterSign : Text
  afterValue : Text
  semicolon : Bool
  atEnd : Text
  name_ne_nil : name ≠ []
  isWord_name : ∀ c ∈ name, isWord c = true
  isBlank_start : ∀ c ∈ start, isBlank c = true
  isBlank_beforeSign : ∀ c ∈ beforeSign, isBlank c = true
  isBlank_afterSign : ∀ c ∈ afterSign, isBlank c = true
  isBlank_afterValue : ∀ c ∈ afterValue, isBlank c = true
  isBlank_atEnd : ∀ c ∈ atEnd, isBlank c = true

namespace Assignment

/-- The variable of an assignment as it is written. -/
def target (a : Assignment) : Text := if a.ofWindow then "window." ++ a.name else a.name

/-- What stands after the value in a script. -/
def tail (a : Assignment) : Text := a.afterValue ++ (if a.semicolon then [';'] else []) ++ a.atEnd

/-- The script of this layout that assigns a text. -/
def script (a : Assignment) (value : Text) : Text :=
  a.start ++ a.target ++ a.beforeSign ++ ['='] ++ a.afterSign ++ value ++ a.tail

end Assignment

/-! ## Blanks and words -/

namespace Text

/-- The code points of the blanks. -/
def blankCodes : List Nat :=
  [9, 10, 11, 12, 13, 28, 29, 30, 31, 32, 0x85, 0xA0, 0x1680, 0x2000, 0x2001, 0x2002, 0x2003, 0x2004, 0x2005, 0x2006, 0x2007, 0x2008, 0x2009,
    0x200A, 0x2028, 0x2029, 0x202F, 0x205F, 0x3000]

theorem mem_blankCodes {c : Char} (h : isBlank c = true) : c.toNat ∈ blankCodes := by
  simp only [isBlank, Bool.or_eq_true, Bool.and_eq_true, decide_eq_true_eq, beq_iff_eq] at h
  simp only [blankCodes, List.mem_cons, List.not_mem_nil, or_false]
  omega

/-- No blank is in a word. -/
theorem isWord_of_isBlank {c : Char} (h : isBlank c = true) : isWord c = false := by
  have hcodes : ∀ n ∈ blankCodes, alphanumericRanges.holds n = false ∧ n ≠ '_'.toNat := by decide +kernel
  obtain ⟨hholds, hne⟩ := hcodes _ (mem_blankCodes h)
  rw [isWord, isAlphanumeric, hholds, Bool.or_false]
  refine beq_false_of_ne ?_
  rintro rfl
  exact hne rfl

theorem isBlank_of_isWord {c : Char} (h : isWord c = true) : isBlank c = false := by
  rw [Bool.eq_false_iff]
  intro hblank
  rw [isWord_of_isBlank hblank] at h
  cases h

theorem isBlank_of_isJsonBlank {c : Char} (h : isJsonBlank c = true) : isBlank c = true := by
  simp only [isJsonBlank, Bool.or_eq_true, beq_iff_eq] at h
  obtain ((rfl | rfl) | rfl) | rfl := h <;> decide

end Text

namespace Assignment

variable (a : Assignment)

/-! ## What is cut out -/

/-- The name of the variable is taken for a word, and not for the window. -/
theorem dropPrefix?_name (rest : Text) (hrest : Ends (· == '.') rest) (hends : Ends isWord rest) :
    dropPrefix? "window." (a.name ++ rest) = none := by
  rw [← Option.not_isSome_iff_eq_none, Option.isSome_iff_exists]
  rintro ⟨rest', h⟩
  have heq : a.name ++ rest = "window" ++ '.' :: rest' := (dropPrefix?_eq_some_iff.1 h).trans rfl
  have hdrop : rest = '.' :: rest' := by
    have hword : ∀ c ∈ "window".toList, isWord c = true := List.all_eq_true.1 (by decide +kernel)
    have h := congrArg (List.dropWhile isWord) heq
    rwa [dropWhile_append a.isWord_name hends, dropWhile_append hword (ends_cons.2 (by decide +kernel))] at h
  rw [hdrop] at hrest
  exact absurd (ends_cons.1 hrest) (by decide)

/-- The target is taken for a variable, and what follows it is left. -/
theorem named_target (rest : Text) (hrest : Ends (· == '.') rest) (hends : Ends isWord rest) :
    (dropPrefix? "window." (a.target ++ rest)).getD (a.target ++ rest) = a.name ++ rest := by
  unfold target
  split
  · rw [List.append_assoc, dropPrefix?_eq_some_iff.2 rfl]
    rfl
  · rw [a.dropPrefix?_name rest hrest hends]
    rfl

theorem ends_target {p : Char → Bool} (hp : ∀ c, isWord c = true → p c = false) (rest : Text) : Ends p (a.target ++ rest) := by
  obtain ⟨c, t, hname⟩ := List.exists_cons_of_ne_nil a.name_ne_nil
  have hc : isWord c = true := a.isWord_name c (by rw [hname]; exact List.mem_cons_self)
  unfold target
  split
  · exact ends_cons.2 (hp 'w' (by decide +kernel))
  · rw [hname]
    exact ends_cons.2 (hp c hc)

theorem ends_beforeSign {p : Char → Bool} (hp : ∀ c, isBlank c = true → p c = false) (hsign : p '=' = false) (rest : Text) :
    Ends p (a.beforeSign ++ '=' :: rest) := by
  cases h : a.beforeSign with
  | nil => exact ends_cons.2 hsign
  | cons c t => exact ends_cons.2 (hp c (a.isBlank_beforeSign c (by rw [h]; exact List.mem_cons_self)))

end Assignment

namespace Manifest

variable (a : Assignment)

/-- The value of an assignment is found at its brace. -/
theorem afterAssignment?_script {before value : Text} (hbefore : ∀ c ∈ before, isBlank c = true) (hopen : value.head? = some '\x7b') :
    afterAssignment? (a.script (before ++ value)) = some (value ++ a.tail) := by
  have hscript : a.script (before ++ value) =
      a.start ++ (a.target ++ (a.beforeSign ++ '=' :: ((a.afterSign ++ before) ++ (value ++ a.tail)))) := by
    simp [Assignment.script]
  obtain ⟨value, rfl⟩ := List.head?_eq_some_iff.1 hopen
  have hblank : ∀ c ∈ a.afterSign ++ before, isBlank c = true := by
    intro c hc
    rcases List.mem_append.1 hc with hc | hc
    · exact a.isBlank_afterSign c hc
    · exact hbefore c hc
  have hends : Ends isBlank ('\x7b' :: value ++ a.tail) := ends_cons.2 (by decide)
  have hword := a.ends_beforeSign (fun _ => isWord_of_isBlank) (by decide +kernel) ((a.afterSign ++ before) ++ ('\x7b' :: value ++ a.tail))
  have hpoint : Ends (· == '.') (a.beforeSign ++ '=' :: ((a.afterSign ++ before) ++ ('\x7b' :: value ++ a.tail))) := by
    refine a.ends_beforeSign (fun c hc => beq_false_of_ne ?_) (by decide) _
    rintro rfl
    cases hc
  have hname : a.name.isEmpty = false := List.isEmpty_eq_false_iff.2 a.name_ne_nil
  rw [hscript, afterAssignment?, dropWhile_append a.isBlank_start (a.ends_target (fun _ => isBlank_of_isWord) _)]
  simp only [a.named_target _ hpoint hword, takeWhile_append a.isWord_name hword, dropWhile_append a.isWord_name hword, hname,
    dropWhile_append a.isBlank_beforeSign (ends_cons.2 (by decide : isBlank '=' = false)), dropWhile_append hblank hends]
  rfl

/-- What stands after the value is dropped. -/
theorem dropSemicolon_tail {value after : Text} (hafter : ∀ c ∈ after, isBlank c = true) (hclose : value.getLast? = some '\x7d') :
    dropSemicolon (value ++ (after ++ a.tail)) = value := by
  have hvalue : ∀ c, value.getLast? = some c → isBlank c = false := by
    intro c hc
    obtain rfl := Option.some.inj (hclose.symm.trans hc)
    decide
  have hblank : ∀ c ∈ after ++ a.afterValue, isBlank c = true := by
    intro c hc
    rcases List.mem_append.1 hc with hc | hc
    · exact hafter c hc
    · exact a.isBlank_afterValue c hc
  rw [dropSemicolon, Assignment.tail]
  split
  · have hend : ∀ c, (value ++ ((after ++ a.afterValue) ++ [';'])).getLast? = some c → isBlank c = false := by
      intro c hc
      rw [← List.append_assoc, List.getLast?_concat] at hc
      obtain rfl := Option.some.inj hc
      decide
    have hsplit : value ++ (after ++ (a.afterValue ++ [';'] ++ a.atEnd)) = value ++ ((after ++ a.afterValue) ++ [';']) ++ a.atEnd := by simp
    rw [hsplit, trimEnd_append hend a.isBlank_atEnd]
    simp only [← List.append_assoc, List.getLast?_concat, List.dropLast_concat, if_true]
    rw [List.append_assoc, trimEnd_append hvalue hblank]
  · have hblank' : ∀ c ∈ after ++ (a.afterValue ++ [] ++ a.atEnd), isBlank c = true := by
      intro c hc
      rw [List.append_nil, ← List.append_assoc] at hc
      rcases List.mem_append.1 hc with hc | hc
      · exact hblank c hc
      · exact a.isBlank_atEnd c hc
    rw [trimEnd_append hvalue hblank']
    simp [hclose]

theorem assigned?_script {before value after : Text} (hbefore : ∀ c ∈ before, isBlank c = true) (hafter : ∀ c ∈ after, isBlank c = true)
    (hopen : value.head? = some '\x7b') (hclose : value.getLast? = some '\x7d') :
    assigned? (a.script (before ++ (value ++ after))) = some value := by
  have hhead : (value ++ after).head? = some '\x7b' := by
    rw [List.head?_append, hopen]
    rfl
  rw [assigned?, afterAssignment?_script a hbefore hhead]
  simp only [List.append_assoc, dropSemicolon_tail a hafter hclose, hclose, if_true]

/-- What begins with a brace is no script. -/
theorem assigned?_of_brace {before value : Text} (hbefore : ∀ c ∈ before, isBlank c = true) (hopen : value.head? = some '\x7b') :
    assigned? (before ++ value) = none := by
  obtain ⟨value, rfl⟩ := List.head?_eq_some_iff.1 hopen
  have hends : Ends isBlank ('\x7b' :: value) := ends_cons.2 (by decide)
  have hword : ('\x7b' :: value).takeWhile isWord = [] := List.takeWhile_cons_of_neg (by decide +kernel)
  have hwindow : (dropPrefix? "window." ('\x7b' :: value)).getD ('\x7b' :: value) = '\x7b' :: value := rfl
  rw [assigned?, afterAssignment?, dropWhile_append hbefore hends]
  simp only [hwindow, hword, List.isEmpty_nil, if_true]

/-- A manifest that writes an object is read as this object is, and so is every script that assigns it: with or without the window in front of
the word that names the variable, with any blanks around the words and signs, and with or without a semicolon. -/
theorem read_assignment (a : Assignment) {t : Text} {entries : List (Text × Json)} (h : Json.read t = .ok (.object entries)) :
    read (a.script t) = read t ∧ read t = DeckNode.ofJson [] (.object entries) := by
  obtain ⟨before, value, after, rfl, hbefore, hafter, hopen, hclose, hvalue⟩ := Json.read_object h
  have hbefore' : ∀ c ∈ before, isBlank c = true := fun c hc => isBlank_of_isJsonBlank (hbefore c hc)
  have hafter' : ∀ c ∈ after, isBlank c = true := fun c hc => isBlank_of_isJsonBlank (hafter c hc)
  have hhead : (value ++ after).head? = some '\x7b' := by
    rw [List.head?_append, hopen]
    rfl
  have hplain : read (before ++ (value ++ after)) = DeckNode.ofJson [] (.object entries) := by
    rw [read, assigned?_of_brace hbefore' hhead, Option.getD_none, h]
  have hscript : read (a.script (before ++ (value ++ after))) = DeckNode.ofJson [] (.object entries) := by
    rw [read, assigned?_script a hbefore' hafter' hopen hclose, Option.getD_some, hvalue]
  exact ⟨hscript.trans hplain.symm, hplain⟩

/-- The usual layout: a property of the window, on a line of its own that a semicolon ends. -/
def usual : Assignment where
  start := []
  ofWindow := true
  name := "deckManifest"
  beforeSign := " "
  afterSign := " "
  afterValue := []
  semicolon := true
  atEnd := "\n"
  name_ne_nil := by decide
  isWord_name := List.all_eq_true.1 (by decide +kernel)
  isBlank_start := List.forall_mem_nil _
  isBlank_beforeSign := List.all_eq_true.1 rfl
  isBlank_afterSign := List.all_eq_true.1 rfl
  isBlank_afterValue := List.forall_mem_nil _
  isBlank_atEnd := List.all_eq_true.1 rfl

/-- An object with the signs of a script in its texts, on two lines. -/
def signs : Text := "\x7b\"name\": \"\x7d; a =\",\n \"deckPath\": \"b = \x7b\x7d;\"\x7d\n"

theorem read_usual :
    ∃ entries, Json.read signs = .ok (.object entries) ∧
      usual.script signs = "window.deckManifest = \x7b\"name\": \"\x7d; a =\",\n \"deckPath\": \"b = \x7b\x7d;\"\x7d\n;\n".toList ∧
      read (usual.script signs) = read signs ∧ (read signs).toOption.map (·.name) = some "\x7d; a =".toList := by
  have hkind : (Json.read signs).toOption.map Json.kind = some .object := by decide +kernel
  cases h : Json.read signs with
  | error fault =>
    rw [h] at hkind
    cases hkind
  | ok v =>
    rw [h] at hkind
    cases v with
    | object entries => exact ⟨entries, rfl, by decide +kernel, (read_assignment usual h).1, by decide +kernel⟩
    | _ => cases hkind

end Manifest

end Flashcards
