import Flashcards.Markup.Writer
import Flashcards.Proofs.Markup.Attributes
import Flashcards.Proofs.Markup.Tags

/-!
# Attributes as they are written

The attributes of an element are written sorted by name, and those that declare a character set name the one that is written in. When they are
read again they are those attributes (`attributesOf_rawAttributes`), and once they have been written they are written again as they are
(`declareCharset_sorted`, `sortByName_sortByName`).
-/

namespace Flashcards.Markup

open Text

/-! ## Order -/

theorem before_asymm {t u : Text} (h : before t u = true) : before u t = false := by
  induction t generalizing u with
  | nil => cases u <;> rfl
  | cons c t ih =>
    cases u with
    | nil => cases h
    | cons d u =>
      unfold before at h ⊢
      by_cases hcd : c = d
      · rw [if_pos hcd] at h
        rw [if_pos hcd.symm]
        exact ih h
      · rw [if_neg hcd, decide_eq_true_eq] at h
        rw [if_neg (Ne.symm hcd), decide_eq_false_iff_not]
        exact fun h' => absurd (Nat.lt_trans h h') (Nat.lt_irrefl _)

/-- Attributes each of which does not come before the one in front of it. -/
def Ascending : Attributes → Prop
  | a :: b :: bs => before b.1 a.1 = false ∧ Ascending (b :: bs)
  | _ => True

theorem ascending_insertByName (a : Text × AttributeValue) {as : Attributes} (h : Ascending as) : Ascending (insertByName a as) := by
  induction as with
  | nil => exact True.intro
  | cons b bs ih =>
    unfold insertByName
    split
    · rename_i hb
      cases bs with
      | nil => exact ⟨before_asymm hb, True.intro⟩
      | cons c cs =>
        have hrest := ih h.2
        unfold insertByName at hrest ⊢
        split at hrest
        · rename_i hc
          rw [if_pos hc]
          exact ⟨h.1, hrest⟩
        · rename_i hc
          rw [if_neg hc]
          exact ⟨before_asymm hb, hrest⟩
    · rename_i hb
      exact ⟨eq_false_of_ne_true hb, h⟩

theorem ascending_sortByName (as : Attributes) : Ascending (sortByName as) := by
  induction as with
  | nil => exact True.intro
  | cons a as ih => exact ascending_insertByName a ih

theorem sortByName_of_ascending {as : Attributes} (h : Ascending as) : sortByName as = as := by
  induction as with
  | nil => rfl
  | cons a as ih =>
    show insertByName a (sortByName as) = _
    cases as with
    | nil => rfl
    | cons b bs =>
      rw [ih h.2, insertByName, if_neg (by rw [h.1]; exact Bool.false_ne_true)]

/-- Attributes that are sorted stay as they are. -/
theorem sortByName_sortByName (as : Attributes) : sortByName (sortByName as) = sortByName as :=
  sortByName_of_ascending (ascending_sortByName as)

theorem perm_insertByName (a : Text × AttributeValue) (as : Attributes) : (insertByName a as).Perm (a :: as) := by
  induction as with
  | nil => exact .refl _
  | cons b bs ih =>
    unfold insertByName
    split
    · exact (ih.cons b).trans (.swap a b bs)
    · exact .refl _

theorem perm_sortByName (as : Attributes) : (sortByName as).Perm as := by
  induction as with
  | nil => exact .refl _
  | cons a as ih => exact (perm_insertByName a (sortByName as)).trans (ih.cons a)

theorem find?_cons (name : Text) (a : Text × AttributeValue) (as : Attributes) :
    Attributes.find? name (a :: as) = if a.1 = name then some a.2 else as.find? name := rfl

theorem find?_insertByName {a : Text × AttributeValue} {as : Attributes} (h : a.1 ∉ as.map (·.1)) (name : Text) :
    (insertByName a as).find? name = Attributes.find? name (a :: as) := by
  induction as with
  | nil => rfl
  | cons b bs ih =>
    rw [List.map_cons, List.mem_cons, not_or] at h
    unfold insertByName
    split
    · rw [find?_cons, ih h.2, find?_cons, find?_cons, find?_cons]
      by_cases ha : a.1 = name
      · rw [if_pos ha, if_neg (fun hb => h.1 (ha.trans hb.symm)), if_pos ha]
      · rw [if_neg ha, if_neg ha]
    · rfl

/-- Each attribute is found among the sorted ones as it was. -/
theorem find?_sortByName {as : Attributes} (h : (as.map (·.1)).Nodup) (name : Text) : (sortByName as).find? name = as.find? name := by
  induction as with
  | nil => rfl
  | cons a as ih =>
    rw [List.map_cons, List.nodup_cons] at h
    have hnew : a.1 ∉ (sortByName as).map (·.1) := by
      rw [((perm_sortByName as).map (·.1)).mem_iff]
      exact h.1
    show (insertByName a (sortByName as)).find? name = _
    rw [find?_insertByName hnew, find?_cons, find?_cons, ih h.2]

/-! ## The character set in a value -/

theorem startsWith_cons (p : Char) (ps : Text) (c : Char) (t : Text) : startsWith (p :: ps) (c :: t) = (p == c && startsWith ps t) := by
  unfold startsWith
  rw [dropPrefix?]
  split
  · rename_i h
    rw [h, beq_self_eq_true, Bool.true_and]
  · rename_i h
    rw [beq_eq_false_iff_ne.2 h]
    rfl

/-- What stands before the rest of a text. -/
theorem take_of_append {t p rest : Text} (h : t = p ++ rest) : t.take (t.length - rest.length) = p := by
  have hlength : t.length - rest.length = p.length := by
    rw [h, List.length_append]
    omega
  rw [hlength, h, List.take_left]

/-- Whether a character set is declared behind blanks at the start of a text. -/
def declares (t : Text) : Bool := startsWith "charset=" (t.dropWhile isBlank)

/-- The blanks and the words with which a character set is declared, before any text. -/
theorem exists_of_declares {t : Text} (h : declares t = true) : ∃ key rest, t = key ++ rest ∧ key ≠ [] ∧
    ∀ s, dropPrefix? "charset=" ((key ++ s).dropWhile isBlank) = some s := by
  obtain ⟨rest, hrest⟩ := Option.isSome_iff_exists.1 h
  refine ⟨t.takeWhile isBlank ++ "charset=", rest, ?_, List.append_ne_nil_of_right_ne_nil _ (List.cons_ne_nil _ _), fun s => ?_⟩
  · rw [List.append_assoc, ← dropPrefix?_eq_some_iff.1 hrest, List.takeWhile_append_dropWhile]
  · rw [List.append_assoc, List.dropWhile_append_of_pos (List.all_eq_true.1 List.all_takeWhile)]
    exact dropPrefix?_eq_some_iff.2 rfl

theorem dropPrefix?_of_not_declares {t : Text} (h : ¬declares t = true) : dropPrefix? "charset=" (t.dropWhile isBlank) = none := by
  unfold declares startsWith at h
  rw [Option.isSome_iff_ne_none, ne_eq, Decidable.not_not] at h
  exact h

theorem not_declares_semicolon (t : Text) : ¬declares (';' :: t) = true := fun h => by cases h

/-- A character set is declared at the start of a line, or behind a semicolon. -/
def DeclaresAt (lineStart : Bool) (t : Text) : Prop := lineStart = true ∧ declares t = true ∨ ∃ s, t = ';' :: s ∧ declares s = true

theorem charsetKey?_of_not_declaresAt {lineStart : Bool} {t : Text} (h : ¬DeclaresAt lineStart t) : charsetKey? lineStart t = none := by
  unfold DeclaresAt at h
  rw [not_or] at h
  have hline : (if lineStart = true then dropPrefix? "charset=" (t.dropWhile isBlank) else none) = none := by
    split
    · rename_i hl
      exact dropPrefix?_of_not_declares fun ht => h.1 ⟨hl, ht⟩
    · rfl
  unfold charsetKey?
  dsimp only
  rw [hline]
  dsimp only
  split
  · rename_i s
    rw [dropPrefix?_of_not_declares fun hs => h.2 ⟨s, rfl, hs⟩]
    rfl
  · rfl

/-- What is kept of a parameter that declares a character set does not depend on what follows. -/
theorem exists_charsetKey? {lineStart : Bool} {t : Text} (h : DeclaresAt lineStart t) :
    ∃ key rest, t = key ++ rest ∧ key ≠ [] ∧ ∀ s, charsetKey? lineStart (key ++ s) = some key := by
  rcases h with ⟨rfl, h⟩ | ⟨s, rfl, h⟩
  · obtain ⟨key, rest, ht, hne, hkey⟩ := exists_of_declares h
    refine ⟨key, rest, ht, hne, fun s => ?_⟩
    unfold charsetKey?
    dsimp only
    rw [if_pos rfl, hkey]
    dsimp only
    rw [take_of_append rfl]
  · obtain ⟨key, rest, rfl, -, hkey⟩ := exists_of_declares h
    refine ⟨';' :: key, rest, rfl, List.cons_ne_nil _ _, fun s => ?_⟩
    have hline : (if lineStart = true then dropPrefix? "charset=" ((';' :: (key ++ s)).dropWhile isBlank) else none) = none := by
      split <;> rfl
    unfold charsetKey?
    dsimp only
    rw [List.cons_append, hline]
    show (dropPrefix? "charset=" ((key ++ s).dropWhile isBlank)).map _ = _
    rw [hkey, Option.map_some]
    exact congrArg some (take_of_append (p := ';' :: key) rfl)

/-- The end of a parameter. -/
def EndsParameter (t : Text) : Prop := t = [] ∨ ∃ s, t = ';' :: s

theorem replaceCharsetFrom_of_not_declaresAt {lineStart : Bool} {c : Char} {t : Text} (h : ¬DeclaresAt lineStart (c :: t)) :
    replaceCharsetFrom 0 lineStart (c :: t) = c :: replaceCharsetFrom 0 (c == '\n') t := by
  rw [replaceCharsetFrom, charsetKey?_of_not_declaresAt h]

/-- Behind what has been dealt with, the text goes on at the start of a line or not. -/
theorem exists_replaceCharsetFrom (u v : Text) (lineStart : Bool) :
    ∃ lineStart', replaceCharsetFrom u.length lineStart (u ++ v) = replaceCharsetFrom 0 lineStart' v := by
  induction u generalizing lineStart with
  | nil => exact ⟨lineStart, rfl⟩
  | cons c u ih => exact ih (c == '\n')

/-- Where a parameter ends it does not matter whether a line begins. -/
theorem replaceCharsetFrom_of_endsParameter {t : Text} (h : EndsParameter t) (lineStart : Bool) :
    replaceCharsetFrom 0 lineStart t = replaceCharsetFrom 0 false t := by
  rcases h with rfl | ⟨s, rfl⟩
  · rfl
  · have hkey : charsetKey? lineStart (';' :: s) = charsetKey? false (';' :: s) := by
      cases lineStart <;> rfl
    rw [replaceCharsetFrom, replaceCharsetFrom, hkey]

/-- A character set that is declared is replaced up to the end of its parameter. -/
theorem replaceCharsetFrom_append {lineStart : Bool} {key old rest : Text} (hne : key ≠ [])
    (hkey : ∀ s, charsetKey? lineStart (key ++ s) = some key) (hold : ∀ c ∈ old, (c != ';') = true) (hrest : EndsParameter rest) :
    replaceCharsetFrom 0 lineStart (key ++ (old ++ rest)) = key ++ (writtenCharset ++ replaceCharsetFrom 0 false rest) := by
  obtain ⟨c, key, rfl⟩ := List.exists_cons_of_ne_nil hne
  have htake : (old ++ rest).takeWhile (· != ';') = old := by
    rw [List.takeWhile_append_of_pos hold]
    rcases hrest with rfl | ⟨s, rfl⟩
    · exact List.append_nil old
    · rw [List.takeWhile_cons_of_neg (by decide), List.append_nil]
  have hdrop : ((c :: key) ++ (old ++ rest)).drop (c :: key).length = old ++ rest := List.drop_left
  have hwhole := hkey (old ++ rest)
  rw [List.cons_append] at hdrop hwhole ⊢
  rw [replaceCharsetFrom, hwhole]
  dsimp only
  rw [hdrop, htake]
  obtain ⟨lineStart', hskip⟩ := exists_replaceCharsetFrom (key ++ old) rest (c == '\n')
  have hlength : (c :: key).length + old.length - 1 = (key ++ old).length := by
    simp only [List.length_cons, List.length_append]
    omega
  rw [hlength, ← List.append_assoc key, hskip, replaceCharsetFrom_of_endsParameter hrest, List.append_assoc]

/-- A text in which a character set is declared at the start falls into what is kept, the old name, and the rest. -/
theorem exists_of_declaresAt {lineStart : Bool} {t : Text} (h : DeclaresAt lineStart t) :
    ∃ key old rest, t = key ++ (old ++ rest) ∧ key ≠ [] ∧ (∀ s, charsetKey? lineStart (key ++ s) = some key) ∧
      EndsParameter rest ∧ replaceCharsetFrom 0 lineStart t = key ++ (writtenCharset ++ replaceCharsetFrom 0 false rest) := by
  obtain ⟨key, rest, rfl, hne, hkey⟩ := exists_charsetKey? h
  have hsplit : rest = rest.takeWhile (· != ';') ++ rest.dropWhile (· != ';') := List.takeWhile_append_dropWhile.symm
  have hend : EndsParameter (rest.dropWhile (· != ';')) := by
    cases hd : rest.dropWhile (· != ';') with
    | nil => exact .inl rfl
    | cons c s =>
      have hc := List.head_dropWhile_not (p := (· != ';')) (l := rest) (by rw [hd]; exact List.cons_ne_nil c s)
      simp only [hd, List.head_cons, bne_eq_false_iff_eq] at hc
      exact .inr ⟨s, by rw [hc]⟩
  have hwhole := replaceCharsetFrom_append hne hkey (List.all_eq_true.1 (List.all_takeWhile (p := (· != ';')) (l := rest))) hend
  rw [← hsplit] at hwhole
  exact ⟨key, rest.takeWhile (· != ';'), rest.dropWhile (· != ';'), by rw [← hsplit], hne, hkey, hend, hwhole⟩

theorem endsParameter_replaceCharsetFrom {t : Text} (h : EndsParameter t) (lineStart : Bool) :
    EndsParameter (replaceCharsetFrom 0 lineStart t) := by
  rcases h with rfl | ⟨s, rfl⟩
  · exact .inl rfl
  · by_cases hd : DeclaresAt lineStart (';' :: s)
    · obtain ⟨key, old, rest, ht, hne, -, -, hreplace⟩ := exists_of_declaresAt hd
      obtain ⟨c, key, rfl⟩ := List.exists_cons_of_ne_nil hne
      rw [hreplace, ← (List.cons.inj ht).1]
      exact .inr ⟨_, rfl⟩
    · rw [replaceCharsetFrom_of_not_declaresAt hd]
      exact .inr ⟨_, rfl⟩

/-- Within a word nothing is replaced. -/
theorem startsWith_of_replaceCharsetFrom {p : Text} (hp : ∀ c ∈ p, c ≠ ';' ∧ c ≠ '\n') {t : Text}
    (h : startsWith p (replaceCharsetFrom 0 false t) = true) : startsWith p t = true := by
  induction p generalizing t with
  | nil => rfl
  | cons d p ih =>
    rw [List.forall_mem_cons] at hp
    cases t with
    | nil => exact h
    | cons c t =>
      by_cases hd : DeclaresAt false (c :: t)
      · -- The parameter begins with a semicolon, which is kept.
        rcases hd with ⟨hfalse, -⟩ | ⟨s, hs, -⟩
        · cases hfalse
        · rw [hs] at h
          rcases endsParameter_replaceCharsetFrom (.inr ⟨s, rfl⟩) false with hnil | ⟨u, hu⟩
          · rw [hnil] at h
            cases h
          · rw [hu, startsWith_cons, beq_eq_false_iff_ne.2 hp.1.1] at h
            cases h
      · rw [replaceCharsetFrom_of_not_declaresAt hd, startsWith_cons, Bool.and_eq_true, beq_iff_eq] at h
        obtain ⟨rfl, h⟩ := h
        rw [beq_eq_false_iff_ne.2 hp.1.2] at h
        rw [startsWith_cons, beq_self_eq_true, Bool.true_and]
        exact ih hp.2 h

/-- No character set comes to be declared where one is replaced. -/
theorem declares_of_replaceCharsetFrom {lineStart : Bool} {t : Text} (h : declares (replaceCharsetFrom 0 lineStart t) = true) :
    declares t = true := by
  induction t generalizing lineStart with
  | nil => exact h
  | cons c t ih =>
    by_cases hd : DeclaresAt lineStart (c :: t)
    · rcases hd with ⟨-, hdeclares⟩ | ⟨s, hs, -⟩
      · exact hdeclares
      · rw [hs] at h
        rcases endsParameter_replaceCharsetFrom (.inr ⟨s, rfl⟩) lineStart with hnil | ⟨u, hu⟩
        · rw [hnil] at h
          cases h
        · rw [hu] at h
          exact absurd h (not_declares_semicolon u)
    · rw [replaceCharsetFrom_of_not_declaresAt hd] at h
      unfold declares at h ⊢
      by_cases hblank : isBlank c = true
      · rw [List.dropWhile_cons_of_pos hblank] at h ⊢
        exact ih h
      · rw [List.dropWhile_cons_of_neg hblank] at h ⊢
        show startsWith ('c' :: "harset=") (c :: t) = true
        have h : startsWith ('c' :: "harset=") (c :: replaceCharsetFrom 0 (c == '\n') t) = true := h
        rw [startsWith_cons, Bool.and_eq_true, beq_iff_eq] at h ⊢
        obtain ⟨rfl, h⟩ := h
        refine ⟨rfl, startsWith_of_replaceCharsetFrom (fun c hc => ?_) h⟩
        have hall : (("harset=" : Text).all fun c => c != ';' && c != '\n') = true := rfl
        simpa using List.all_eq_true.1 hall c hc

/-- What has been replaced is not replaced again. -/
theorem replaceCharsetFrom_replaceCharsetFrom (lineStart : Bool) (t : Text) :
    replaceCharsetFrom 0 lineStart (replaceCharsetFrom 0 lineStart t) = replaceCharsetFrom 0 lineStart t := by
  -- Behind a parameter the text goes on at some distance, so the induction is on its length.
  induction hn : t.length using Nat.strongRecOn generalizing t lineStart with
  | _ n ih =>
    by_cases hd : DeclaresAt lineStart t
    · obtain ⟨key, old, rest, ht, hne, hkey, hrest, hreplace⟩ := exists_of_declaresAt hd
      have hlt : rest.length < n := by
        have hpos := List.length_pos_iff.2 hne
        rw [← hn, ht, List.length_append, List.length_append]
        omega
      have hcharset : ∀ c ∈ writtenCharset, (c != ';') = true := List.all_eq_true.1 rfl
      rw [hreplace, replaceCharsetFrom_append hne hkey hcharset (endsParameter_replaceCharsetFrom hrest false), ih _ hlt false rest rfl]
    · cases t with
      | nil => rfl
      | cons c t =>
        have hlt : t.length < n := by
          rw [← hn]
          exact Nat.lt_succ_self _
        have hnot : ¬DeclaresAt lineStart (c :: replaceCharsetFrom 0 (c == '\n') t) := by
          rintro (⟨hline, h⟩ | ⟨s, hs, h⟩)
          · rw [← replaceCharsetFrom_of_not_declaresAt hd] at h
            exact hd (.inl ⟨hline, declares_of_replaceCharsetFrom h⟩)
          · obtain ⟨rfl, rfl⟩ := List.cons.inj hs
            exact hd (.inr ⟨t, rfl, declares_of_replaceCharsetFrom h⟩)
        rw [replaceCharsetFrom_of_not_declaresAt hd, replaceCharsetFrom_of_not_declaresAt hnot, ih _ hlt _ t rfl]

/-! ## Attributes -/

namespace Attributes

theorem set_of_find? {name : Text} {value : AttributeValue} {as : Attributes} (h : as.find? name = some value) : as.set name value = as := by
  induction as with
  | nil => cases h
  | cons a as ih =>
    rw [find?_cons] at h
    rw [set]
    split
    · rename_i ha
      rw [if_pos ha] at h
      rw [← Option.some.inj h]
    · rename_i ha
      rw [if_neg ha] at h
      rw [ih h]

theorem mem_of_find? {name : Text} {value : AttributeValue} {as : Attributes} (h : as.find? name = some value) :
    (name, value) ∈ as := by
  induction as with
  | nil => cases h
  | cons a as ih =>
    rw [find?_cons] at h
    split at h
    · rename_i ha
      rw [← ha, ← Option.some.inj h]
      exact List.mem_cons_self
    · exact List.mem_cons_of_mem a (ih h)

end Attributes

/-- The attribute in which an element declares its character set, and the value with which it is written. -/
def declared? (name : Text) (find : Text → Option AttributeValue) : Option (Text × AttributeValue) :=
  if name = "meta" then
    if (find "charset").isSome then some ("charset", .text writtenCharset)
    else match find "http-equiv", find "content" with
      | some kind, some content =>
        if lower kind.joined = "content-type" then some ("content", .text (replaceCharsetFrom 0 true content.joined)) else none
      | _, _ => none
  else none

theorem declareCharset_eq (name : Text) (as : Attributes) : declareCharset name as =
    match declared? name (as.find? ·) with
    | some (key, value) => as.set key value
    | none => as := by
  unfold declareCharset declared?
  dsimp only
  by_cases hmeta : name = "meta"
  · rw [if_pos hmeta, if_pos hmeta]
    by_cases hcharset : (as.find? "charset").isSome = true
    · rw [if_pos hcharset, if_pos hcharset]
    · rw [if_neg hcharset, if_neg hcharset]
      cases as.find? "http-equiv" with
      | none => rfl
      | some kind =>
        cases as.find? "content" with
        | none => rfl
        | some content =>
          dsimp only
          by_cases hlower : lower kind.joined = "content-type"
          · rw [if_pos hlower, if_pos hlower]
          · rw [if_neg hlower, if_neg hlower]
  · rw [if_neg hmeta, if_neg hmeta]

/-- Where a character set is declared: in an attribute of its own, or in the content. -/
theorem declared?_cases {name : Text} {find : Text → Option AttributeValue} {key : Text} {value : AttributeValue}
    (h : declared? name find = some (key, value)) :
    name = "meta" ∧ (((find "charset").isSome = true ∧ key = "charset" ∧ value = .text writtenCharset) ∨
      (find "charset" = none ∧ key = "content" ∧ ∃ kind content, find "http-equiv" = some kind ∧ lower kind.joined = "content-type" ∧
        find "content" = some content ∧ value = .text (replaceCharsetFrom 0 true content.joined))) := by
  unfold declared? at h
  split at h
  · rename_i hmeta
    refine ⟨hmeta, ?_⟩
    split at h
    · rename_i hcharset
      obtain ⟨rfl, rfl⟩ := Prod.mk.inj (Option.some.inj h)
      exact .inl ⟨hcharset, rfl, rfl⟩
    · rename_i hcharset
      split at h
      · rename_i kind content hkind hcontent
        split at h
        · rename_i hlower
          obtain ⟨rfl, rfl⟩ := Prod.mk.inj (Option.some.inj h)
          exact .inr ⟨by simpa using hcharset, rfl, kind, content, hkind, hlower, hcontent, rfl⟩
        · cases h
      · cases h
  · cases h

/-- What has been declared so is declared so again. -/
theorem declared?_again {name : Text} {find find' : Text → Option AttributeValue} {key : Text} {value : AttributeValue}
    (h : declared? name find = some (key, value)) (hself : find' key = some value) (hother : ∀ other, other ≠ key → find' other = find other) :
    declared? name find' = some (key, value) := by
  obtain ⟨hmeta, ⟨-, rfl, rfl⟩ | ⟨hcharset, rfl, kind, content, hkind, hlower, -, rfl⟩⟩ := declared?_cases h
  · unfold declared?
    rw [if_pos hmeta, hself, Option.isSome_some, if_pos rfl]
  · unfold declared?
    rw [if_pos hmeta, hself, hother _ (by decide), hother _ (by decide), hcharset, hkind]
    dsimp only
    rw [if_pos hlower, AttributeValue.joined, replaceCharsetFrom_replaceCharsetFrom]
    rfl

theorem AttributesLegible.perm {element : Text} {as bs : Attributes} (h : AttributesLegible element as) (hp : bs.Perm as) :
    AttributesLegible element bs where
  nodup := (hp.map (·.1)).nodup_iff.2 h.nodup
  names := fun a ha => h.names a (hp.mem_iff.1 ha)
  values := fun a ha => h.values a (hp.mem_iff.1 ha)

theorem AttributesLegible.declareCharset {name : Text} {as : Attributes} (h : AttributesLegible name as) :
    AttributesLegible name (declareCharset name as) := by
  rw [declareCharset_eq]
  split
  · rename_i key value hdeclared
    obtain ⟨rfl, ⟨hcharset, rfl, rfl⟩ | ⟨-, rfl, kind, content, -, -, hcontent, rfl⟩⟩ := declared?_cases hdeclared
    · obtain ⟨value, hvalue⟩ := Option.isSome_iff_exists.1 hcharset
      exact h.set (h.names _ (Attributes.mem_of_find? hvalue)) rfl
    · exact h.set (h.names _ (Attributes.mem_of_find? hcontent)) rfl
  · exact h

/-- The attributes of an element in the order and with the values in which they are written. -/
def asWritten (name : Text) (as : Attributes) : Attributes := sortByName (declareCharset name as)

variable {name : Text} {as : Attributes}

theorem AttributesLegible.asWritten (h : AttributesLegible name as) : AttributesLegible name (asWritten name as) :=
  h.declareCharset.perm (perm_sortByName _)

/-- A character set that has been declared stays as it is. -/
theorem declareCharset_asWritten (h : AttributesLegible name as) : declareCharset name (asWritten name as) = asWritten name as := by
  have hfind : ∀ key, (asWritten name as).find? key = (declareCharset name as).find? key := find?_sortByName h.declareCharset.nodup
  rw [declareCharset_eq] at hfind
  rw [declareCharset_eq]
  cases hdeclared : declared? name (as.find? ·) with
  | none =>
    rw [hdeclared] at hfind
    rw [show ((asWritten name as).find? ·) = (as.find? ·) from funext hfind, hdeclared]
  | some found =>
    obtain ⟨key, value⟩ := found
    rw [hdeclared] at hfind
    have hself : (asWritten name as).find? key = some value := by rw [hfind, Attributes.find?_set_self]
    have hagain : declared? name ((asWritten name as).find? ·) = some (key, value) :=
      declared?_again hdeclared hself fun other hne => by rw [hfind, Attributes.find?_set_of_ne hne]
    rw [hagain]
    exact Attributes.set_of_find? hself

/-- Attributes that have been written are written again as they are. -/
theorem asWritten_asWritten (h : AttributesLegible name as) : asWritten name (asWritten name as) = asWritten name as := by
  show sortByName (declareCharset name (asWritten name as)) = _
  rw [declareCharset_asWritten h]
  exact sortByName_sortByName _

/-- The attributes of an element as their texts, in the order in which they are written. -/
def rawAttributes (name : Text) (as : Attributes) : RawAttributes := (asWritten name as).map fun a => (a.1, a.2.joined)

/-- The attributes that are read where those of an element have been written. -/
theorem attributesOf_rawAttributes (h : AttributesLegible name as) : attributesOf name (rawAttributes name as) = asWritten name as := by
  have hnames : (rawAttributes name as).map (·.1) = (asWritten name as).map (·.1) := by
    rw [rawAttributes, List.map_map]
    rfl
  rw [attributesOf_eq name (by rw [hnames]; exact h.asWritten.nodup), rawAttributes, List.map_map]
  refine (List.map_congr_left fun a ha => ?_).trans (List.map_id _)
  show (a.1, attributeValue name a.1 a.2.joined) = a
  rw [h.asWritten.values a ha]

/-! ## Values between quotes -/

/-- An attribute as it is written. -/
def writeAttribute (a : Text × Text) : Text := [' '] ++ a.1 ++ ['='] ++ quoteValue (escape a.2)

theorem writeAttributes_eq (name : Text) (as : Attributes) : writeAttributes name as = (rawAttributes name as).flatMap writeAttribute := by
  rw [writeAttributes, rawAttributes, List.flatMap_map]
  rfl

/-- A character as it is written in a value that has quotes of both kinds. -/
def quoteChar (c : Char) : Text := if c = '\x22' then "&quot;" else escapeChar c

theorem readsInValue_escapeChar (c : Char) : ReadsInValue (escapeChar c) c := by
  by_cases hamp : c = '&'
  · subst hamp
    exact fun _ => rfl
  by_cases hlt : c = '<'
  · subst hlt
    exact fun _ => rfl
  by_cases hgt : c = '>'
  · subst hgt
    exact fun _ => rfl
  rw [escapeChar, if_neg hamp, if_neg hlt, if_neg hgt]
  exact readsInValue_self hamp

theorem readsInValue_quoteChar (c : Char) : ReadsInValue (quoteChar c) c := by
  unfold quoteChar
  split
  · rename_i hquot
    subst hquot
    exact fun _ => rfl
  · exact readsInValue_escapeChar c

/-- An escaped value whose double quotes are written as references. -/
theorem flatMap_quote_escape (v : Text) : ((escape v).flatMap fun c => if c = '\x22' then "&quot;" else [c]) = v.flatMap quoteChar := by
  rw [escape, List.flatMap_assoc]
  refine congrArg (v.flatMap ·) (funext fun c => ?_)
  unfold quoteChar escapeChar
  by_cases hquot : c = '\x22'
  · subst hquot
    rfl
  rw [if_neg hquot]
  by_cases hamp : c = '&'
  · rw [if_pos hamp]
    rfl
  by_cases hlt : c = '<'
  · rw [if_neg hamp, if_pos hlt]
    rfl
  by_cases hgt : c = '>'
  · rw [if_neg hamp, if_neg hlt, if_pos hgt]
    rfl
  rw [if_neg hamp, if_neg hlt, if_neg hgt, List.flatMap_singleton, if_neg hquot]

theorem quote_not_mem_flatMap_quoteChar (v : Text) : '\x22' ∉ v.flatMap quoteChar := by
  rw [List.mem_flatMap]
  rintro ⟨c, -, hc⟩
  unfold quoteChar escapeChar at hc
  repeat' split at hc
  all_goals first | exact absurd hc (by decide) | (rename_i hquot _ _ _; exact hquot (List.mem_singleton.1 hc).symm)

/-- An attribute is written so that it is read as it is. -/
theorem writesAttribute_quoteValue {a : Text × Text} (h : AttributeName a.1) : WritesAttribute (writeAttribute a) a := by
  have hquoted : ∀ (quote : Char) (inner : Text), quoteValue (escape a.2) = [quote] ++ inner ++ [quote] →
      writeAttribute a = ' ' :: (a.1 ++ '=' :: quote :: (inner ++ [quote])) := by
    intro quote inner heq
    rw [writeAttribute, heq]
    simp
  have hresolve : Entity.resolve (escape a.2) = .ok a.2 := resolve_flatMap readsInValue_escapeChar a.2
  cases hdouble : (escape a.2).contains '\x22' with
  | false =>
    rw [hquoted '\x22' (escape a.2) (by rw [quoteValue, hdouble]; rfl)]
    exact .quoted h (.inl rfl) (by simpa using hdouble) hresolve
  | true =>
    cases hsingle : (escape a.2).contains '\x27' with
    | false =>
      rw [hquoted '\x27' (escape a.2) (by rw [quoteValue, hdouble, hsingle]; rfl)]
      exact .quoted h (.inr rfl) (by simpa using hsingle) hresolve
    | true =>
      rw [hquoted '\x22' (a.2.flatMap quoteChar) (by rw [quoteValue, hdouble, hsingle, flatMap_quote_escape]; rfl)]
      exact .quoted h (.inl rfl) (quote_not_mem_flatMap_quoteChar a.2) (resolve_flatMap readsInValue_quoteChar a.2)

/-- The attributes of an element are written so that they are read as they are. -/
theorem writesAttribute_rawAttributes (h : AttributesLegible name as) : ∀ a ∈ rawAttributes name as, WritesAttribute (writeAttribute a) a := by
  intro a ha
  obtain ⟨b, hb, rfl⟩ := List.mem_map.1 ha
  exact writesAttribute_quoteValue (h.asWritten.names b hb)

end Flashcards.Markup
