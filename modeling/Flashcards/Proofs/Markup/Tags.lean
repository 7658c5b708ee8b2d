import Flashcards.Proofs.Markup.Endings
import Flashcards.Proofs.Markup.Names
import Flashcards.Proofs.Markup.Reading

/-!
# Tags as they are written

An attribute is written behind a space, as its name, an equals sign and its value between quotes, in which the characters of the value stand
for themselves or are written as references (`WritesAttribute`). A start tag with attributes that are written so is read as its name with
these attributes, whatever follows (`reads_startTag`, `reads_emptyTag`). An end tag is read as one, though its name may lose blanks at its end
(`reads_endTag`).
-/

namespace Flashcards.Markup

open Text Lexer

/-! ## Values -/

/-- A text is read as a character of a value, whatever follows. -/
def ReadsInValue (t : Text) (c : Char) : Prop := ∀ rest, Entity.resolveFrom 0 (t ++ rest) = (Entity.resolveFrom 0 rest).map (c :: ·)

theorem readsInValue_self {c : Char} (h : c ≠ '&') : ReadsInValue [c] c := by
  intro rest
  rw [List.singleton_append, Entity.resolveFrom, if_neg h]

/-- A value each of whose characters is written so that it is read is read as it was. -/
theorem resolve_flatMap {f : Char → Text} (hf : ∀ c, ReadsInValue (f c) c) (v : Text) : Entity.resolve (v.flatMap f) = .ok v := by
  rw [Entity.resolve]
  induction v with
  | nil => rfl
  | cons c v ih =>
    rw [List.flatMap_cons, hf c, ih]
    rfl

/-! ## Gaps -/

/-- A gap ends before a character that is neither blank nor a slash. -/
theorem takeGap_cons {c : Char} (hb : isBlank c = false) (hs : c ≠ '/') (t : Text) : takeGap (c :: t) = (false, c :: t) := by
  rw [takeGap.eq_def]
  split
  · rename_i h
    cases h
  · rename_i h
    exact absurd (List.cons.inj h).1 hs
  · rename_i h
    obtain ⟨rfl, rfl⟩ := List.cons.inj h
    rw [if_neg (by simp [hb, hs])]

theorem length_takeGap_le (t : Text) : (takeGap t).2.length ≤ t.length := by
  induction t with
  | nil => exact Nat.le_refl _
  | cons c t ih =>
    rw [takeGap.eq_def]
    split
    · rename_i h
      cases h
    · rename_i h
      exact Nat.le_of_eq (congrArg List.length h.symm)
    · rename_i h
      obtain ⟨rfl, rfl⟩ := List.cons.inj h
      split
      · exact Nat.le_succ_of_le ih
      · exact Nat.le_refl _

/-! ## Attributes -/

/-- No attribute where none begins. -/
theorem takeAttributes_of_none {t : Text} (mayBegin : Bool) (h : takeAttribute? t = none) : takeAttributes mayBegin t = ([], t) := by
  rw [takeAttributes.eq_def, h]
  cases mayBegin <;> rfl

/-- An attribute before those after it. -/
theorem takeAttributes_of_some {t rest : Text} {found : Text × Text} {mayFollow : Bool}
    (h : takeAttribute? t = some (found, mayFollow, rest)) (hl : rest.length < t.length) :
    takeAttributes true t = (found :: (takeAttributes mayFollow rest).1, (takeAttributes mayFollow rest).2) := by
  rw [takeAttributes.eq_def, h]
  exact dif_pos hl

/-- The quotes between which a value is written. -/
def IsQuote (quote : Char) : Prop := quote = '\x22' ∨ quote = '\x27'

/-- An attribute as it is written: behind a space, with its value between quotes. -/
inductive WritesAttribute : Text → Text × Text → Prop
  | quoted {name inner value : Text} {quote : Char} (hname : AttributeName name) (hquote : IsQuote quote) (hinner : quote ∉ inner)
    (hvalue : Entity.resolve inner = .ok value) : WritesAttribute (' ' :: (name ++ '=' :: quote :: (inner ++ [quote]))) (name, value)

/-- A value between quotes. -/
theorem takeValue?_quoted {quote : Char} (hquote : IsQuote quote) {inner : Text} (h : quote ∉ inner) (rest : Text) :
    takeValue? ('=' :: quote :: (inner ++ quote :: rest)) = some (inner, true, rest) := by
  have hblank : isBlank quote = false := by rcases hquote with rfl | rfl <;> rfl
  have hsign : (quote == '=') = false := by rcases hquote with rfl | rfl <;> rfl
  have hstart : (quote :: (inner ++ quote :: rest)).dropWhile isBlank = quote :: (inner ++ quote :: rest) :=
    List.dropWhile_cons_of_neg (by rw [hblank]; exact Bool.false_ne_true)
  have hafterName : ('=' :: quote :: (inner ++ quote :: rest)).dropWhile isBlank = '=' :: quote :: (inner ++ quote :: rest) := rfl
  have hsigns : ('=' :: quote :: (inner ++ quote :: rest)).takeWhile (· == '=') = ['='] := by
    rw [List.takeWhile_cons_of_pos (by rfl), List.takeWhile_cons_of_neg (by rw [hsign]; exact Bool.false_ne_true)]
  have hafterSigns : ('=' :: quote :: (inner ++ quote :: rest)).dropWhile (· == '=') = quote :: (inner ++ quote :: rest) := by
    rw [List.dropWhile_cons_of_pos (by rfl), List.dropWhile_cons_of_neg (by rw [hsign]; exact Bool.false_ne_true)]
  have hquoted : (decide (quote = '\x22') || decide (quote = '\x27')) = true := by rcases hquote with rfl | rfl <;> rfl
  simp only [takeValue?, hafterName, hsigns, hafterSigns, hstart, List.isEmpty_cons, Bool.false_eq_true, if_false, hquoted, if_true,
    breakOn_append h]

/-- An attribute with its value between quotes. -/
theorem takeAttribute?_quoted {name : Text} (hname : AttributeName name) {quote : Char} (hquote : IsQuote quote) {inner : Text}
    (h : quote ∉ inner) (rest : Text) :
    takeAttribute? (name ++ '=' :: quote :: (inner ++ quote :: rest)) = some ((name, inner), true, (takeGap rest).2) := by
  obtain ⟨c, cs, rfl, hc, hcs⟩ := hname.begins
  have htake : (cs ++ '=' :: quote :: (inner ++ quote :: rest)).takeWhile inAttributeName = cs := by
    rw [List.takeWhile_append_of_pos hcs, List.takeWhile_cons_of_neg (by decide), List.append_nil]
  have hdrop : (cs ++ '=' :: quote :: (inner ++ quote :: rest)).dropWhile inAttributeName = '=' :: quote :: (inner ++ quote :: rest) := by
    rw [List.dropWhile_append_of_pos hcs, List.dropWhile_cons_of_neg (by decide)]
  simp only [List.cons_append, takeAttribute?, hc, Bool.not_true, Bool.false_eq_true, if_false, htake, hdrop,
    takeValue?_quoted hquote h, hname.lower, Bool.or_true]

/-- What a tag ends in: no gap and no attribute begins there, nor does its name go on. -/
structure EndsTag (t : Text) : Prop where
  gap : takeGap t = (false, t)
  noAttribute : takeAttribute? t = none
  name : ∃ c u, t = c :: u ∧ endsTagName c = true

theorem endsTag_start (rest : Text) : EndsTag ('>' :: rest) := ⟨rfl, rfl, '>', rest, rfl, rfl⟩

theorem endsTag_closed (rest : Text) : EndsTag ('/' :: '>' :: rest) := ⟨rfl, rfl, '/', '>' :: rest, rfl, rfl⟩

variable {f : Text × Text → Text} {as : RawAttributes} {ending : Text}

/-- The attributes of a tag up to its end, and the values that they are written with. -/
theorem takeAttributes_written (has : ∀ a ∈ as, WritesAttribute (f a) a) (hend : EndsTag ending) :
    ∃ found, resolveValues found = .ok as ∧ ∀ mayBegin, (as ≠ [] → mayBegin = true) →
      takeAttributes mayBegin (takeGap (as.flatMap f ++ ending)).2 = (found, ending) := by
  induction as with
  | nil =>
    refine ⟨[], rfl, fun mayBegin _ => ?_⟩
    rw [List.flatMap_nil, List.nil_append, hend.gap]
    exact takeAttributes_of_none mayBegin hend.noAttribute
  | cons a as ih =>
    rw [List.forall_mem_cons] at has
    obtain ⟨found, hvalues, hfound⟩ := ih has.2
    have hfirst := has.1
    rw [List.flatMap_cons, List.append_assoc]
    generalize f a = t at hfirst ⊢
    cases hfirst with
    | @quoted name inner value quote hname hquote hinner hvalue =>
      have hrest : (' ' :: (name ++ '=' :: quote :: (inner ++ [quote]))) ++ (as.flatMap f ++ ending) =
          ' ' :: (name ++ '=' :: quote :: (inner ++ quote :: (as.flatMap f ++ ending))) := by simp
      have hgap : (takeGap (' ' :: (name ++ '=' :: quote :: (inner ++ quote :: (as.flatMap f ++ ending))))).2 =
          name ++ '=' :: quote :: (inner ++ quote :: (as.flatMap f ++ ending)) := by
        obtain ⟨c, cs, rfl, hbegins, -⟩ := hname.begins
        simp only [beginsAttribute, Bool.not_eq_true', Bool.or_eq_false_iff, beq_eq_false_iff_ne] at hbegins
        show (takeGap (c :: (cs ++ _))).2 = _
        rw [takeGap_cons hbegins.1.1 hbegins.1.2]
        rfl
      have hlt : (takeGap (as.flatMap f ++ ending)).2.length <
          (name ++ '=' :: quote :: (inner ++ quote :: (as.flatMap f ++ ending))).length := by
        have hle := length_takeGap_le (as.flatMap f ++ ending)
        simp only [List.length_append, List.length_cons] at hle ⊢
        omega
      refine ⟨(name, inner) :: found, ?_, fun mayBegin hbegin => ?_⟩
      · unfold resolveValues at hvalues ⊢
        rw [List.mapM_cons, hvalues, hvalue]
        rfl
      · rw [hbegin (List.cons_ne_nil _ as), hrest, hgap, takeAttributes_of_some (takeAttribute?_quoted hname hquote hinner _) hlt,
          hfound true fun _ => rfl]

/-! ## Tags -/

/-- The name of a tag ends before its attributes, and before its end. -/
theorem takeTagName_written {name : Text} (hname : TagName name) (has : ∀ a ∈ as, WritesAttribute (f a) a) (hend : EndsTag ending) :
    takeTagName (name ++ (as.flatMap f ++ ending)) = (name, as.flatMap f ++ ending) := by
  have hstop : ∃ c u, as.flatMap f ++ ending = c :: u ∧ endsTagName c = true := by
    cases as with
    | nil => exact hend.name
    | cons a as =>
      rw [List.flatMap_cons]
      have hfirst := has a List.mem_cons_self
      generalize f a = t at hfirst ⊢
      cases hfirst
      exact ⟨' ', _, rfl, rfl⟩
  obtain ⟨c, u, hcons, hc⟩ := hstop
  have hinside : ∀ d ∈ name, (!endsTagName d) = true := by
    intro d hd
    rw [hname.inside d hd]
    rfl
  have hnot : ¬(!endsTagName c) = true := by
    rw [hc]
    exact Bool.false_ne_true
  rw [hcons, takeTagName, List.takeWhile_append_of_pos hinside, List.dropWhile_append_of_pos hinside,
    List.takeWhile_cons_of_neg (p := fun d => !endsTagName d) hnot, List.dropWhile_cons_of_neg (p := fun d => !endsTagName d) hnot,
    List.append_nil]

/-- What is read of a tag before its end. -/
theorem exists_of_written {name : Text} (hname : TagName name) (has : ∀ a ∈ as, WritesAttribute (f a) a) (hend : EndsTag ending) :
    ∃ found, resolveValues found = .ok as ∧
      takeTagName (('<' :: (name ++ (as.flatMap f ++ ending))).drop 1) = (name, as.flatMap f ++ ending) ∧
      takeAttributes ((takeGap (as.flatMap f ++ ending)).1 || name.getLast?.any precedesAttribute) (takeGap (as.flatMap f ++ ending)).2 =
        (found, ending) := by
  obtain ⟨found, hvalues, hfound⟩ := takeAttributes_written has hend
  refine ⟨found, hvalues, takeTagName_written hname has hend, hfound _ fun hne => ?_⟩
  obtain ⟨a, as', rfl⟩ := List.exists_cons_of_ne_nil hne
  rw [List.flatMap_cons]
  have hfirst := has a List.mem_cons_self
  generalize f a = t at hfirst ⊢
  cases hfirst
  rfl

/-- A start tag is read as it is written. -/
theorem takeStartTag_written {name : Text} (hname : TagName name) (has : ∀ a ∈ as, WritesAttribute (f a) a) (rest : Text) :
    takeStartTag ('<' :: (name ++ (as.flatMap f ++ '>' :: rest))) = .ok (.closed (.startTag name as) rest) := by
  obtain ⟨found, hvalues, htag, hfound⟩ := exists_of_written hname has (endsTag_start rest)
  simp only [takeStartTag, htag, hfound, hvalues, hname.lower]
  rfl

/-- A start tag that ends in a slash is read as it is written. -/
theorem takeStartTag_closed {name : Text} (hname : TagName name) (has : ∀ a ∈ as, WritesAttribute (f a) a) (rest : Text) :
    takeStartTag ('<' :: (name ++ (as.flatMap f ++ '/' :: '>' :: rest))) = .ok (.closed (.emptyTag name as) rest) := by
  obtain ⟨found, hvalues, htag, hfound⟩ := exists_of_written hname has (endsTag_closed rest)
  simp only [takeStartTag, htag, hfound, hvalues, hname.lower]
  rfl

/-- What begins with `<` and a letter is read as a start tag. -/
theorem step_startTag {name : Text} (hname : TagName name) (t : Text) : step false none ('<' :: (name ++ t)) = stepStartTag false ('<' :: (name ++ t)) := by
  obtain ⟨c, cs, rfl, hc⟩ := hname.begins
  show stepMarkup false ('<' :: c :: (cs ++ t)) = _
  unfold stepMarkup
  rw [List.drop_succ_cons, List.drop_zero]
  dsimp only
  rw [if_pos hc]
  rfl

/-- The start tag of an element that is not raw. -/
theorem reads_startTag {name : Text} (hname : TagName name) (hraw : isRawElement name = false) (has : ∀ a ∈ as, WritesAttribute (f a) a) :
    Reads ('<' :: (name ++ (as.flatMap f ++ ['>']))) [.startTag name as] := by
  refine reads_token (.startTag name as) rfl (List.cons_ne_nil _ _) fun rest => ?_
  have htext : ('<' :: (name ++ (as.flatMap f ++ ['>']))) ++ rest = '<' :: (name ++ (as.flatMap f ++ '>' :: rest)) := by simp
  rw [htext, step_startTag hname, stepStartTag, takeStartTag_written hname has]
  dsimp only
  rw [if_neg (by rw [hraw]; exact Bool.false_ne_true)]

/-- A start tag that ends in a slash. -/
theorem reads_emptyTag {name : Text} (hname : TagName name) (has : ∀ a ∈ as, WritesAttribute (f a) a) :
    Reads ('<' :: (name ++ (as.flatMap f ++ ['/', '>']))) [.emptyTag name as] := by
  refine reads_token (.emptyTag name as) rfl (List.cons_ne_nil _ _) fun rest => ?_
  have htext : ('<' :: (name ++ (as.flatMap f ++ ['/', '>']))) ++ rest = '<' :: (name ++ (as.flatMap f ++ '/' :: '>' :: rest)) := by simp
  rw [htext, step_startTag hname, stepStartTag, takeStartTag_closed hname has]

/-! ## End tags -/

/-- The name that is read in the end tag of an element: blanks at its end do not count if what stands before them is plain. -/
def closingName (name : Text) : Text := (plainEndName? ('<' :: '/' :: name)).getD name

theorem TagName.closed {name : Text} (h : TagName name) : '>' ∉ name := by
  intro hmem
  have hinside := h.inside _ hmem
  cases hinside

/-- What is read of an end tag that is not plain. -/
theorem takeLooseEndTag_written {name : Text} (hname : TagName name) (rest : Text) :
    takeLooseEndTag ('<' :: '/' :: (name ++ '>' :: rest)) = (some (.endTag name), rest) := by
  have hnone : ∀ a ∈ ([] : RawAttributes), WritesAttribute [] a := List.forall_mem_nil _
  have htag : takeTagName (name ++ '>' :: rest) = (name, '>' :: rest) := takeTagName_written hname hnone (endsTag_start rest)
  have hlower := hname.lower
  obtain ⟨c, cs, rfl, hc⟩ := hname.begins
  unfold takeLooseEndTag
  rw [List.drop_succ_cons, List.drop_succ_cons, List.drop_zero]
  rw [List.cons_append] at htag ⊢
  dsimp only
  rw [if_pos hc, htag, hlower]
  rfl

theorem reads_endTag {name : Text} (hname : TagName name) : Reads ('<' :: '/' :: (name ++ ['>'])) [.endTag (closingName name)] := by
  refine reads_token (.endTag (closingName name)) rfl (List.cons_ne_nil _ _) fun rest => ?_
  have htext : ('<' :: '/' :: (name ++ ['>'])) ++ rest = '<' :: '/' :: (name ++ '>' :: rest) := by simp
  have hbreak : breakOn '>' (('<' :: '/' :: (name ++ '>' :: rest)).drop 1) = some ('/' :: name, rest) :=
    breakOn_append (t := '/' :: name) (by simp [hname.closed]) rest
  have hplain : takePlainEndTag? ('<' :: '/' :: (name ++ '>' :: rest)) = (plainEndName? ('<' :: '/' :: name)).map fun found => (found, rest) :=
    takePlainEndTag?_append (u := '<' :: '/' :: name) (by simp [hname.closed]) rest
  rw [htext]
  show Except.ok (stepEndTag false _) = _
  unfold stepEndTag
  rw [hbreak, hplain, takeLooseEndTag_written hname]
  unfold closingName
  cases plainEndName? ('<' :: '/' :: name) <;> rfl

end Flashcards.Markup
