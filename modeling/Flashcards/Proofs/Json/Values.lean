import Flashcards.Proofs.Json.Numbers

/-!
# Reading values

What the reader of JSON does is settled by the grammar. What says a value is read as that value whatever follows, as long as a number is not gone on
with, unless something in it is refused; then it is not read (`Json.Part.IsRead`, for each part of a text, and `Json.Dialect.Denotes.isRead`). And what
is read says what it is read as (`Json.denotes_of_read`). So a whole text is read as a value exactly if it says this value and nothing in it is
refused (`Json.readWhole_eq_ok_iff_said`), and what it says decides which value that is (`Json.Dialect.Says.readWhole_iff`). In particular, a text
that writes an object does so without the blanks around it (`Json.read_object`).
-/

namespace Flashcards.Json

open Text

/-! ## The reader, step by step -/

/-- The blanks that a text begins with, and what stands after them. -/
theorem exists_blanks (t : Text) : ∃ b, t = b ++ skipBlanks t ∧ (∀ c ∈ b, isJsonBlank c = true) ∧ Ends isJsonBlank (skipBlanks t) :=
  ⟨t.takeWhile isJsonBlank, List.takeWhile_append_dropWhile.symm, fun _ hc => List.mem_takeWhile_imp hc, ends_dropWhile _ _⟩

theorem skipBlanks_append {b t : Text} (hb : ∀ c ∈ b, isJsonBlank c = true) (ht : Ends isJsonBlank t) : skipBlanks (b ++ t) = t :=
  dropWhile_append hb ht

/-- A number ends before blanks. -/
theorem ends_blanks {b t : Text} {c : Char} (hb : ∀ c ∈ b, isJsonBlank c = true) (hc : isNumberChar c = false) :
    Ends isNumberChar (b ++ c :: t) := by
  cases b with
  | nil => exact ends_cons.2 hc
  | cons d b =>
    have hd := hb d List.mem_cons_self
    simp only [isJsonBlank, Bool.or_eq_true, beq_iff_eq] at hd
    rw [List.cons_append, ends_cons]
    rcases hd with ((rfl | rfl) | rfl) | rfl <;> rfl

/-- What the first items of a list are read of: an item, and the closing bracket or a comma and more. -/
theorem readItems_eq_ok_iff {constants : Bool} {n : Nat} {t rest : Text} {items : List Json} :
    readItems constants (n + 1) t = .ok (items, rest) ↔
      ∃ item left, readValue constants n t = .ok (item, left) ∧
        (skipBlanks left = ']' :: rest ∧ items = [item] ∨
          ∃ left' more, skipBlanks left = ',' :: left' ∧ readItems constants n (skipBlanks left') = .ok (more, rest) ∧
            items = item :: more) := by
  rw [readItems]
  constructor
  · intro h
    split at h
    · cases h
    · rename_i item left hitem
      refine ⟨item, left, hitem, ?_⟩
      split at h
      · rename_i left' hskip
        cases h
        exact .inl ⟨hskip, rfl⟩
      · rename_i left' hskip
        split at h
        · rename_i more rest' hmore
          cases h
          exact .inr ⟨left', more, hskip, hmore, rfl⟩
        · cases h
      · cases h
  · rintro ⟨item, left, hitem, ⟨hskip, rfl⟩ | ⟨left', more, hskip, hmore, rfl⟩⟩
    · simp only [hitem, hskip]
    · simp only [hitem, hskip, hmore]

/-- What the first entries of an object are read of: a name between quotes, a colon, a value, and the closing brace or a comma and more. -/
theorem readEntries_eq_ok_iff {constants : Bool} {n : Nat} {before entries : List (Text × Json)} {t rest : Text} :
    readEntries constants (n + 1) before t = .ok (entries, rest) ↔
      ∃ t' name left left' value left₂, t = '"' :: t' ∧ readString t.length t' = .ok (name, left) ∧ skipBlanks left = ':' :: left' ∧
        readValue constants n (skipBlanks left') = .ok (value, left₂) ∧
        (skipBlanks left₂ = '\x7d' :: rest ∧ entries = put name value before ∨
          ∃ left₃, skipBlanks left₂ = ',' :: left₃ ∧ readEntries constants n (put name value before) (skipBlanks left₃) = .ok (entries, rest)) := by
  constructor
  · intro h
    unfold readEntries at h
    split at h
    · rename_i t'
      split at h
      · cases h
      · rename_i name left hname
        split at h
        · rename_i left' hskip
          split at h
          · cases h
          · rename_i value left₂ hvalue
            refine ⟨t', name, left, left', value, left₂, rfl, hname, hskip, hvalue, ?_⟩
            split at h
            · rename_i left₃ hskip'
              cases h
              exact .inl ⟨hskip', rfl⟩
            · rename_i left₃ hskip'
              exact .inr ⟨left₃, hskip', h⟩
            · cases h
        · cases h
    · cases h
  · rintro ⟨t', name, left, left', value, left₂, rfl, hname, hskip, hvalue, ⟨hskip', rfl⟩ | ⟨left₃, hskip', hmore⟩⟩
    · unfold readEntries
      simp only [hname, hskip, hvalue, hskip']
    · unfold readEntries
      simp only [hname, hskip, hvalue, hskip', hmore]

theorem not_ends {p : Char → Bool} {c : Char} {t t' : Text} (hc : p c = true) (h : Ends p t) : t ≠ c :: t' := by
  rintro rfl
  rw [ends_cons.1 h] at hc
  cases hc

theorem ends_of_ne {c : Char} {t : Text} (h : ∀ t', t = c :: t' → False) : Ends (· == c) t := by
  intro d hd
  refine beq_false_of_ne ?_
  rintro rfl
  obtain ⟨t', rfl⟩ := List.head?_eq_some_iff.1 hd
  exact h t' rfl

theorem readValue_string {constants : Bool} {n : Nat} {t rest : Text} {v : Json} :
    readValue constants (n + 1) ('"' :: t) = .ok (v, rest) ↔ ∃ s, readString (t.length + 1) t = .ok (s, rest) ∧ v = .text s := by
  rw [readValue]
  constructor
  · intro h
    split at h
    · rename_i s rest' hs
      cases h
      exact ⟨s, hs, rfl⟩
    · cases h
  · rintro ⟨s, hs, rfl⟩
    rw [List.length_cons, hs]

/-- A list is empty, or it does not go on with its closing bracket. -/
theorem readValue_list {constants : Bool} {n : Nat} {t rest : Text} {v : Json} :
    readValue constants (n + 1) ('[' :: t) = .ok (v, rest) ↔ skipBlanks t = ']' :: rest ∧ v = .list [] ∨
      Ends (· == ']') (skipBlanks t) ∧ ∃ items, readItems constants n (skipBlanks t) = .ok (items, rest) ∧ v = .list items := by
  rw [readValue]
  constructor
  · intro h
    split at h
    · rename_i hskip
      cases h
      exact .inl ⟨hskip, rfl⟩
    · rename_i hskip
      split at h
      · rename_i items _ hitems
        cases h
        exact .inr ⟨ends_of_ne hskip, items, hitems, rfl⟩
      · cases h
  · rintro (⟨hskip, rfl⟩ | ⟨hends, items, hitems, rfl⟩)
    · simp only [hskip]
    · split
      · rename_i hskip
        exact absurd hskip (not_ends rfl hends)
      · rw [hitems]

/-- An object is empty, or it does not go on with its closing brace. -/
theorem readValue_object {constants : Bool} {n : Nat} {t rest : Text} {v : Json} :
    readValue constants (n + 1) ('\x7b' :: t) = .ok (v, rest) ↔ skipBlanks t = '\x7d' :: rest ∧ v = .object [] ∨
      Ends (· == '\x7d') (skipBlanks t) ∧ ∃ entries, readEntries constants n [] (skipBlanks t) = .ok (entries, rest) ∧ v = .object entries := by
  rw [readValue]
  constructor
  · intro h
    split at h
    · rename_i hskip
      cases h
      exact .inl ⟨hskip, rfl⟩
    · rename_i hskip
      split at h
      · rename_i entries _ hentries
        cases h
        exact .inr ⟨ends_of_ne hskip, entries, hentries, rfl⟩
      · cases h
  · rintro (⟨hskip, rfl⟩ | ⟨hends, entries, hentries, rfl⟩)
    · simp only [hskip]
    · split
      · rename_i hskip
        exact absurd hskip (not_ends rfl hends)
      · rw [hentries]

/-- A value that has no mark to begin with. -/
theorem readValue_scalar {constants : Bool} {n : Nat} {t : Text} (h : Ends (fun c => c == '"' || c == '[' || c == '\x7b') t) :
    readValue constants (n + 1) t = readScalar constants t := by
  rw [readValue]
  · exact fun t' => not_ends rfl h
  · exact fun t' => not_ends rfl h
  · exact fun t' => not_ends rfl h

/-- A text begins with the mark of a string, a list or an object, or with none of these. -/
theorem marked_or_ends (t : Text) :
    (∃ t', t = '"' :: t') ∨ (∃ t', t = '[' :: t') ∨ (∃ t', t = '\x7b' :: t') ∨ Ends (fun c => c == '"' || c == '[' || c == '\x7b') t := by
  cases t with
  | nil => exact .inr (.inr (.inr (ends_nil _)))
  | cons c t =>
    by_cases hquote : c = '"'
    · exact .inl ⟨t, hquote ▸ rfl⟩
    by_cases hbracket : c = '['
    · exact .inr (.inl ⟨t, hbracket ▸ rfl⟩)
    by_cases hbrace : c = '\x7b'
    · exact .inr (.inr (.inl ⟨t, hbrace ▸ rfl⟩))
    exact .inr (.inr (.inr (ends_cons.2 (by simp [hquote, hbracket, hbrace]))))

/-! ## What is said is read -/

/-- A character with which no part of a text begins: a blank, a closing bracket or brace, and the mark of an encoding. -/
def beginsNothing (c : Char) : Bool := isJsonBlank c || c == ']' || c == '\x7d' || c == '\uFEFF'

theorem of_beginsNothing_eq_false {c : Char} (h : beginsNothing c = false) :
    isJsonBlank c = false ∧ (c == ']') = false ∧ (c == '\x7d') = false ∧ c ≠ '\uFEFF' := by
  simpa [beginsNothing, and_assoc] using h

theorem beginsNothing_of_isDigit {d : Char} (hd : isDigit d = true) : beginsNothing d = false := by
  have hne : ∀ c, isDigit c = false → (d == c) = false := fun c hc => beq_false_of_ne (ne_of_isDigit hd hc)
  simp only [beginsNothing, isJsonBlank, hne ' ' rfl, hne '\t' rfl, hne '\n' rfl, hne '\r' rfl, hne ']' rfl, hne '\x7d' rfl, hne '\uFEFF' rfl,
    Bool.or_self]

/-- A value that is no string and has no parts begins with none of the marks. -/
theorem Scalar.head {u : Text} {v : Json} {rs : List Refusal} (h : Scalar u v rs) :
    ∃ c t, u = c :: t ∧ beginsNothing c = false ∧ (c == '"' || c == '[' || c == '\x7b') = false := by
  cases h with
  | number h =>
    obtain ⟨d, t, rfl, hd⟩ := h.head
    refine ⟨d, t, rfl, beginsNothing_of_isDigit hd, ?_⟩
    rw [beq_false_of_ne (ne_of_isDigit hd (show isDigit '"' = false from rfl)),
      beq_false_of_ne (ne_of_isDigit hd (show isDigit '[' = false from rfl)),
      beq_false_of_ne (ne_of_isDigit hd (show isDigit '\x7b' = false from rfl))]
    rfl
  | _ => exact ⟨_, _, rfl, rfl, rfl⟩

theorem Dialect.Denotes.head {u : Text} {p : Part} {rs : List Refusal} (h : Dialect.json.Denotes u p rs) :
    ∃ c t, u = c :: t ∧ beginsNothing c = false := by
  have hatom : ∀ {u v rs}, Atom u v rs → ∃ c t, u = c :: t ∧ beginsNothing c = false := by
    rintro u v rs (h | h)
    · obtain ⟨c, t, hu, hc, -⟩ := h.head
      exact ⟨c, t, hu, hc⟩
    · exact ⟨'"', _, rfl, rfl⟩
  induction h with
  | atom h => exact hatom h
  | emptyList => exact ⟨'[', _, rfl, rfl⟩
  | list => exact ⟨'[', _, rfl, rfl⟩
  | emptyObject => exact ⟨'\x7b', _, rfl, rfl⟩
  | object => exact ⟨'\x7b', _, rfl, rfl⟩
  | item h hb ih =>
    obtain ⟨c, t, rfl, hc⟩ := ih
    exact ⟨c, _, rfl, hc⟩
  | items h hb hb' hmore ih =>
    obtain ⟨c, t, rfl, hc⟩ := ih
    exact ⟨c, _, rfl, hc⟩
  | entry hname =>
    obtain ⟨c, t, rfl, hc⟩ := hatom hname
    exact ⟨c, _, rfl, hc⟩
  | entries hname =>
    obtain ⟨c, t, rfl, hc⟩ := hatom hname
    exact ⟨c, _, rfl, hc⟩

/-- No part of a text begins with a blank. -/
theorem Dialect.Denotes.ends {u : Text} {p : Part} {rs : List Refusal} (h : Dialect.json.Denotes u p rs) {q : Char → Bool}
    (hq : ∀ c, beginsNothing c = false → q c = false) (rest : Text) : Ends q (u ++ rest) := by
  obtain ⟨c, t, rfl, hc⟩ := h.head
  exact ends_cons.2 (hq c hc)

theorem Dialect.Denotes.ends_blank {u : Text} {p : Part} {rs : List Refusal} (h : Dialect.json.Denotes u p rs) (rest : Text) :
    Ends isJsonBlank (u ++ rest) :=
  h.ends (fun _ hc => (of_beginsNothing_eq_false hc).1) rest

/-- What says a string is its spelling between quotes. -/
theorem Atom.exists_spells {u s : Text} {rs : List Refusal} (h : Atom u (.text s) rs) : ∃ w, u = '"' :: w ∧ Spells w s := by
  cases h with
  | scalar h =>
    cases h with
    | number h => cases h
    | minus h => cases h
  | string h => exact ⟨_, rfl, h⟩

/-- Where a reading is gone on with, it has to give its result. -/
theorem Gives.exists_iff {α : Type} {r : Reading α} {p : Prop} {x : α × Text} (h : Gives r p x) {q : α → Text → Prop} :
    (∃ a rest, r = .ok (a, rest) ∧ q a rest) ↔ p ∧ q x.1 x.2 := by
  constructor
  · rintro ⟨a, rest, hr, hq⟩
    obtain ⟨hp, rfl⟩ := (h _).1 hr
    exact ⟨hp, hq⟩
  · rintro ⟨hp, hq⟩
    exact ⟨x.1, x.2, (h _).2 ⟨hp, rfl⟩, hq⟩

/-- What it means for a part of a text that the reader reads it for what it says. The items of a list are read up to the closing bracket, and the
entries of an object are put to the entries before them up to the closing brace. -/
def Part.IsRead (constants : Bool) (u : Text) (rs : List Refusal) : Part → Prop
  | .value v => ∀ fuel rest, u.length ≤ fuel → Ends isNumberChar rest →
      Gives (readValue constants fuel (u ++ rest)) (Tolerates constants rs) (v, rest)
  | .items vs => ∀ fuel rest, u.length < fuel → Gives (readItems constants fuel (u ++ ']' :: rest)) (Tolerates constants rs) (vs, rest)
  | .entries es => ∀ fuel before rest, u.length < fuel →
      Gives (readEntries constants fuel before (u ++ '\x7d' :: rest)) (Tolerates constants rs)
        (es.foldl (fun done e => put e.1 e.2 done) before, rest)

section Steps

variable {constants : Bool} {u b b' b'' b₃ w : Text} {v : Json} {vs : List Json} {es : List (Text × Json)} {rs rs' : List Refusal}

theorem isRead_atom (h : Atom u v rs) : (Part.value v).IsRead constants u rs := by
  rintro (_ | n) rest hfuel hrest
  · obtain ⟨c, t, rfl, -⟩ := Dialect.Denotes.head (.atom h)
    cases hfuel
  · cases h with
    | scalar h =>
      obtain ⟨c, t, rfl, -, hc⟩ := h.head
      rw [readValue_scalar (show Ends _ (c :: t ++ rest) from ends_cons.2 hc)]
      exact h.reads constants hrest
    | string h =>
      rintro ⟨v', rest'⟩
      rw [List.cons_append, readValue_string, readString_of_spells h]
      simp [tolerates_nil, eq_comm, and_comm]

section Enclosed

variable {α : Type} {r : Reading Json} {parts : Reading (List α)} {t rest : Text} {close : Char} {wrap : List α → Json} {p : Prop} {xs : List α}

/-- Nothing stands between an opening mark and the closing one. -/
theorem gives_of_closed
    (hr : ∀ v rest, r = .ok (v, rest) ↔ t = close :: rest ∧ v = wrap [] ∨ Ends (· == close) t ∧ ∃ xs, parts = .ok (xs, rest) ∧ v = wrap xs)
    (ht : t = close :: rest) (hp : p) : Gives r p (wrap [], rest) := by
  rintro ⟨v, rest'⟩
  rw [hr, ht]
  constructor
  · rintro (⟨hrest, rfl⟩ | ⟨hends, -⟩)
    · rw [(List.cons.inj hrest).2]
      exact ⟨hp, rfl⟩
    · exact absurd rfl (not_ends (p := (· == close)) (beq_self_eq_true close) hends)
  · rintro ⟨-, heq⟩
    obtain ⟨rfl, rfl⟩ := Prod.mk.inj heq
    exact .inl ⟨rfl, rfl⟩

/-- Something stands between an opening mark and the closing one. -/
theorem gives_of_open
    (hr : ∀ v rest, r = .ok (v, rest) ↔ t = close :: rest ∧ v = wrap [] ∨ Ends (· == close) t ∧ ∃ xs, parts = .ok (xs, rest) ∧ v = wrap xs)
    (ht : Ends (· == close) t) (hparts : Gives parts p (xs, rest)) : Gives r p (wrap xs, rest) := by
  rintro ⟨v, rest'⟩
  rw [hr]
  constructor
  · rintro (⟨hclosed, -⟩ | ⟨-, xs', hxs, rfl⟩)
    · exact absurd hclosed (not_ends (p := (· == close)) (beq_self_eq_true close) ht)
    · obtain ⟨hp, heq⟩ := (hparts _).1 hxs
      obtain ⟨rfl, rfl⟩ := Prod.mk.inj heq
      exact ⟨hp, rfl⟩
  · rintro ⟨hp, heq⟩
    obtain ⟨rfl, rfl⟩ := Prod.mk.inj heq
    exact .inr ⟨ht, xs, (hparts _).2 ⟨hp, rfl⟩, rfl⟩

end Enclosed

theorem isRead_emptyList (hb : ∀ c ∈ b, isJsonBlank c = true) : (Part.value (.list [])).IsRead constants ('[' :: (b ++ [']'])) [] := by
  rintro (_ | n) rest hfuel -
  · cases hfuel
  · rw [List.cons_append, List.append_assoc]
    exact gives_of_closed (fun _ _ => readValue_list) (skipBlanks_append hb (ends_cons.2 rfl)) (tolerates_nil constants)

theorem isRead_list (hb : ∀ c ∈ b, isJsonBlank c = true) (h : Dialect.json.Denotes w (.items vs) rs)
    (hread : (Part.items vs).IsRead constants w rs) : (Part.value (.list vs)).IsRead constants ('[' :: (b ++ (w ++ [']']))) rs := by
  rintro (_ | n) rest hfuel -
  · cases hfuel
  · simp only [List.length_cons, List.length_append] at hfuel
    simp only [List.cons_append, List.append_assoc, List.nil_append]
    refine gives_of_open (fun _ _ => readValue_list) ?_ ?_
    all_goals rw [skipBlanks_append hb (h.ends_blank _)]
    · exact h.ends (fun c hc => (of_beginsNothing_eq_false hc).2.1) _
    · exact hread n rest (by omega)

theorem isRead_emptyObject (hb : ∀ c ∈ b, isJsonBlank c = true) :
    (Part.value (.object [])).IsRead constants ('\x7b' :: (b ++ ['\x7d'])) [] := by
  rintro (_ | n) rest hfuel -
  · cases hfuel
  · rw [List.cons_append, List.append_assoc]
    exact gives_of_closed (fun _ _ => readValue_object) (skipBlanks_append hb (ends_cons.2 rfl)) (tolerates_nil constants)

theorem isRead_object (hb : ∀ c ∈ b, isJsonBlank c = true) (h : Dialect.json.Denotes w (.entries es) rs)
    (hread : (Part.entries es).IsRead constants w rs) :
    (Part.value (.object (collected es))).IsRead constants ('\x7b' :: (b ++ (w ++ ['\x7d']))) rs := by
  rintro (_ | n) rest hfuel -
  · cases hfuel
  · simp only [List.length_cons, List.length_append] at hfuel
    simp only [List.cons_append, List.append_assoc, List.nil_append]
    refine gives_of_open (fun _ _ => readValue_object) ?_ ?_
    all_goals rw [skipBlanks_append hb (h.ends_blank _)]
    · exact h.ends (fun c hc => (of_beginsNothing_eq_false hc).2.2.1) _
    · exact hread n [] rest (by omega)

theorem isRead_item (hread : (Part.value v).IsRead constants u rs) (hb : ∀ c ∈ b, isJsonBlank c = true) :
    (Part.items [v]).IsRead constants (u ++ b) rs := by
  rintro (_ | n) rest hfuel ⟨items, rest'⟩
  · cases hfuel
  · rw [List.length_append] at hfuel
    rw [List.append_assoc, readItems_eq_ok_iff, (hread n _ (by omega) (ends_blanks hb rfl)).exists_iff,
      skipBlanks_append hb (ends_cons.2 rfl)]
    simp [eq_comm, and_comm]

theorem isRead_items (hread : (Part.value v).IsRead constants u rs) (hb : ∀ c ∈ b, isJsonBlank c = true)
    (hb' : ∀ c ∈ b', isJsonBlank c = true) (hw : Dialect.json.Denotes w (.items vs) rs') (hmore : (Part.items vs).IsRead constants w rs') :
    (Part.items (v :: vs)).IsRead constants (u ++ (b ++ ',' :: (b' ++ w))) (rs ++ rs') := by
  rintro (_ | n) rest hfuel ⟨items, rest'⟩
  · cases hfuel
  · simp only [List.length_append, List.length_cons] at hfuel
    simp only [List.append_assoc, List.cons_append]
    rw [readItems_eq_ok_iff, (hread n _ (by omega) (ends_blanks hb rfl)).exists_iff, skipBlanks_append hb (ends_cons.2 rfl), tolerates_append]
    have hitems := hmore n rest (by omega)
    constructor
    · rintro ⟨htolerates, ⟨hclosed, -⟩ | ⟨left, more, hleft, hmore', rfl⟩⟩
      · exact absurd hclosed (by simp)
      · obtain rfl := (List.cons.inj hleft).2
        rw [skipBlanks_append hb' (hw.ends_blank _)] at hmore'
        obtain ⟨htolerates', heq⟩ := (hitems _).1 hmore'
        obtain ⟨rfl, rfl⟩ := Prod.mk.inj heq
        exact ⟨⟨htolerates, htolerates'⟩, rfl⟩
    · rintro ⟨⟨htolerates, htolerates'⟩, heq⟩
      obtain ⟨rfl, rfl⟩ := Prod.mk.inj heq
      refine ⟨htolerates, .inr ⟨_, vs, rfl, ?_, rfl⟩⟩
      rw [skipBlanks_append hb' (hw.ends_blank _)]
      exact (hitems _).2 ⟨htolerates', rfl⟩

/-- The name, the colon and the value of an entry are read, and what follows decides. -/
theorem readEntries_entry {k name left rest : Text} {p : Prop} {n : Nat} {before entries : List (Text × Json)} (hname : Spells k name)
    (hb : ∀ c ∈ b, isJsonBlank c = true) (hb' : ∀ c ∈ b', isJsonBlank c = true) (hu : Ends isJsonBlank (u ++ left))
    (hread : Gives (readValue constants n (u ++ left)) p (v, left)) :
    readEntries constants (n + 1) before ('"' :: (k ++ (b ++ ':' :: (b' ++ (u ++ left))))) = .ok (entries, rest) ↔
      p ∧ (skipBlanks left = '\x7d' :: rest ∧ entries = put name v before ∨
        ∃ left', skipBlanks left = ',' :: left' ∧ readEntries constants n (put name v before) (skipBlanks left') = .ok (entries, rest)) := by
  have hspelled := fun opened => readString_of_spells hname opened (b ++ ':' :: (b' ++ (u ++ left)))
  have hcolon : skipBlanks (b ++ ':' :: (b' ++ (u ++ left))) = ':' :: (b' ++ (u ++ left)) := skipBlanks_append hb (ends_cons.2 rfl)
  have hvalue : skipBlanks (b' ++ (u ++ left)) = u ++ left := skipBlanks_append hb' hu
  rw [readEntries_eq_ok_iff]
  constructor
  · rintro ⟨t', name', left', left₁, value, left₂, ht, hname', hcolon', hvalue', hafter⟩
    obtain rfl := (List.cons.inj ht).2
    rw [hspelled] at hname'
    obtain ⟨rfl, rfl⟩ := Prod.mk.inj (Except.ok.inj hname')
    rw [hcolon] at hcolon'
    obtain rfl := (List.cons.inj hcolon').2
    rw [hvalue] at hvalue'
    obtain ⟨hp, heq⟩ := (hread _).1 hvalue'
    obtain ⟨rfl, rfl⟩ := Prod.mk.inj heq
    exact ⟨hp, hafter⟩
  · rintro ⟨hp, hafter⟩
    refine ⟨_, name, _, _, v, left, rfl, hspelled _, hcolon, ?_, hafter⟩
    rw [hvalue]
    exact (hread _).2 ⟨hp, rfl⟩

theorem isRead_entry {k name : Text} (hname : Atom k (.text name) []) (hb : ∀ c ∈ b, isJsonBlank c = true) (hb' : ∀ c ∈ b', isJsonBlank c = true)
    (h : Dialect.json.Denotes u (.value v) rs) (hread : (Part.value v).IsRead constants u rs) (hb'' : ∀ c ∈ b'', isJsonBlank c = true) :
    (Part.entries [(name, v)]).IsRead constants (k ++ (b ++ ':' :: (b' ++ (u ++ b'')))) rs := by
  obtain ⟨k, rfl, hspells⟩ := hname.exists_spells
  rintro (_ | n) before rest hfuel ⟨entries, rest'⟩
  · cases hfuel
  · simp only [List.length_append, List.length_cons] at hfuel
    simp only [List.append_assoc, List.cons_append]
    rw [readEntries_entry hspells hb hb' (h.ends_blank _) (hread n _ (by omega) (ends_blanks hb'' rfl)),
      skipBlanks_append hb'' (ends_cons.2 rfl)]
    simp [eq_comm, and_comm]

theorem isRead_entries {k name : Text} (hname : Atom k (.text name) []) (hb : ∀ c ∈ b, isJsonBlank c = true)
    (hb' : ∀ c ∈ b', isJsonBlank c = true) (h : Dialect.json.Denotes u (.value v) rs) (hread : (Part.value v).IsRead constants u rs)
    (hb'' : ∀ c ∈ b'', isJsonBlank c = true) (hb₃ : ∀ c ∈ b₃, isJsonBlank c = true) (hw : Dialect.json.Denotes w (.entries es) rs')
    (hmore : (Part.entries es).IsRead constants w rs') :
    (Part.entries ((name, v) :: es)).IsRead constants (k ++ (b ++ ':' :: (b' ++ (u ++ (b'' ++ ',' :: (b₃ ++ w)))))) (rs ++ rs') := by
  obtain ⟨k, rfl, hspells⟩ := hname.exists_spells
  rintro (_ | n) before rest hfuel ⟨entries, rest'⟩
  · cases hfuel
  · simp only [List.length_append, List.length_cons] at hfuel
    simp only [List.append_assoc, List.cons_append]
    rw [readEntries_entry hspells hb hb' (h.ends_blank _) (hread n _ (by omega) (ends_blanks hb'' rfl)),
      skipBlanks_append hb'' (ends_cons.2 rfl), tolerates_append, and_assoc]
    refine and_congr_right fun _ => ?_
    have hentries := hmore n (put name v before) rest (by omega) (entries, rest')
    rw [← skipBlanks_append hb₃ (hw.ends_blank _)] at hentries
    rw [List.foldl_cons, ← hentries]
    simp

end Steps

/-- What is said is read, unless something in it is refused. -/
theorem Dialect.Denotes.isRead (constants : Bool) {u : Text} {p : Part} {rs : List Refusal} (h : Dialect.json.Denotes u p rs) :
    p.IsRead constants u rs := by
  induction h with
  | atom h => exact isRead_atom h
  | emptyList hb => exact isRead_emptyList hb
  | list hb h ih => exact isRead_list hb h ih
  | emptyObject hb => exact isRead_emptyObject hb
  | object hb h ih => exact isRead_object hb h ih
  | item h hb ih => exact isRead_item ih hb
  | items h hb hb' hmore ih ihmore => exact isRead_items ih hb hb' hmore ihmore
  | entry hname hb hb' h hb'' ih => exact isRead_entry hname hb hb' h ih hb''
  | entries hname hb hb' h hb'' hb₃ hmore ih ihmore => exact isRead_entries hname hb hb' h ih hb'' hb₃ hmore ihmore

/-! ## What is read is said -/

/-- A text begins with what says a part, and nothing in it is refused. -/
def Begins (constants : Bool) (t : Text) (p : Part) (rest : Text) : Prop :=
  ∃ u rs, t = u ++ rest ∧ Dialect.json.Denotes u p rs ∧ Tolerates constants rs

/-- With some fuel, what is read as a value says it. -/
def ValuesSaid (constants : Bool) (fuel : Nat) : Prop :=
  ∀ {t v rest}, readValue constants fuel t = .ok (v, rest) → Begins constants t (.value v) rest

/-- With some fuel, what is read as items up to the closing bracket says them. -/
def ItemsSaid (constants : Bool) (fuel : Nat) : Prop :=
  ∀ {t vs rest}, readItems constants fuel t = .ok (vs, rest) → Begins constants t (.items vs) (']' :: rest)

/-- With some fuel, what is read as entries up to the closing brace says the ones that are put to those before. -/
def EntriesSaid (constants : Bool) (fuel : Nat) : Prop :=
  ∀ {t before entries rest}, readEntries constants fuel before t = .ok (entries, rest) →
    ∃ es, Begins constants t (.entries es) ('\x7d' :: rest) ∧ entries = es.foldl (fun done e => put e.1 e.2 done) before

section Steps

variable {constants : Bool} {fuel : Nat}

theorem itemsSaid_succ (hv : ValuesSaid constants fuel) (hi : ItemsSaid constants fuel) : ItemsSaid constants (fuel + 1) := by
  intro t vs rest h
  obtain ⟨v, left, hvalue, hafter⟩ := readItems_eq_ok_iff.1 h
  obtain ⟨u, rs, rfl, hu, htolerates⟩ := hv hvalue
  obtain ⟨b, hleft, hb, -⟩ := exists_blanks left
  rcases hafter with ⟨hskip, rfl⟩ | ⟨left', more, hskip, hmore, rfl⟩
  · rw [hskip] at hleft
    exact ⟨u ++ b, rs, by rw [hleft, List.append_assoc], .item hu hb, htolerates⟩
  · rw [hskip] at hleft
    obtain ⟨b', hleft', hb', -⟩ := exists_blanks left'
    obtain ⟨w, rs', hw, hmore', htolerates'⟩ := hi hmore
    rw [hw] at hleft'
    exact ⟨_, rs ++ rs', by simp [hleft, hleft'], .items hu hb hb' hmore', tolerates_append.2 ⟨htolerates, htolerates'⟩⟩

theorem entriesSaid_succ (hv : ValuesSaid constants fuel) (he : EntriesSaid constants fuel) : EntriesSaid constants (fuel + 1) := by
  intro t before entries rest h
  obtain ⟨t', name, left, left₁, v, left₂, rfl, hname, hcolon, hvalue, hafter⟩ := readEntries_eq_ok_iff.1 h
  obtain ⟨k, rfl, hspells⟩ := spells_of_readString hname
  obtain ⟨b, hleft, hb, -⟩ := exists_blanks left
  obtain ⟨b', hleft₁, hb', -⟩ := exists_blanks left₁
  obtain ⟨u, rs, hu, hsaid, htolerates⟩ := hv hvalue
  obtain ⟨b'', hleft₂, hb'', -⟩ := exists_blanks left₂
  rw [hcolon] at hleft
  rw [hu] at hleft₁
  rcases hafter with ⟨hskip, rfl⟩ | ⟨left₃, hskip, hmore⟩
  · rw [hskip] at hleft₂
    exact ⟨[(name, v)], ⟨_, rs, by simp [hleft, hleft₁, hleft₂], .entry (.string hspells) hb hb' hsaid hb'', htolerates⟩, rfl⟩
  · rw [hskip] at hleft₂
    obtain ⟨b₃, hleft₃, hb₃, -⟩ := exists_blanks left₃
    obtain ⟨es, ⟨w, rs', hw, hmore', htolerates'⟩, rfl⟩ := he hmore
    rw [hw] at hleft₃
    exact ⟨(name, v) :: es, ⟨_, rs ++ rs', by simp [hleft, hleft₁, hleft₂, hleft₃],
      .entries (.string hspells) hb hb' hsaid hb'' hb₃ hmore', tolerates_append.2 ⟨htolerates, htolerates'⟩⟩, rfl⟩

theorem valuesSaid_succ (hi : ItemsSaid constants fuel) (he : EntriesSaid constants fuel) : ValuesSaid constants (fuel + 1) := by
  intro t v rest h
  rcases marked_or_ends t with ⟨t, rfl⟩ | ⟨t, rfl⟩ | ⟨t, rfl⟩ | hends
  · obtain ⟨s, hs, rfl⟩ := readValue_string.1 h
    obtain ⟨w, rfl, hspells⟩ := spells_of_readString hs
    exact ⟨'"' :: w, [], rfl, .atom (.string hspells), tolerates_nil constants⟩
  · obtain ⟨b, ht, hb, -⟩ := exists_blanks t
    rcases readValue_list.1 h with ⟨hskip, rfl⟩ | ⟨-, vs, hvs, rfl⟩
    · rw [hskip] at ht
      exact ⟨_, [], by simp [ht], .emptyList hb, tolerates_nil constants⟩
    · obtain ⟨w, rs, hw, hsaid, htolerates⟩ := hi hvs
      rw [hw] at ht
      exact ⟨_, rs, by simp [ht], .list hb hsaid, htolerates⟩
  · obtain ⟨b, ht, hb, -⟩ := exists_blanks t
    rcases readValue_object.1 h with ⟨hskip, rfl⟩ | ⟨-, entries, hentries, rfl⟩
    · rw [hskip] at ht
      exact ⟨_, [], by simp [ht], .emptyObject hb, tolerates_nil constants⟩
    · obtain ⟨es, ⟨w, rs, hw, hsaid, htolerates⟩, rfl⟩ := he hentries
      rw [hw] at ht
      exact ⟨_, rs, by simp [ht], .object hb hsaid, htolerates⟩
  · rw [readValue_scalar hends] at h
    obtain ⟨u, rs, rfl, hscalar, htolerates⟩ := scalar_of_readScalar h
    exact ⟨u, rs, rfl, .atom (.scalar hscalar), htolerates⟩

end Steps

/-- Whatever the fuel, what is read is said. -/
theorem denotes_of_read (constants : Bool) (fuel : Nat) :
    ValuesSaid constants fuel ∧ ItemsSaid constants fuel ∧ EntriesSaid constants fuel := by
  induction fuel with
  | zero =>
    refine ⟨?_, ?_, ?_⟩
    · intro t v rest h
      rw [readValue] at h
      cases h
    · intro t vs rest h
      rw [readItems] at h
      cases h
    · intro t before entries rest h
      rw [readEntries] at h
      cases h
  | succ fuel ih =>
    obtain ⟨hv, hi, he⟩ := ih
    exact ⟨valuesSaid_succ hi he, itemsSaid_succ hv hi, entriesSaid_succ hv he⟩

/-! ## Whole texts -/

/-- A whole text is read as what its value is read as, with nothing but blanks after that. -/
theorem readWhole_eq_ok_iff {constants : Bool} {t : Text} {v : Json} :
    readWhole constants t = .ok v ↔
      t.head? ≠ some '\uFEFF' ∧ ∃ rest, readValue constants (t.length + 1) (skipBlanks t) = .ok (v, rest) ∧ skipBlanks rest = [] := by
  have hmark : readWhole constants t = .ok v ∧ t.head? ≠ some '\uFEFF' ↔ readWhole constants t = .ok v := by
    refine and_iff_left_of_imp fun h hmark => ?_
    obtain ⟨t, rfl⟩ := List.head?_eq_some_iff.1 hmark
    cases h
  rw [← hmark, and_comm]
  refine and_congr_right fun hne => ?_
  rw [readWhole]
  · constructor
    · intro h
      split at h
      · cases h
      · rename_i value rest hvalue
        split at h
        · rename_i hskip
          cases h
          exact ⟨rest, hvalue, hskip⟩
        · cases h
    · rintro ⟨rest, hvalue, hskip⟩
      simp only [hvalue, hskip]
  · rintro t rfl
    exact hne rfl

/-- A number ends before blanks that end a text. -/
theorem ends_blanks_nil {b : Text} (hb : ∀ c ∈ b, isJsonBlank c = true) : Ends isNumberChar b := by
  have h : Ends isNumberChar (b ++ ['"']) := ends_blanks hb rfl
  cases b with
  | nil => exact ends_nil _
  | cons c b => exact ends_cons.2 (ends_cons.1 h)

/-- What a whole text says decides what it is read as: nothing else, and nothing at all if something in it is refused. -/
theorem Dialect.Says.readWhole_iff {t : Text} {v w : Json} {rs : List Refusal} (h : Dialect.json.Says t v rs) (constants : Bool) :
    readWhole constants t = .ok w ↔ Tolerates constants rs ∧ w = v := by
  obtain ⟨before, u, after, rfl, hbefore, hafter, hu⟩ := h
  obtain ⟨c, t, hut, hc⟩ := hu.head
  -- A text that begins with the mark of an encoding is refused before anything is read.
  have hmark : (before ++ (u ++ after)).head? ≠ some '\uFEFF' := by
    cases before with
    | nil =>
      rw [hut]
      exact fun hhead => (of_beginsNothing_eq_false hc).2.2.2 (Option.some.inj hhead)
    | cons d before =>
      intro hhead
      obtain rfl : d = '\uFEFF' := Option.some.inj hhead
      exact absurd (hbefore _ List.mem_cons_self) (by decide)
  have hread : Gives _ _ _ := hu.isRead constants ((before ++ (u ++ after)).length + 1) after
    (by simp only [List.length_append]; omega) (ends_blanks_nil hafter)
  have hrest : skipBlanks after = [] := List.dropWhile_eq_nil_iff.2 hafter
  rw [readWhole_eq_ok_iff, skipBlanks_append hbefore (hu.ends_blank _)]
  constructor
  · rintro ⟨-, rest, hvalue, -⟩
    obtain ⟨htolerates, heq⟩ := (hread _).1 hvalue
    exact ⟨htolerates, (Prod.mk.inj heq).1⟩
  · rintro ⟨htolerates, rfl⟩
    exact ⟨hmark, after, (hread _).2 ⟨htolerates, rfl⟩, hrest⟩

/-- A whole text is read as a value if it says the value and nothing in it is refused, and only then. -/
theorem readWhole_eq_ok_iff_said {constants : Bool} {t : Text} {v : Json} :
    readWhole constants t = .ok v ↔ ∃ rs, Dialect.json.Says t v rs ∧ Tolerates constants rs := by
  constructor
  · intro h
    obtain ⟨-, rest, hvalue, hskip⟩ := readWhole_eq_ok_iff.1 h
    obtain ⟨before, hbefore, hblank, -⟩ := exists_blanks t
    obtain ⟨after, hafter, hblank', -⟩ := exists_blanks rest
    obtain ⟨u, rs, hu, hsaid, htolerates⟩ := (denotes_of_read constants _).1 hvalue
    rw [hskip, List.append_nil] at hafter
    exact ⟨rs, ⟨before, u, rest, hu ▸ hbefore, hblank, hafter ▸ hblank', hsaid⟩, htolerates⟩
  · rintro ⟨rs, hsaid, htolerates⟩
    exact (hsaid.readWhole_iff constants).2 ⟨htolerates, rfl⟩

theorem mapError_eq_ok_iff {ε δ α : Type} {r : Except ε α} {f : ε → δ} {a : α} : r.mapError f = .ok a ↔ r = .ok a := by
  cases r <;> simp [Except.mapError]

theorem read_eq_ok_iff {t : Text} {v : Json} : Json.read t = .ok v ↔ readWhole true t = .ok v := mapError_eq_ok_iff

theorem readStrict_eq_ok_iff {t : Text} {v : Json} : Json.readStrict t = .ok v ↔ readWhole false t = .ok v := mapError_eq_ok_iff

/-- An object is said between braces. -/
theorem Dialect.Denotes.braces {u : Text} {entries : List (Text × Json)} {rs : List Refusal}
    (h : Dialect.json.Denotes u (.value (.object entries)) rs) : u.head? = some '\x7b' ∧ u.getLast? = some '\x7d' := by
  cases h with
  | atom h =>
    cases h with
    | scalar h =>
      cases h with
      | number h => cases h
      | minus h => cases h
  | emptyObject => exact ⟨rfl, by simp [List.getLast?_cons]⟩
  | object => exact ⟨rfl, by simp [List.getLast?_cons, List.getLast?_append]⟩

/-- A text that writes an object does so between a brace and a brace, with nothing but blanks around them. -/
theorem read_object {t : Text} {entries : List (Text × Json)} (h : Json.read t = .ok (.object entries)) :
    ∃ before u after, t = before ++ (u ++ after) ∧ (∀ c ∈ before, isJsonBlank c = true) ∧ (∀ c ∈ after, isJsonBlank c = true) ∧
      u.head? = some '\x7b' ∧ u.getLast? = some '\x7d' ∧ Json.read u = .ok (.object entries) := by
  obtain ⟨rs, ⟨before, u, after, rfl, hbefore, hafter, hu⟩, htolerates⟩ := readWhole_eq_ok_iff_said.1 (read_eq_ok_iff.1 h)
  obtain ⟨hopen, hclose⟩ := hu.braces
  refine ⟨before, u, after, rfl, hbefore, hafter, hopen, hclose, read_eq_ok_iff.2 (readWhole_eq_ok_iff_said.2 ⟨rs, ⟨[], u, [], ?_⟩, htolerates⟩)⟩
  exact ⟨by simp, List.forall_mem_nil _, List.forall_mem_nil _, hu⟩

end Flashcards.Json
