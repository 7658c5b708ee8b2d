import Flashcards.Markup.Tree

/-!
# Reading piece by piece

How the lexer cuts running text into pieces depends on what stands around it, but not what document it is read as. With its running text in
pieces of one character each (`Token.spread`), what is read of a text can be told from what is read of its parts: `Reads t us` says that the
first pass reads the tokens `us` of the text `t`, whatever follows. The document that a text is read as is then made of these tokens
(`Reads.parse`).
-/

namespace Flashcards.Markup

open Text Lexer

/-- Running text in pieces of one character each. -/
def singles (t : Text) : List Token := t.map fun c => .data [c]

/-- A token, its running text in pieces of one character each. -/
def Token.spread : Token → List Token
  | .data (c :: t) => singles (c :: t)
  | token => [token]

theorem singles_append (t u : Text) : singles (t ++ u) = singles t ++ singles u := List.map_append

/-- Running text in any pieces, all of which hold something. -/
theorem spread_data {pieces : List Text} (h : ∀ p ∈ pieces, p ≠ []) :
    (pieces.map Token.data).flatMap Token.spread = singles pieces.flatten := by
  induction pieces with
  | nil => rfl
  | cons p pieces ih =>
    rw [List.forall_mem_cons] at h
    obtain ⟨c, cs, rfl⟩ := List.exists_cons_of_ne_nil h.1
    rw [List.map_cons, List.flatMap_cons, List.flatten_cons, singles_append, ih h.2]
    rfl

/-! ## Documents -/

namespace Construction

/-- Documents under construction that differ only in the pieces that their running text is in. -/
structure Same (d d' : Construction) : Prop where
  opened : d.opened = d'.opened
  top : d.top = d'.top
  isEmpty : d.pieces.isEmpty = d'.pieces.isEmpty
  flatten : d.pieces.reverse.flatten = d'.pieces.reverse.flatten
  passedOver : d.passedOver = d'.passedOver

variable {d d' : Construction}

theorem Same.refl (d : Construction) : Same d d := ⟨rfl, rfl, rfl, rfl, rfl⟩

theorem Same.flush_eq (h : Same d d') (kind : TextKind) : d.flush kind = d'.flush kind := by
  obtain ⟨opened, top, pieces, passedOver⟩ := d
  obtain ⟨opened', top', pieces', passedOver'⟩ := d'
  obtain ⟨hopened, htop, hempty, hflatten, hpassed⟩ := h
  dsimp only at hopened htop hempty hflatten hpassed
  subst hopened htop hpassed
  unfold flush
  dsimp only
  rw [hempty, hflatten]
  split
  · rename_i hnil
    rw [List.isEmpty_iff.1 hnil, List.isEmpty_iff.1 (hempty.trans hnil)]
  · rfl

theorem Same.flushText_eq (h : Same d d') : d.flushText = d'.flushText := by
  have hkind : d.textKind = d'.textKind := by
    unfold textKind
    rw [h.opened]
  unfold flushText
  rw [hkind, h.flush_eq]

/-- A token does not tell them apart. -/
theorem Same.take (h : Same d d') (token : Token) : Same (d.take token) (d'.take token) := by
  have htext : ∀ kind content, Same (d.appendText kind content) (d'.appendText kind content) := by
    intro kind content
    unfold appendText
    rw [h.flushText_eq]
    exact .refl _
  cases token with
  | data content =>
    refine ⟨h.opened, h.top, rfl, ?_, h.passedOver⟩
    show (content :: d.pieces).reverse.flatten = (content :: d'.pieces).reverse.flatten
    rw [List.reverse_cons, List.reverse_cons, List.flatten_append, List.flatten_append, h.flatten]
  | startTag name attributes =>
    unfold Construction.take
    rw [h.flushText_eq]
    exact .refl _
  | emptyTag name attributes =>
    unfold Construction.take
    rw [h.flushText_eq]
    exact .refl _
  | endTag name =>
    show Same (d.endTag name) (d'.endTag name)
    unfold endTag
    rw [← h.passedOver]
    split
    · exact ⟨h.opened, h.top, h.isEmpty, h.flatten, rfl⟩
    · rw [h.flushText_eq]
      exact .refl _
  | comment content => exact htext _ content
  | doctype content => exact htext _ content
  | instruction content => exact htext _ content
  | declaration content => exact htext _ content
  | cdata content => exact htext _ content

theorem Same.trans {d'' : Construction} (h : Same d d') (h' : Same d' d'') : Same d d'' where
  opened := h.opened.trans h'.opened
  top := h.top.trans h'.top
  isEmpty := h.isEmpty.trans h'.isEmpty
  flatten := h.flatten.trans h'.flatten
  passedOver := h.passedOver.trans h'.passedOver

theorem Same.takeAll (h : Same d d') (tokens : List Token) : Same (tokens.foldl Construction.take d) (tokens.foldl Construction.take d') := by
  induction tokens generalizing d d' with
  | nil => exact h
  | cons token tokens ih => exact ih (h.take token)

/-- Pieces of running text are kept until something else comes. -/
theorem foldl_take_data (pieces : List Text) (d : Construction) :
    (pieces.map Token.data).foldl take d = { d with pieces := pieces.reverse ++ d.pieces } := by
  induction pieces generalizing d with
  | nil => rfl
  | cons p ps ih => simp [ih, take]

theorem foldl_take_singles (t : Text) (d : Construction) :
    (singles t).foldl take d = { d with pieces := (t.map fun c => [c]).reverse ++ d.pieces } := by
  rw [← foldl_take_data, List.map_map]
  rfl

/-- It does not matter in what pieces running text comes. -/
theorem same_spread (token : Token) (d : Construction) : Same (token.spread.foldl Construction.take d) (d.take token) := by
  unfold Token.spread
  split
  · rename_i c t
    rw [foldl_take_singles]
    refine ⟨rfl, rfl, ?_, ?_, rfl⟩
    · simp [Construction.take]
    · simp only [Construction.take, List.reverse_append, List.reverse_reverse, List.reverse_cons, List.flatten_append]
      have hflatten : ((c :: t).map fun d => [d]).flatten = c :: t := by
        rw [← List.flatMap_def, List.flatMap_singleton']
      rw [hflatten, List.flatten_singleton]
  · exact .refl _

theorem same_flatMap_spread (tokens : List Token) (d : Construction) :
    Same ((tokens.flatMap Token.spread).foldl Construction.take d) (tokens.foldl Construction.take d) := by
  induction tokens generalizing d with
  | nil => exact .refl d
  | cons token tokens ih =>
    rw [List.flatMap_cons, List.foldl_append]
    exact ((same_spread token d).takeAll _).trans (ih _)

end Construction

/-- The document that tokens make does not depend on the pieces that their running text is in. -/
theorem nodesOf_spread (tokens : List Token) : nodesOf (tokens.flatMap Token.spread) = nodesOf tokens := by
  unfold nodesOf Construction.finish
  rw [(Construction.same_flatMap_spread tokens _).flushText_eq]

/-! ## Texts -/

namespace Lexer

/-- The step of a pass that goes on with a shorter rest. -/
theorem run_goOn {final : Bool} {raw raw' : Option Text} {t rest : Text} {tokens : List Token} (ht : t ≠ [])
    (hs : step final raw t = .ok (.goOn tokens raw' rest)) (hl : rest.length < t.length) :
    run final raw t = (run final raw' rest).map (Pass.after tokens) := by
  have he : t.isEmpty = false := by cases t <;> simp_all
  rw [run, he, if_neg Bool.false_ne_true, hs]
  simp only [hl, dif_pos]

/-- No tokens before those of a pass. -/
theorem map_after_nil (r : Except Fault Pass) : r.map (Pass.after []) = r := by
  cases r <;> rfl

/-- Tokens before tokens before those of a pass. -/
theorem map_after_after (r : Except Fault Pass) (us vs : List Token) :
    (r.map (Pass.after us)).map (Pass.after vs) = r.map (Pass.after (vs ++ us)) := by
  cases r with
  | error e => rfl
  | ok p => simp [Except.map, Pass.after]

/-- What a pass has read, its running text in pieces of one character each. -/
def Pass.spread (p : Pass) : Pass := { p with tokens := p.tokens.flatMap Token.spread }

theorem map_spread_after (r : Except Fault Pass) (us : List Token) :
    (r.map (Pass.after us)).map Pass.spread = (r.map Pass.spread).map (Pass.after (us.flatMap Token.spread)) := by
  cases r with
  | error e => rfl
  | ok p => simp [Except.map, Pass.after, Pass.spread]

/-- What the first pass reads of a text. -/
def firstPass (t : Text) : Except Fault Pass := (run false none t).map Pass.spread

theorem firstPass_nil : firstPass [] = .ok ⟨[], none, []⟩ := by
  unfold firstPass
  rw [run.eq_def]
  rfl

end Lexer

/-- The tokens that the first pass reads of a text, whatever follows it. -/
def Reads (t : Text) (us : List Token) : Prop := ∀ rest, firstPass (t ++ rest) = (firstPass rest).map (Pass.after us)

variable {t u : Text} {us vs : List Token}

theorem Reads.nil : Reads [] [] := fun _ => (map_after_nil _).symm

theorem Reads.append (h : Reads t us) (h' : Reads u vs) : Reads (t ++ u) (us ++ vs) := by
  intro rest
  rw [List.append_assoc, h, h', map_after_after]

/-- A token that a step of the lexer reads of a text whatever follows it. -/
theorem reads_token (token : Token) (hspread : token.spread = [token]) (hne : t ≠ [])
    (h : ∀ rest, step false none (t ++ rest) = .ok (.goOn [token] none rest)) : Reads t [token] := by
  intro rest
  have hlt : rest.length < (t ++ rest).length := by
    rw [List.length_append]
    exact Nat.lt_add_of_pos_left (List.length_pos_iff.2 hne)
  rw [firstPass, run_goOn (List.append_ne_nil_of_left_ne_nil hne rest) (h rest) hlt, map_spread_after, List.flatMap_singleton, hspread]
  rfl

/-! ## Running text -/

/-- A plain character begins a piece of running text that ends before the next character that is not plain. -/
theorem step_of_isPlain (final : Bool) {c : Char} (h : isPlain c = true) (t : Text) :
    step final none (c :: t) = .ok (.goOn [.data ((c :: t).takeWhile isPlain)] none ((c :: t).dropWhile isPlain)) := by
  have hlt : c ≠ '<' := by
    rintro rfl
    cases h
  have hamp : c ≠ '&' := by
    rintro rfl
    cases h
  simp only [step]
  split <;> simp_all

/-- The plain characters that a text begins with. -/
theorem firstPass_eq (t : Text) : firstPass t = (firstPass (t.dropWhile isPlain)).map (Pass.after (singles (t.takeWhile isPlain))) := by
  cases t with
  | nil => exact (map_after_nil _).symm
  | cons c t =>
    cases hc : isPlain c with
    | false =>
      rw [List.dropWhile_cons_of_neg (by rw [hc]; exact Bool.false_ne_true), List.takeWhile_cons_of_neg (by rw [hc]; exact Bool.false_ne_true)]
      exact (map_after_nil _).symm
    | true =>
      have hrun := run_goOn (List.cons_ne_nil c t) (step_of_isPlain false hc t) (by
        rw [List.dropWhile_cons_of_pos hc]
        exact Nat.lt_succ_of_le (List.dropWhile_sublist isPlain).length_le)
      rw [firstPass, hrun, map_spread_after, List.takeWhile_cons_of_pos hc, List.flatMap_singleton]
      rfl

/-- A plain character is read as itself. -/
theorem reads_plain {c : Char} (h : isPlain c = true) : Reads [c] (singles [c]) := by
  intro rest
  rw [firstPass_eq ([c] ++ rest), firstPass_eq rest, map_after_after, List.singleton_append, List.takeWhile_cons_of_pos h, List.dropWhile_cons_of_pos h]
  rfl

/-! ## The document -/

/-- A text all of whose tokens the first pass reads has these tokens, up to the pieces that its running text is in. -/
theorem Reads.tokens (h : Reads t us) : ∃ tokens, Lexer.tokens t = .ok tokens ∧ tokens.flatMap Token.spread = us := by
  have hread := h []
  rw [List.append_nil, firstPass_nil, firstPass] at hread
  cases hrun : run false none t with
  | error e =>
    rw [hrun] at hread
    cases hread
  | ok p =>
    rw [hrun] at hread
    obtain ⟨tokens, raw, rest⟩ := p
    have hpass : Pass.mk (tokens.flatMap Token.spread) raw rest = ⟨us ++ [], none, []⟩ := Except.ok.inj hread
    obtain ⟨htokens, rfl, rfl⟩ := Pass.mk.inj hpass
    have hsecond : run true none [] = .ok ⟨[], none, []⟩ := by
      rw [run.eq_def]
      rfl
    refine ⟨tokens, ?_, by rw [htokens, List.append_nil]⟩
    unfold Lexer.tokens
    simp only [hrun, bind, Except.bind, hsecond, pure, Except.pure, List.append_nil, List.isEmpty_nil, Bool.not_true, Bool.and_false,
      Bool.false_eq_true, if_false]

/-- The document that such a text is read as. -/
theorem Reads.parse (h : Reads t us) : parse t = .ok (nodesOf us) := by
  obtain ⟨tokens, htokens, hspread⟩ := h.tokens
  unfold Markup.parse
  rw [htokens, ← hspread, nodesOf_spread]
  rfl

end Flashcards.Markup
