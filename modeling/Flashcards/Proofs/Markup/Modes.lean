import Flashcards.Proofs.Markup.Endings
import Flashcards.Proofs.Markup.Names

/-!
# What the lexer reads

Between the start tag of a script or a style sheet and its end tag nothing is read but running text. What one step reads, it reads in a mode,
outside of such elements or within one, and it leaves a mode for the next (`Turns`). Each token has a shape that lets it be written and read
again (`Token.Shaped`): its names are in lower case, and its content holds no end of its own; and no end tag of a raw element stands in the
running text that is read within it. What a pass reads, and what is read of a whole text, goes through the modes so
(`Lexer.tokens_follows`).
-/

namespace Flashcards.Markup

open Text

/-- What is known of every token that is read outside of raw elements. -/
def Token.Shaped : Token → Prop
  | .startTag name as | .emptyTag name as => NamesLegible name as
  | .comment content => Unbroken endsComment content
  | .doctype content | .instruction content => '>' ∉ content
  | .cdata content => Unbroken (endsSection 2) content
  | .data _ | .endTag _ | .declaration _ => True

/-- Running text in one piece, if there is any. -/
def textPieces (content : Text) : List Text := if content.isEmpty then [] else [content]

theorem flatten_textPieces (content : Text) : (textPieces content).flatten = content := by
  unfold textPieces
  cases content <;> simp

/-- Tokens read by one step in a mode, and the mode after them. The mode is the name of the raw element whose content is being read, or none.
What only looks like the end tag of a raw element is running text up to its `>`. -/
inductive Turns : Option Text → List Token → Option Text → Prop
  | opens {name : Text} {as : RawAttributes} (h : isRawElement name = true) (hs : NamesLegible name as) :
    Turns none [.startTag name as] (some name)
  | content {name before fake : Text} (h : Unbroken (closes name) (before ++ (fake ++ ['>']))) :
    Turns (some name) ((textPieces before ++ [fake ++ ['>']]).map .data) (some name)
  | closes {name before : Text} (h : Unbroken (closes name) before) : Turns (some name) ((textPieces before).map .data ++ [.endTag name]) none
  | markup {token : Token} (h : ∀ name as, token = .startTag name as → isRawElement name = false) (hs : token.Shaped) :
    Turns none [token] none

/-- Tokens read step after step from a mode on, and the mode after them. -/
inductive Follows : Option Text → List Token → Option Text → Prop
  | nil {mode : Option Text} : Follows mode [] mode
  | cons {mode mode' mode'' : Option Text} {read tokens : List Token} (h : Turns mode read mode')
    (hs : Follows mode' tokens mode'') : Follows mode (read ++ tokens) mode''

namespace Follows

variable {mode mode' mode'' : Option Text} {tokens tokens' : List Token}

theorem append (h : Follows mode tokens mode') (h' : Follows mode' tokens' mode'') : Follows mode (tokens ++ tokens') mode'' := by
  induction h with
  | nil => exact h'
  | cons ht _ ih =>
    rw [List.append_assoc]
    exact .cons ht (ih h')

theorem one (h : Turns mode tokens mode') : Follows mode tokens mode' := by
  rw [← List.append_nil tokens]
  exact .cons h .nil

/-- A token that is no start tag, outside of raw elements. -/
theorem one_markup {token : Token} (h : ∀ name as, token ≠ .startTag name as) (hs : token.Shaped) : Follows none [token] none :=
  one (.markup (fun name as heq => absurd heq (h name as)) hs)

theorem data (content : Text) : Follows none [.data content] none := one_markup (fun _ _ h => by cases h) trivial

end Follows

namespace Lexer

/-- What one step reads goes through the modes; where a pass ends, in the mode it ends in. -/
def Step.Follows (mode : Option Text) : Step → Prop
  | .goOn tokens mode' _ => Markup.Follows mode tokens mode'
  | .halt tokens _ => Markup.Follows mode tokens mode

theorem incomplete_follows (final : Bool) (t : Text) : (incomplete final t).Follows none := by
  unfold incomplete
  split
  · exact .nil
  · split
    · exact .nil
    · split
      · exact .data _
      · split <;> exact .data _

theorem complete_follows (final : Bool) (t : Text) {r : Option (Token × Text)}
    (h : ∀ token rest, r = some (token, rest) → token.Shaped ∧ ∀ name as, token ≠ .startTag name as) : (complete final t r).Follows none := by
  cases r with
  | none => exact incomplete_follows final t
  | some r => exact .one_markup (h r.1 r.2 rfl).2 (h r.1 r.2 rfl).1

theorem stepStartTag_follows {final : Bool} {c : Char} (hc : isLetter c = true) {body : Text} {s : Step}
    (h : stepStartTag final ('<' :: c :: body) = .ok s) : s.Follows none := by
  unfold stepStartTag at h
  split at h
  · cases h
  · obtain rfl := Except.ok.inj h
    rename_i name as rest htag
    obtain ⟨name', as', htoken | htoken, hnames⟩ := names_of_takeStartTag hc htag
    · obtain ⟨rfl, rfl⟩ := Token.startTag.inj htoken
      show Markup.Follows none [.startTag name as] (if isRawElement name = true then some name else none)
      cases hraw : isRawElement name with
      | true => exact .one (.opens hraw hnames)
      | false =>
        refine .one (.markup (fun name' as' heq => ?_) hnames)
        obtain ⟨rfl, -⟩ := Token.startTag.inj heq
        exact hraw
    · cases htoken
  · obtain rfl := Except.ok.inj h
    rename_i token rest hnot htag
    obtain ⟨name, as, htoken | rfl, hnames⟩ := names_of_takeStartTag hc htag
    · exact absurd htoken (hnot name as)
    · exact .one_markup (fun _ _ heq => by cases heq) hnames
  · obtain rfl := Except.ok.inj h
    exact .data _
  · obtain rfl := Except.ok.inj h
    exact incomplete_follows final _

/-- What is read at a loose end tag is an end tag or a comment. -/
theorem shaped_of_takeLooseEndTag {t : Text} {token : Token} {rest : Text} (h : takeLooseEndTag t = (some token, rest)) :
    token.Shaped ∧ ∀ name as, token ≠ .startTag name as := by
  unfold takeLooseEndTag at h
  dsimp only at h
  split at h
  · cases h
  · split at h
    · obtain ⟨htoken, -⟩ := Prod.mk.inj h
      obtain rfl := Option.some.inj htoken
      exact ⟨trivial, fun _ _ heq => by cases heq⟩
    · split at h
      · cases h
      · split at h
        · rename_i hbreak
          obtain ⟨htoken, -⟩ := Prod.mk.inj h
          obtain rfl := Option.some.inj htoken
          exact ⟨unbroken_of_not_mem (not_mem_of_breakOn hbreak), fun _ _ heq => by cases heq⟩
        · cases h

theorem stepEndTag_follows (final : Bool) (t : Text) : (stepEndTag final t).Follows none := by
  unfold stepEndTag
  split
  · exact incomplete_follows final t
  · split
    · exact .one_markup (fun _ _ h => by cases h) trivial
    · split
      · rename_i h
        exact .one_markup (shaped_of_takeLooseEndTag h).2 (shaped_of_takeLooseEndTag h).1
      · exact .nil

theorem sectionBrackets?_eq {name : Text} {brackets : Nat} (h : sectionBrackets? name = some brackets) : brackets = 1 ∨ brackets = 2 := by
  unfold sectionBrackets? at h
  split at h
  · exact .inr (Option.some.inj h).symm
  · split at h
    · exact .inl (Option.some.inj h).symm
    · cases h

/-- What is read as a marked section is a declaration or character data. -/
theorem shaped_of_takeSection {t : Text} {token : Token} {rest : Text} (h : takeSection t = .ok (some (token, rest))) :
    token.Shaped ∧ ∀ name as, token ≠ .startTag name as := by
  unfold takeSection at h
  dsimp only at h
  split at h
  · cases h
  · split at h
    · cases h
    · split at h
      · cases h
      · split at h
        · cases h
        · rename_i brackets hbrackets
          split at h
          · cases h
          · rename_i content rest' hbreak
            obtain ⟨rfl, -⟩ := Prod.mk.inj (Option.some.inj (Except.ok.inj h))
            obtain ⟨u, -, -, -, hclear⟩ := exists_of_breakAt (endsAt_section brackets) hbreak
            have hcontent : Unbroken (endsSection 2) content := by
              rcases sectionBrackets?_eq hbrackets with rfl | rfl
              · exact unbroken_section hclear.unbroken
              · exact hclear.unbroken
            unfold declarationToken
            split
            · refine ⟨?_, fun _ _ heq => by cases heq⟩
              intro a u v heq hu
              refine hcontent (content.take 6 ++ a) u v ?_ hu
              rw [List.append_assoc, ← heq, List.take_append_drop]
            · exact ⟨trivial, fun _ _ heq => by cases heq⟩

/-- What is read as a declaration is no tag. -/
theorem shaped_of_takeDeclaration {t : Text} {token : Token} {rest : Text} (h : takeDeclaration t = .ok (some (token, rest))) :
    token.Shaped ∧ ∀ name as, token ≠ .startTag name as := by
  unfold takeDeclaration at h
  split at h
  · exact shaped_of_takeSection h
  · split at h
    · obtain ⟨r, hr, hpair⟩ := Option.map_eq_some_iff.1 (Except.ok.inj h)
      obtain ⟨rfl, -⟩ := Prod.mk.inj hpair
      refine ⟨?_, fun _ _ heq => by cases heq⟩
      exact fun hmem => not_mem_of_breakOn hr (List.mem_of_mem_drop hmem)
    · obtain ⟨r, hr, hpair⟩ := Option.map_eq_some_iff.1 (Except.ok.inj h)
      obtain ⟨rfl, -⟩ := Prod.mk.inj hpair
      exact ⟨unbroken_of_not_mem (not_mem_of_breakOn hr), fun _ _ heq => by cases heq⟩

theorem stepMarkup_follows {final : Bool} {body : Text} {s : Step} (h : stepMarkup final ('<' :: body) = .ok s) : s.Follows none := by
  unfold stepMarkup at h
  split at h
  · obtain rfl := Except.ok.inj h
    exact .nil
  · rename_i c body' hbody
    obtain rfl : body = c :: body' := hbody
    split at h
    · rename_i hc
      exact stepStartTag_follows hc h
    split at h
    · obtain rfl := Except.ok.inj h
      exact stepEndTag_follows final _
    split at h
    · obtain rfl := Except.ok.inj h
      refine complete_follows final _ fun token rest hr => ?_
      obtain ⟨e, he, hpair⟩ := Option.map_eq_some_iff.1 hr
      obtain ⟨rfl, -⟩ := Prod.mk.inj hpair
      obtain ⟨u, -, -, -, hclear⟩ := exists_of_breakAt endsAt_comment he
      exact ⟨hclear.unbroken, fun _ _ heq => by cases heq⟩
    split at h
    · obtain rfl := Except.ok.inj h
      refine complete_follows final _ fun token rest hr => ?_
      obtain ⟨e, he, hpair⟩ := Option.map_eq_some_iff.1 hr
      obtain ⟨rfl, -⟩ := Prod.mk.inj hpair
      exact ⟨not_mem_of_breakOn he, fun _ _ heq => by cases heq⟩
    split at h
    · obtain ⟨r, hr, rfl⟩ := exists_of_map_eq_ok h
      refine complete_follows final _ fun token rest heq => ?_
      subst heq
      cases hd : takeDeclaration ('<' :: c :: body') with
      | error cause => rw [hd] at hr; cases hr
      | ok r =>
        rw [hd] at hr
        obtain rfl : r = some (token, rest) := Except.ok.inj hr
        exact shaped_of_takeDeclaration hd
    · obtain rfl := Except.ok.inj h
      exact .data _

theorem stepReference_follows {final : Bool} {t : Text} {s : Step} (h : stepReference final t = .ok s) : s.Follows none := by
  unfold stepReference at h
  split at h
  · split at h
    · obtain rfl := Except.ok.inj h
      exact .data _
    · cases h
    · obtain rfl := Except.ok.inj h
      split
      · exact .data _
      · exact .nil
  · split at h
    · obtain rfl := Except.ok.inj h
      exact .data _
    · split at h
      · obtain rfl := Except.ok.inj h
        exact .nil
      · split at h
        · obtain rfl := Except.ok.inj h
          split <;> exact .nil
        · obtain rfl := Except.ok.inj h
          exact .data _

/-- The first place where a matcher accepts, with what it accepts there. -/
theorem exists_of_breakAt_self {matcher : Text → Option Text} {t content closing : Text}
    (h : breakAt (fun s => if (matcher s).isSome then some s else none) t = some (content, closing)) :
    ∃ rest, breakAt matcher t = some (content, rest) ∧ t = content ++ closing := by
  induction t generalizing content with
  | nil =>
    rw [breakAt] at h ⊢
    cases hm : matcher [] with
    | none => rw [hm] at h; cases h
    | some rest =>
      rw [hm] at h
      obtain ⟨rfl, rfl⟩ := Prod.mk.inj (Option.some.inj h)
      exact ⟨rest, rfl, rfl⟩
  | cons c t ih =>
    rw [breakAt] at h ⊢
    cases hm : matcher (c :: t) with
    | none =>
      rw [hm] at h
      obtain ⟨⟨content', closing'⟩, hbreak, hpair⟩ := Option.map_eq_some_iff.1 h
      obtain ⟨rfl, rfl⟩ := Prod.mk.inj hpair
      obtain ⟨rest, hrest, rfl⟩ := ih hbreak
      exact ⟨rest, by rw [hrest]; rfl, rfl⟩
    | some rest =>
      rw [hm] at h
      obtain ⟨rfl, rfl⟩ := Prod.mk.inj (Option.some.inj h)
      exact ⟨rest, rfl, rfl⟩

/-- Where the content of a raw element may end: it holds no end tag, and what looks like one follows it, up to its `>`. -/
theorem exists_of_closing {name t content closing : Text} (hname : isRawElement name = true)
    (h : breakAt (fun s => if (dropClosing? name s).isSome then some s else none) t = some (content, closing)) :
    ∃ u rest, closing = u ++ '>' :: rest ∧ t = content ++ closing ∧ '>' ∉ u ∧ looksClosing name u = true ∧
      Clear (looksClosing name) content (u ++ ['>']) := by
  obtain ⟨rest, hbreak, ht⟩ := exists_of_breakAt_self h
  obtain ⟨u, hu, hclosed, hlooks, hclear⟩ := exists_of_breakAt (endsAt_closing hname) hbreak
  exact ⟨u, rest, List.append_cancel_left (ht.symm.trans hu), ht, hclosed, hlooks, hclear⟩

/-- What a step reads in a raw element where something looks like its end tag: the end tag, or running text up to the `>`. -/
theorem stepRaw_eq {name t content u rest : Text}
    (h : breakAt (fun s => if (dropClosing? name s).isSome then some s else none) t = some (content, u ++ '>' :: rest)) (hu : '>' ∉ u)
    (hlooks : looksClosing name u = true) : stepRaw name t =
      if closes name u then .goOn ((textPieces content).map .data ++ [.endTag name]) none rest
      else .goOn ((textPieces content ++ [u ++ ['>']]).map .data) (some name) rest := by
  have hbefore : (if content.isEmpty then [] else [Token.data content]) = (textPieces content).map .data := by
    unfold textPieces
    split <;> rfl
  unfold stepRaw
  rw [h]
  dsimp only
  rw [List.map_append, takePlainEndTag?_append hu, breakOn_append hu]
  unfold closes
  rw [hlooks, Bool.true_and]
  cases hplain : plainEndName? u with
  | none =>
    rw [← hbefore]
    rfl
  | some found =>
    have htake : (u ++ '>' :: rest).take ((u ++ '>' :: rest).length - rest.length) = u ++ ['>'] := by
      have hlength : (u ++ '>' :: rest).length - rest.length = (u ++ ['>']).length := by
        simp only [List.length_append, List.length_cons, List.length_nil]
        omega
      rw [hlength, show u ++ '>' :: rest = (u ++ ['>']) ++ rest by simp, List.take_left]
    simp only [Option.map_some, hbefore, htake]
    by_cases hfound : found = name
    · rw [if_pos hfound, if_pos (by rw [hfound]; exact beq_self_eq_true _)]
    · rw [if_neg hfound, if_neg (by simpa using hfound)]
      rfl

/-- Within a raw element running text is read, and then its end tag, or running text that looks like one. -/
theorem stepRaw_follows {name : Text} (hname : isRawElement name = true) (t : Text) : (stepRaw name t).Follows (some name) := by
  cases hbreak : breakAt (fun s => if (dropClosing? name s).isSome then some s else none) t with
  | none =>
    unfold stepRaw
    rw [hbreak]
    exact .nil
  | some r =>
    obtain ⟨u, rest, hclosing, -, hu, hlooks, hclear⟩ := exists_of_closing hname hbreak
    rw [stepRaw_eq (by rw [hbreak, ← hclosing]) hu hlooks]
    split
    · exact .one (.closes hclear.unbroken.closes)
    · rename_i hfake
      exact .one (.content (unbroken_of_fake hname hclear hu hlooks (eq_false_of_ne_true hfake)))

/-- A mode of reading: outside of raw elements, or within one. -/
def IsMode (mode : Option Text) : Prop := ∀ name, mode = some name → isRawElement name = true

theorem isMode_none : IsMode none := fun _ h => by cases h

theorem isMode_of_follows {mode mode' : Option Text} {tokens : List Token} (hmode : IsMode mode) (h : Markup.Follows mode tokens mode') :
    IsMode mode' := by
  induction h with
  | nil => exact hmode
  | cons ht _ ih =>
    apply ih
    cases ht with
    | opens hraw hs =>
      intro name heq
      exact Option.some.inj heq ▸ hraw
    | content _ => exact hmode
    | closes _ => exact isMode_none
    | markup _ _ => exact hmode

/-- What a step reads goes through the modes. -/
theorem step_follows {final : Bool} {mode : Option Text} (hmode : IsMode mode) {t : Text} {s : Step} (h : step final mode t = .ok s) :
    s.Follows mode := by
  unfold step at h
  split at h
  · obtain rfl := Except.ok.inj h
    exact stepRaw_follows (hmode _ rfl) t
  · split at h
    · obtain rfl := Except.ok.inj h
      exact .nil
    · exact stepMarkup_follows h
    · exact stepReference_follows h
    · obtain rfl := Except.ok.inj h
      exact .data _

/-- What a pass reads goes through the modes. -/
theorem run_follows {final : Bool} {mode : Option Text} (hmode : IsMode mode) {t : Text} {p : Pass} (h : run final mode t = .ok p) :
    Markup.Follows mode p.tokens p.raw := by
  fun_induction run final mode t generalizing p with
  | case1 =>
    obtain rfl := Except.ok.inj h
    exact .nil
  | case2 => cases h
  | case3 mode t _ tokens rest hs =>
    obtain rfl := Except.ok.inj h
    exact step_follows hmode hs
  | case4 mode t _ tokens mode' rest hs _ ih =>
    cases hr : run final mode' rest with
    | error fault => rw [hr] at h; cases h
    | ok p' =>
      rw [hr] at h
      obtain rfl := Except.ok.inj h
      have hstep : Markup.Follows mode tokens mode' := step_follows hmode hs
      exact hstep.append (ih (isMode_of_follows hmode hstep) hr)
  | case5 mode t _ tokens mode' rest hs _ =>
    obtain rfl := Except.ok.inj h
    exact step_follows hmode hs

/-- What is read of a text goes through the modes, from outside of raw elements on. -/
theorem tokens_follows {t : Text} {ts : List Token} (h : tokens t = .ok ts) : ∃ mode, Markup.Follows none ts mode := by
  unfold tokens at h
  cases hfirst : run false none t with
  | error fault => rw [hfirst] at h; cases h
  | ok first =>
    simp only [hfirst, bind, Except.bind] at h
    have hread := run_follows isMode_none hfirst
    cases hsecond : run true first.raw first.rest with
    | error fault => rw [hsecond] at h; cases h
    | ok second =>
      simp only [hsecond] at h
      obtain rfl := Except.ok.inj h
      have hboth := hread.append (run_follows (isMode_of_follows isMode_none hread) hsecond)
      refine ⟨second.raw, hboth.append ?_⟩
      split
      · -- Running text is left only outside of raw elements.
        rename_i hleft
        have hmode : second.raw = none := Option.isNone_iff_eq_none.1 (Bool.and_eq_true_iff.1 hleft).1
        rw [hmode]
        exact .data _
      · exact .nil

end Lexer

end Flashcards.Markup
