import Flashcards.Proofs.Markup.Content
import Flashcards.Proofs.Markup.Spelling
import Flashcards.Proofs.Markup.Written

/-!
# What is written is read again

Nodes that have been read and are written out are read as the tokens that they stand for (`Node.reads_writeAll`): each text as itself, an
element as its tags around what stands in it, with its attributes as they are written. The one exception is a declaration in which a `>` stands
(`Node.endsAsWritten`). It is read from `<!` up to its brackets and written from `<?` up to a `>`, so that it ends at its first `>` when it is
read again, and what is behind that becomes markup. A declaration without one is read as an instruction.

So whatever is true of the elements that are written is true of those that are read (`Node.exists_parse_toMarkup`).
-/

namespace Flashcards.Markup

open Text Lexer

/-! ## Comments and declarations -/

theorem reads_comment {t : Text} (h : Unbroken endsComment t) : Reads ("<!--" ++ t ++ "-->") [.comment t] := by
  refine reads_token (.comment t) rfl (List.cons_ne_nil '<' _) fun rest => ?_
  have htext : ("<!--" ++ t ++ "-->") ++ rest = '<' :: '!' :: '-' :: '-' :: (t ++ (("--" : Text) ++ '>' :: rest)) := by simp
  rw [htext]
  show Except.ok (complete false _ ((breakAt dropCommentEnd? (t ++ (("--" : Text) ++ '>' :: rest))).map fun r => (.comment r.1, r.2))) = _
  rw [breakAt_of_unbroken endsAt_comment h tight_comment]
  rfl

theorem reads_instruction {t : Text} (h : '>' ∉ t) : Reads ("<?" ++ t ++ ['>']) [.instruction t] := by
  refine reads_token (.instruction t) rfl (List.cons_ne_nil '<' _) fun rest => ?_
  have htext : ("<?" ++ t ++ ['>']) ++ rest = '<' :: '?' :: (t ++ '>' :: rest) := by simp
  rw [htext]
  show Except.ok (complete false _ ((breakOn '>' (t ++ '>' :: rest)).map fun r => (.instruction r.1, r.2))) = _
  rw [breakOn_append h]
  rfl

/-- A declaration that is no comment is read as its token. -/
theorem reads_of_takeDeclaration (c : Char) (u : Text) (token : Token) (hspread : token.spread = [token]) (hc : c ≠ '-')
    (h : ∀ rest, takeDeclaration ('<' :: '!' :: c :: (u ++ rest)) = .ok (some (token, rest))) : Reads ('<' :: '!' :: c :: u) [token] := by
  refine reads_token token hspread (List.cons_ne_nil '<' _) fun rest => ?_
  have hcomment : startsWith "<!--" ('<' :: '!' :: c :: (u ++ rest)) = false := by
    show startsWith ('-' :: "-") (c :: (u ++ rest)) = false
    rw [startsWith_cons, beq_eq_false_iff_ne.2 (Ne.symm hc), Bool.false_and]
  show stepMarkup false ('<' :: '!' :: c :: (u ++ rest)) = _
  unfold stepMarkup
  rw [hcomment, h]
  rfl

theorem reads_doctype {t : Text} (h : '>' ∉ t) : Reads ("<!DOCTYPE " ++ t ++ ['>']) [.doctype t] := by
  refine reads_of_takeDeclaration 'D' ("OCTYPE " ++ t ++ ['>']) (.doctype t) rfl (by decide) fun rest => ?_
  have hspace : '>' ∉ ' ' :: t := by
    rw [List.mem_cons, not_or]
    exact ⟨by decide, h⟩
  have htext : '<' :: '!' :: 'D' :: ((("OCTYPE " : Text) ++ t ++ ['>']) ++ rest) = ("<!DOCTYPE" : Text) ++ (' ' :: t ++ '>' :: rest) := by simp
  rw [htext]
  show Except.ok ((breakOn '>' (' ' :: t ++ '>' :: rest)).map fun r => (Token.doctype (r.1.drop 1), r.2)) = _
  rw [breakOn_append hspace]
  rfl

/-- No end of a section comes to stand where its name is put in front of it. -/
theorem unbroken_cdata {t : Text} (h : Unbroken (endsSection 2) t) : Unbroken (endsSection 2) ("CDATA[" ++ t) := by
  have hcons : ∀ {c : Char} {u : Text}, c ≠ ']' → c ≠ '>' → Unbroken (endsSection 2) u → Unbroken (endsSection 2) (c :: u) := by
    intro c u hc hend hu a x v heq hx
    cases a with
    | nil =>
      cases x with
      | nil => exact absurd (List.cons.inj heq).1 hend
      | cons d x =>
        obtain ⟨rfl, -⟩ := List.cons.inj heq
        exact endsSection_succ hc 1 x
    | cons d a => exact hu a x v (List.cons.inj heq).2 hx
  exact hcons (by decide) (by decide) (hcons (by decide) (by decide) (hcons (by decide) (by decide) (hcons (by decide) (by decide)
    (hcons (by decide) (by decide) (hcons (by decide) (by decide) h)))))

/-- A marked section of a known name up to its end. -/
theorem takeSection_of_breakAt {t body content rest : Text} {c : Char} {brackets : Nat} (hbody : t.drop 3 = body) (hhead : body.head? = some c)
    (hc : isLetter c = true) (hname : ((body.dropWhile inSectionName).dropWhile isBlank).isEmpty = false)
    (hbrackets : sectionBrackets? (lower (body.takeWhile inSectionName)) = some brackets)
    (hbreak : breakAt (dropSectionEnd? brackets) body = some (content, rest)) :
    takeSection t = .ok (some (declarationToken content, rest)) := by
  cases body with
  | nil => cases hhead
  | cons d body =>
    obtain rfl := Option.some.inj hhead
    unfold takeSection
    simp only [hbody, hc, hname, hbrackets, hbreak, Bool.not_true, Bool.false_eq_true, if_false]

theorem reads_cdata {t : Text} (h : Unbroken (endsSection 2) t) : Reads ("<![CDATA[" ++ t ++ "]]>") [.cdata t] := by
  refine reads_of_takeDeclaration '[' ("CDATA[" ++ t ++ "]]>") (.cdata t) rfl (by decide) fun rest => ?_
  have htext : '<' :: '!' :: '[' :: ((("CDATA[" : Text) ++ t ++ "]]>") ++ rest) =
      '<' :: '!' :: '[' :: ((("CDATA[" : Text) ++ t) ++ (("]]" : Text) ++ '>' :: rest)) := by simp
  have hbrackets : sectionBrackets? (lower "CDATA") = some 2 := by decide +kernel
  have hbreak := breakAt_of_unbroken (endsAt_section 2) (unbroken_cdata h) tight_section rest
  have hcapital : isCapitalised "CDATA[" ((("CDATA[" : Text) ++ t).take 6) = true := by
    show isCapitalised "CDATA[" "CDATA[" = true
    decide +kernel
  have htoken : declarationToken (("CDATA[" : Text) ++ t) = .cdata t := by
    rw [declarationToken, if_pos hcapital]
    rfl
  have hsection : ∀ u : Text, startsWith "<![" ('<' :: '!' :: '[' :: u) = true := fun u => rfl
  rw [htext, ← htoken, takeDeclaration, if_pos (hsection _)]
  exact takeSection_of_breakAt (c := 'C') rfl rfl (by decide) rfl hbrackets hbreak

/-! ## Raw elements -/

/-- The place where a matcher accepts is found with what stands there. -/
theorem breakAt_self {matcher : Text → Option Text} {t content rest : Text} (h : breakAt matcher t = some (content, rest)) :
    ∃ closing, breakAt (fun s => if (matcher s).isSome then some s else none) t = some (content, closing) ∧ t = content ++ closing := by
  induction t generalizing content with
  | nil =>
    rw [breakAt] at h ⊢
    cases hm : matcher [] with
    | none =>
      rw [hm] at h
      cases h
    | some rest' =>
      rw [hm] at h
      obtain ⟨rfl, -⟩ := Prod.mk.inj (Option.some.inj h)
      exact ⟨[], rfl, rfl⟩
  | cons c t ih =>
    rw [breakAt] at h ⊢
    cases hm : matcher (c :: t) with
    | none =>
      rw [hm] at h
      obtain ⟨⟨content', rest'⟩, hbreak, hpair⟩ := Option.map_eq_some_iff.1 h
      obtain ⟨rfl, rfl⟩ := Prod.mk.inj hpair
      obtain ⟨closing, hclosing, rfl⟩ := ih hbreak
      exact ⟨closing, by rw [hclosing]; rfl, rfl⟩
    | some rest' =>
      rw [hm] at h
      obtain ⟨rfl, -⟩ := Prod.mk.inj (Option.some.inj h)
      exact ⟨c :: t, rfl, rfl⟩

theorem ne_nil_of_mem_textPieces {content p : Text} (h : p ∈ textPieces content) : p ≠ [] := by
  unfold textPieces at h
  split at h
  · cases h
  · rename_i hne
    rw [List.mem_singleton.1 h]
    rintro rfl
    exact hne rfl

/-- The content of a raw element in which no end tag of it stands is read as running text up to its end tag. -/
theorem run_rawContent {name : Text} (hname : isRawElement name = true) {content : Text} (h : Unbroken (closes name) content) (rest : Text) :
    (run false (some name) (content ++ (("</" ++ name) ++ '>' :: rest))).map Pass.spread =
      (firstPass rest).map (Pass.after (singles content ++ [.endTag name])) := by
  -- What only looks like the end tag is read in a step of its own, so the induction is on the length.
  induction hn : content.length using Nat.strongRecOn generalizing content with
  | _ n ih =>
    have hne : ∀ {t : Text} {c : Char} {u : Text}, t ++ c :: u ≠ [] := List.append_ne_nil_of_right_ne_nil _ (List.cons_ne_nil _ _)
    cases hbreak : breakAt (dropClosing? name) content with
    | none =>
      have hclear := unbroken_of_breakAt (endsAt_closing hname) hbreak
      obtain ⟨closing, hself, htext⟩ := breakAt_self (breakAt_of_unbroken (endsAt_closing hname) hclear (tight_looksClosing hname) rest)
      rw [← List.append_cancel_left htext] at hself
      have hraw := stepRaw_eq hself (tight_looksClosing hname).closed (tight_looksClosing hname).isEnding
      rw [if_pos (closes_self hname)] at hraw
      have hstep : step false (some name) _ = .ok _ := congrArg Except.ok hraw
      have hrun := run_goOn (List.append_ne_nil_of_right_ne_nil content hne) hstep
        (by simp only [List.length_append, List.length_cons]; omega)
      rw [hrun, map_spread_after, List.flatMap_append, spread_data fun p => ne_nil_of_mem_textPieces, flatten_textPieces]
      rfl
    | some found =>
      obtain ⟨a, v⟩ := found
      obtain ⟨u, rfl, hu, hlooks, -⟩ := exists_of_breakAt (endsAt_closing hname) hbreak
      have hfake : closes name u = false := h a u v rfl hu
      have htext : (a ++ (u ++ '>' :: v)) ++ (("</" ++ name) ++ '>' :: rest) = a ++ (u ++ '>' :: (v ++ (("</" ++ name) ++ '>' :: rest))) := by
        simp
      obtain ⟨closing, hself, hsplit⟩ := breakAt_self (breakAt_append (endsAt_closing hname) hbreak (("</" ++ name) ++ '>' :: rest))
      rw [htext] at hself hsplit ⊢
      rw [← List.append_cancel_left hsplit] at hself
      have hraw := stepRaw_eq hself hu hlooks
      rw [if_neg (by rw [hfake]; exact Bool.false_ne_true)] at hraw
      have hstep : step false (some name) _ = .ok _ := congrArg Except.ok hraw
      have hrun := run_goOn (List.append_ne_nil_of_right_ne_nil a hne) hstep (by simp only [List.length_append, List.length_cons]; omega)
      have hv : Unbroken (closes name) v := by
        have hright : Unbroken (closes name) ((a ++ (u ++ ['>'])) ++ v) := by
          simpa using h
        exact hright.right
      have hlt : v.length < n := by
        rw [← hn]
        simp only [List.length_append, List.length_cons]
        omega
      have hpieces : ∀ p ∈ textPieces a ++ [u ++ ['>']], p ≠ [] := by
        intro p hp
        rcases List.mem_append.1 hp with hp | hp
        · exact ne_nil_of_mem_textPieces hp
        · rw [List.mem_singleton.1 hp]
          exact hne
      rw [hrun, map_spread_after, ih _ hlt hv rfl, map_after_after, spread_data hpieces, ← List.append_assoc, ← singles_append,
        List.flatten_append, flatten_textPieces, List.flatten_singleton]
      simp

/-- A raw element is read as its start tag, its content and its end tag. -/
theorem reads_rawElement {name : Text} (hname : TagName name) (hraw : isRawElement name = true) {f : Text × Text → Text} {as : RawAttributes}
    (has : ∀ a ∈ as, WritesAttribute (f a) a) {content : Text} (h : Unbroken (closes name) content) :
    Reads ('<' :: (name ++ (as.flatMap f ++ '>' :: (content ++ (("</" ++ name) ++ ['>'])))))
      (.startTag name as :: (singles content ++ [.endTag name])) := by
  intro rest
  have htext : '<' :: (name ++ (as.flatMap f ++ '>' :: (content ++ (("</" ++ name) ++ ['>'])))) ++ rest =
      '<' :: (name ++ (as.flatMap f ++ '>' :: (content ++ (("</" ++ name) ++ '>' :: rest)))) := by simp
  have hstep : step false none ('<' :: (name ++ (as.flatMap f ++ '>' :: (content ++ (("</" ++ name) ++ '>' :: rest))))) =
      .ok (.goOn [.startTag name as] (some name) (content ++ (("</" ++ name) ++ '>' :: rest))) := by
    rw [step_startTag hname, stepStartTag, takeStartTag_written hname has]
    dsimp only
    rw [if_pos hraw]
  have hrun := run_goOn (List.cons_ne_nil _ _) hstep (by simp only [List.length_append, List.length_cons]; omega)
  rw [htext, firstPass, hrun, map_spread_after, run_rawContent hraw h, map_after_after]
  rfl

/-! ## Trees -/

/-- The tokens that are read where a text has been written. -/
def textTokens : TextKind → Text → List Token
  | .comment, t => [.comment t]
  | .cdata, t => [.cdata t]
  | .instruction, t => [.instruction t]
  | .declaration, t => [.instruction (t ++ ['?'])]
  | .doctype, t => [.doctype t, .data ['\n']]
  | .plain, t | .script, t | .stylesheet, t | .template, t | .rubyText, t | .rubyParenthesis, t => singles t

namespace Node

mutual

/-- The tokens that are read where a node has been written. -/
def tokens : Node → List Token
  | .text kind t => textTokens kind t
  | .element name as cs =>
    if cs.isEmpty && isVoid name then [.emptyTag name (rawAttributes name as)]
    else .startTag name (rawAttributes name as) :: (tokensAll cs ++ [.endTag (closingName name)])

/-- The tokens that are read where nodes have been written one after the other. -/
def tokensAll : List Node → List Token
  | [] => []
  | n :: ns => tokens n ++ tokensAll ns

end

/-- Whether a node ends, when it is written and read again, where it has been written: a declaration in which a `>` stands ends there. -/
def endsAsWritten : Node → Bool
  | .text .declaration content => !content.contains '>'
  | _ => true

end Node

theorem writeText_of_isRunning {kind : TextKind} (h : kind.isRunning = true) (raw : Bool) (t : Text) :
    writeText raw kind t = if raw then t else escape t := by
  cases kind <;> first | rfl | cases h

theorem textTokens_of_isRunning {kind : TextKind} (h : kind.isRunning = true) (t : Text) : textTokens kind t = singles t := by
  cases kind <;> first | rfl | cases h

/-- A text that has been written is read again. -/
theorem reads_writeText {kind : TextKind} {t : Text} (hshape : TextShape kind t) (hends : (Node.text kind t).endsAsWritten = true) :
    Reads (writeText false kind t) (textTokens kind t) := by
  cases hrunning : kind.isRunning with
  | true =>
    rw [writeText_of_isRunning hrunning, textTokens_of_isRunning hrunning]
    exact reads_escape t
  | false =>
    cases kind with
    | comment => exact reads_comment hshape
    | cdata => exact reads_cdata hshape
    | instruction => exact reads_instruction hshape
    | declaration =>
      have hclosed : '>' ∉ t ++ ['?'] := by
        have hnot : '>' ∉ t := by simpa [Node.endsAsWritten] using hends
        rw [List.mem_append, not_or]
        exact ⟨hnot, by decide⟩
      have hread := reads_instruction hclosed
      rw [← List.append_assoc, List.append_assoc] at hread
      exact hread
    | doctype =>
      have hread := (reads_doctype hshape).append (reads_plain (c := '\n') rfl)
      rw [List.append_assoc] at hread
      exact hread
    | _ => cases hrunning

/-- What stands in a raw element is written as it is. -/
theorem exists_content_of_raw {name : Text} {cs : List Node} (hraw : isRawElement name = true) (hfits : FitsIn name cs) :
    ∃ content, Unbroken (closes name) content ∧ Node.writeAll true cs = content ∧ Node.tokensAll cs = singles content := by
  rcases hfits.raw hraw with rfl | ⟨kind, content, hkind, hunbroken, rfl⟩
  · exact ⟨[], unbroken_of_not_mem List.not_mem_nil, rfl, rfl⟩
  · have hrunning := isRunning_of_textKindWithin? hkind
    exact ⟨content, hunbroken, (List.append_nil _).trans (writeText_of_isRunning hrunning true content),
      (List.append_nil _).trans (textTokens_of_isRunning hrunning content)⟩

theorem closingName_of_isRawElement {name : Text} (h : isRawElement name = true) : closingName name = name := by
  unfold isRawElement at h
  rw [Bool.or_eq_true, beq_iff_eq, beq_iff_eq] at h
  rcases h with rfl | rfl <;> decide +kernel

namespace Node

mutual

/-- A node that has been written is read again. -/
theorem reads_write : ∀ n : Node, n.Filled ElementLegible → (∀ m ∈ preorder n, m.endsAsWritten = true) → Reads (write false n) (tokens n)
  | .text kind t, hfilled, hends => reads_writeText (filled_text.1 hfilled) (hends _ List.mem_cons_self)
  | .element name as cs, hfilled, hends => by
    obtain ⟨⟨⟨hname, hlegible⟩, hfits⟩, hcs⟩ := filled_element.1 hfilled
    have has := writesAttribute_rawAttributes hlegible
    unfold write tokens
    rw [writeAttributes_eq]
    split
    · have hread := reads_emptyTag hname has
      simpa using hread
    · cases hraw : isRawElement name with
      | true =>
        obtain ⟨content, hunbroken, hwrite, htokens⟩ := exists_content_of_raw hraw hfits
        have hread := reads_rawElement hname hraw has hunbroken
        rw [hwrite, htokens, closingName_of_isRawElement hraw]
        simpa using hread
      | false =>
        have hall := reads_writeAll cs hcs fun m hm => hends m (List.mem_cons_of_mem _ hm)
        have hread := (reads_startTag hname hraw has).append (hall.append (reads_endTag hname))
        simpa using hread

/-- Nodes that have been written are read again. -/
theorem reads_writeAll : ∀ ns : List Node, (∀ n ∈ ns, n.Filled ElementLegible) → (∀ m ∈ preorderAll ns, m.endsAsWritten = true) →
    Reads (writeAll false ns) (tokensAll ns)
  | [], _, _ => Reads.nil
  | n :: ns, hfilled, hends => by
    rw [List.forall_mem_cons] at hfilled
    have hn := reads_write n hfilled.1 fun m hm => hends m (List.mem_append_left _ hm)
    have hns := reads_writeAll ns hfilled.2 fun m hm => hends m (List.mem_append_right _ hm)
    exact hn.append hns

end

mutual

/-- A tag that is read where a node has been written is that of an element in it. -/
theorem mem_tokens {name : Text} {written : RawAttributes} : ∀ {n : Node},
    .startTag name written ∈ tokens n ∨ .emptyTag name written ∈ tokens n →
    ∃ as cs, .element name as cs ∈ preorder n ∧ written = rawAttributes name as
  | .text kind t, h => by
    unfold tokens at h
    cases kind <;> simp [textTokens, singles] at h
  | .element name' as cs, h => by
    unfold tokens at h
    split at h
    · simp only [List.mem_singleton, reduceCtorEq, Token.emptyTag.injEq, false_or] at h
      obtain ⟨rfl, rfl⟩ := h
      exact ⟨as, cs, List.mem_cons_self, rfl⟩
    · simp only [List.mem_cons, List.mem_append, List.not_mem_nil, Token.startTag.injEq, reduceCtorEq, or_false, false_or] at h
      rcases h with (⟨rfl, rfl⟩ | h) | h
      · exact ⟨as, cs, List.mem_cons_self, rfl⟩
      · obtain ⟨as', cs', hmem, hwritten⟩ := mem_tokensAll (.inl h)
        exact ⟨as', cs', List.mem_cons_of_mem _ hmem, hwritten⟩
      · obtain ⟨as', cs', hmem, hwritten⟩ := mem_tokensAll (.inr h)
        exact ⟨as', cs', List.mem_cons_of_mem _ hmem, hwritten⟩

/-- A tag that is read where nodes have been written is that of an element in one of them. -/
theorem mem_tokensAll {name : Text} {written : RawAttributes} : ∀ {ns : List Node},
    .startTag name written ∈ tokensAll ns ∨ .emptyTag name written ∈ tokensAll ns →
    ∃ as cs, .element name as cs ∈ preorderAll ns ∧ written = rawAttributes name as
  | [], h => by
    rcases h with h | h <;> cases h
  | n :: ns, h => by
    have hsplit : (.startTag name written ∈ tokens n ∨ .emptyTag name written ∈ tokens n) ∨
        (.startTag name written ∈ tokensAll ns ∨ .emptyTag name written ∈ tokensAll ns) := by
      unfold tokensAll at h
      rw [List.mem_append, List.mem_append] at h
      rcases h with (h | h) | (h | h)
      · exact .inl (.inl h)
      · exact .inr (.inl h)
      · exact .inl (.inr h)
      · exact .inr (.inr h)
    rcases hsplit with h | h
    · obtain ⟨as, cs, hmem, hwritten⟩ := mem_tokens h
      exact ⟨as, cs, List.mem_append_left _ hmem, hwritten⟩
    · obtain ⟨as, cs, hmem, hwritten⟩ := mem_tokensAll h
      exact ⟨as, cs, List.mem_append_right _ hmem, hwritten⟩

end

variable {ns : List Node}

/-- Nodes that have been written are read as a document, and what is true of the elements in them as they are written is true of the elements
in that document. -/
theorem exists_parse_toMarkup (hfilled : ∀ n ∈ ns, n.Filled ElementLegible) (hends : ∀ m ∈ preorderAll ns, m.endsAsWritten = true)
    {E : Text → Attributes → Prop} (hE : ∀ name as cs, .element name as cs ∈ preorderAll ns → E name (asWritten name as)) :
    ∃ ms, parse (Markup.toMarkup ns) = .ok ms ∧ ∀ m ∈ ms, m.Filled E := by
  obtain ⟨tokens, htokens, hspread⟩ := (reads_writeAll ns hfilled hends).tokens
  refine ⟨nodesOf tokens, by rw [Markup.toMarkup, parse, htokens]; rfl, filled_of_tokens htokens fun token hmem => ?_⟩
  intro name written hopens
  have hread : .startTag name written ∈ tokensAll ns ∨ .emptyTag name written ∈ tokensAll ns := by
    rw [← hspread]
    rcases hopens with rfl | rfl
    · exact .inl (List.mem_flatMap.2 ⟨_, hmem, List.mem_singleton_self _⟩)
    · exact .inr (List.mem_flatMap.2 ⟨_, hmem, List.mem_singleton_self _⟩)
  obtain ⟨as, cs, helement, rfl⟩ := mem_tokensAll hread
  obtain ⟨n, hn, hmn⟩ := mem_preorderAll.1 helement
  have hlegible : AttributesLegible name as := (hfilled n hn _ hmn).1.2
  rw [attributesOf_rawAttributes hlegible]
  exact hE name as cs helement

end Node

end Flashcards.Markup
