import Flashcards.Proofs.Hoist.Remainder
import Flashcards.Proofs.Markup.ReadBack

/-!
# Nothing that is taken out comes back

What is left of a fragment is written out and read again. Unless a declaration in it holds a `>`, it is read as what was left, so that there
is no script in it and no link to a style sheet (`leftOf_leaves_none`).
-/

namespace Flashcards

open Text Markup Markup.Node

namespace Markup.Node

variable {p : Node → Bool}

/-- What fits in an element still does when elements are taken out of it. -/
theorem fitsIn_prune {name : Text} {cs : List Node} (h : FitsIn name cs) : FitsIn name (prune p cs) where
  void := by
    intro hslash hvoid
    rw [h.void hslash hvoid]
    rfl
  raw := by
    intro hraw
    rcases h.raw hraw with rfl | ⟨kind, content, hkind, hunbroken, rfl⟩
    · exact .inl rfl
    · exact .inr ⟨kind, content, hkind, hunbroken, rfl⟩

/-- What is known of all nodes is known of those that are left. -/
theorem filled_prune {E : Text → Attributes → Prop} {ns : List Node} (h : ∀ n ∈ ns, n.Filled E) : ∀ n ∈ prune p ns, n.Filled E := by
  have hall : ∀ m ∈ preorderAll ns, m.Sound E := by
    intro m hm
    obtain ⟨n, hn, hmn⟩ := mem_preorderAll.1 hm
    exact h n hn m hmn
  intro n hn m hm
  rcases mem_prune (mem_preorderAll.2 ⟨n, hn, hm⟩) with ⟨kind, t, rfl, hmem⟩ | ⟨name, as, cs, rfl, hmem, -⟩
  · exact hall _ hmem
  · exact ⟨(hall _ hmem).1, fitsIn_prune (hall _ hmem).2⟩

theorem endsAsWritten_prune {ns : List Node} (h : ∀ m ∈ preorderAll ns, m.endsAsWritten = true) :
    ∀ m ∈ preorderAll (prune p ns), m.endsAsWritten = true := by
  intro m hm
  rcases mem_prune hm with ⟨kind, t, rfl, hmem⟩ | ⟨name, as, cs, rfl, -, -⟩
  · exact h _ hmem
  · rfl

end Markup.Node

/-! ## Scripts and links to style sheets -/

theorem isTakenOut_eq_false_iff {n : Node} : isTakenOut false n = false ↔ n.isNamed "script" = false ∧ linksStylesheet n = false := by
  have hscript := isExternalScript_or_isInlineScript n
  unfold isTakenOut
  rw [Bool.not_false, Bool.true_and, Bool.or_assoc, hscript, Bool.or_eq_false_iff, and_comm]

/-- An attribute of an element that declares no character set is found as it was where the element is written. -/
theorem find?_asWritten {name : Text} {as : Attributes} (h : AttributesLegible name as) (hname : name ≠ "meta") (key : Text) :
    (asWritten name as).find? key = as.find? key := by
  have hself : declareCharset name as = as := if_neg hname
  unfold asWritten
  rw [hself, find?_sortByName h.nodup]

/-- An element is taken out as it is written if it is taken out as it is. -/
theorem isTakenOut_asWritten {name : Text} {as : Attributes} (h : AttributesLegible name as) (cs ds : List Node) :
    isTakenOut false (.element name (asWritten name as) cs) = isTakenOut false (.element name as ds) := by
  have hlinks : linksStylesheet (.element name (asWritten name as) cs) = linksStylesheet (.element name as ds) := by
    unfold linksStylesheet isNamed attributeText? attribute? attributes
    by_cases hlink : name = "link"
    · have hmeta : name ≠ "meta" := by
        rw [hlink]
        decide
      dsimp only
      rw [find?_asWritten h hmeta, find?_asWritten h hmeta]
    · dsimp only
      rw [beq_eq_false_iff_ne.2 hlink]
      rfl
  rw [Bool.eq_iff_iff, ← Bool.not_eq_false, ← Bool.not_eq_false, isTakenOut_eq_false_iff, isTakenOut_eq_false_iff, hlinks]
  rfl

/-- A fragment that has been hoisted is read without a script and without a link to a style sheet, unless something has been taken out of
it and a declaration in it holds a `>`. -/
theorem leftOf_leaves_none {fragment rest : Text} (h : leftOf false fragment = .ok rest)
    (hends : ∀ nodes, Page.fragment fragment = .ok nodes → (preorderAll nodes).any (isTakenOut false) = true →
      ∀ m ∈ preorderAll nodes, m.endsAsWritten = true) :
    ∃ ms, Page.fragment rest = .ok ms ∧ ∀ m ∈ preorderAll ms, isTakenOut false m = false := by
  obtain ⟨nodes, hfragment, -, hrest⟩ := leftOf_eq_ok_iff.1 h
  have hparse := parse_of_fragment hfragment
  rw [remainder_ofNodes fragment false hparse] at hrest
  cases hany : (preorderAll nodes).any (isTakenOut false) with
  | false =>
    rw [hany] at hrest
    rw [hrest]
    refine ⟨nodes, hfragment, fun m hm => ?_⟩
    exact eq_false_of_ne_true (List.any_eq_false.1 hany m hm)
  | true =>
    rw [hany] at hrest
    have hfilled := filled_of_parse hparse
    have hlegible : ∀ name as cs, .element name as cs ∈ preorderAll nodes → AttributesLegible name as := by
      intro name as cs hm
      obtain ⟨n, hn, hmn⟩ := mem_preorderAll.1 hm
      exact (hfilled n hn _ hmn).1.2
    -- Each element that is read is one that was left, as it has been written.
    have hleft : ∀ name as cs, .element name as cs ∈ preorderAll (prune (isTakenOut false) nodes) →
        isTakenOut false (.element name (asWritten name as) []) = false := by
      intro name as cs hm
      rcases mem_prune hm with ⟨kind, t, heq, -⟩ | ⟨name', as', cs', heq, hmem, hp⟩
      · cases heq
      · obtain ⟨rfl, rfl, -⟩ := Node.element.inj heq
        rw [isTakenOut_asWritten (hlegible _ _ _ hmem) [] cs']
        exact hp
    obtain ⟨ms, hms, hinert⟩ := exists_parse_toMarkup (filled_prune hfilled) (endsAsWritten_prune (hends nodes hfragment hany))
      (E := fun name as => isTakenOut false (.element name as []) = false) hleft
    refine ⟨ms, by rw [hrest]; exact congrArg (Except.mapError _) hms, fun m hm => ?_⟩
    obtain ⟨n, hn, hmn⟩ := mem_preorderAll.1 hm
    have hsound := hinert n hn m hmn
    cases m with
    | text kind t => exact isTakenOut_text false kind t
    | element name as cs => exact (isTakenOut_shallow false name as cs []).trans hsound.1

end Flashcards
