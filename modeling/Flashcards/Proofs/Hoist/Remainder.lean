import Flashcards.Proofs.Hoist.Again
import Flashcards.Proofs.Hoist.Pruning

/-!
# What is left of a fragment

Which elements are taken out of a fragment is told from their names and attributes (`isTakenOut`), and those are taken out that would be
taken by themselves (`isTakenOut_eq`). In what the parser makes of a fragment they hold no element and no comment, since a link has no content
(`bareLinks_of_parse`). So everything else in the fragment is left where it was, no element to be taken out is missed because it stands in
another one, and no search is cut short (`Workspace.hoist_loses_nothing`).
-/

namespace Flashcards

open Text Markup Markup.Node

/-! ## What is taken out -/

/-- Whether an element links to a style sheet at an address. -/
def linksStylesheet (n : Node) : Bool :=
  n.isNamed "link" && (n.attribute? "rel").any (AttributeValue.holds "stylesheet") && (n.attributeText? "href").any nonEmpty

/-- Whether an element is a script at an address. -/
def isExternalScript (n : Node) : Bool := n.isNamed "script" && (n.attributeText? "src").any nonEmpty

/-- Whether an element is a script that is at no address. -/
def isInlineScript (n : Node) : Bool := n.isNamed "script" && !(n.attributeText? "src").any nonEmpty

/-- Whether an element is taken out of a fragment. -/
def isTakenOut (librariesOnly : Bool) (n : Node) : Bool :=
  linksStylesheet n || isExternalScript n || (!librariesOnly && isInlineScript n)

theorem isSome_stylesheetAddress? (n : Node) : (stylesheetAddress? n).isSome = linksStylesheet n := by
  unfold stylesheetAddress? linksStylesheet
  cases n.attribute? "rel" with
  | none => simp
  | some relation =>
    cases n.attributeText? "href" with
    | none => simp
    | some href => simp only [Option.any_some]; split <;> simp_all

theorem stylesheetAddress?_eq_some {n : Node} {href : Text} (h : linksStylesheet n = true) (hhref : n.attributeText? "href" = some href) :
    stylesheetAddress? n = some href := by
  rw [← isSome_stylesheetAddress?] at h
  unfold stylesheetAddress? at h ⊢
  rw [hhref] at h ⊢
  cases hrel : n.attribute? "rel" with
  | none => rw [hrel] at h; cases h
  | some relation =>
    rw [hrel] at h
    simp only at h ⊢
    split at h
    · rename_i hc
      rw [if_pos hc]
    · cases h

theorem script?_of_external {n : Node} {src : Text} (h : isExternalScript n = true) (hsrc : n.attributeText? "src" = some src) :
    ∃ source, script? n = some (.external source) ∧ source.address = src := by
  simp only [isExternalScript, hsrc, Option.any_some, Bool.and_eq_true] at h
  cases src with
  | nil => cases h.2
  | cons c src => exact ⟨_, by rw [script?, if_pos h.1, hsrc], rfl⟩

theorem script?_of_inline {n : Node} (h : isInlineScript n = true) : script? n = some (.inline (n.soleText?.getD [])) := by
  simp only [isInlineScript, Bool.and_eq_true, Bool.not_eq_true'] at h
  rw [script?, if_pos h.1]
  split
  · rename_i c src hsrc
    rw [hsrc] at h
    cases h.2
  · rfl

/-- A script is at an address or not. -/
theorem isExternalScript_or_isInlineScript (n : Node) : (isExternalScript n || isInlineScript n) = n.isNamed "script" := by
  unfold isExternalScript isInlineScript
  cases n.isNamed "script" <;> simp

theorem isSome_scriptTaken? (librariesOnly : Bool) (n : Node) :
    (scriptTaken? librariesOnly n).isSome = (isExternalScript n || (!librariesOnly && isInlineScript n)) := by
  cases hn : n.isNamed "script" with
  | false =>
    rw [scriptTaken?_of_not_script librariesOnly hn, isExternalScript, isInlineScript, hn]
    simp
  | true =>
    rw [← isExternalScript_or_isInlineScript] at hn
    cases he : isExternalScript n with
    | true =>
      have hsrc : ∃ src, n.attributeText? "src" = some src := by
        simp only [isExternalScript, Bool.and_eq_true, Option.any_eq_true] at he
        obtain ⟨-, src, hsrc, -⟩ := he
        exact ⟨src, hsrc⟩
      obtain ⟨src, hsrc⟩ := hsrc
      obtain ⟨source, hs, -⟩ := script?_of_external he hsrc
      rw [scriptTaken?, hs]
      simp
    | false =>
      rw [he, Bool.false_or] at hn
      rw [scriptTaken?, script?_of_inline hn, hn]
      cases librariesOnly <;> rfl

/-- What is taken out is what gives up a style sheet or a script. -/
theorem isTakenOut_eq (librariesOnly : Bool) :
    isTakenOut librariesOnly = fun n => (stylesheetAddress? n).isSome || (scriptTaken? librariesOnly n).isSome := by
  funext n
  rw [isTakenOut, isSome_stylesheetAddress?, isSome_scriptTaken?, Bool.or_assoc]

theorem isTakenOut_shallow (librariesOnly : Bool) : Shallow (isTakenOut librariesOnly) := fun _ _ _ _ => rfl

theorem isTakenOut_text (librariesOnly : Bool) (k : TextKind) (t : Text) : isTakenOut librariesOnly (.text k t) = false := by
  simp [isTakenOut, linksStylesheet, isExternalScript, isInlineScript, isNamed]

/-- What is taken out is a link or a script. -/
theorem isNamed_of_isTakenOut {librariesOnly : Bool} {n : Node} (h : isTakenOut librariesOnly n = true) :
    n.isNamed "link" = true ∨ n.isNamed "script" = true := by
  unfold isTakenOut linksStylesheet isExternalScript isInlineScript at h
  simp only [Bool.or_eq_true, Bool.and_eq_true] at h
  obtain (h | h) | h := h
  · exact Or.inl h.1.1
  · exact Or.inr h.1
  · exact Or.inr h.2.1

/-! ## What is left -/

/-- A fragment gives up nothing when nothing in it is taken out. -/
theorem isEmpty_ofNodes (librariesOnly : Bool) {t : Text} {nodes : List Node} (h : parse t = .ok nodes) :
    (Harvest.ofNodes librariesOnly nodes).isEmpty = !(preorderAll nodes).any (isTakenOut librariesOnly) := by
  have hstylesheets : (Harvest.ofNodes librariesOnly nodes).stylesheets = (preorderAll nodes).filterMap stylesheetAddress? := rfl
  have hnone : (preorderAll nodes).filterMap stylesheetAddress? = [] → BareLinks nodes := by
    intro hempty n hn hlink
    rw [List.filterMap_eq_nil_iff.1 hempty n hn] at hlink
    cases hlink
  rw [Harvest.isEmpty, hstylesheets, isTakenOut_eq, Bool.eq_iff_iff]
  simp only [Bool.and_eq_true, List.isEmpty_iff, Bool.not_eq_true', List.any_eq_false, Bool.or_eq_true, not_or, Bool.not_eq_true,
    Option.isSome_eq_false_iff, Option.isNone_iff_eq_none]
  constructor
  · rintro ⟨hempty, hscripts⟩
    rw [scripts_ofNodes librariesOnly h (hnone hempty)] at hscripts
    exact fun n hm => ⟨List.filterMap_eq_nil_iff.1 hempty n hm, List.filterMap_eq_nil_iff.1 hscripts n hm⟩
  · intro hall
    have hempty := List.filterMap_eq_nil_iff.2 fun n hm => (hall n hm).1
    rw [scripts_ofNodes librariesOnly h (hnone hempty)]
    exact ⟨hempty, List.filterMap_eq_nil_iff.2 fun n hm => (hall n hm).2⟩

/-- What is left of a fragment is what is left when the elements that are taken out are taken out at once. -/
theorem rest_ofNodes (librariesOnly : Bool) (nodes : List Node) :
    (Harvest.ofNodes librariesOnly nodes).rest = prune (isTakenOut librariesOnly) nodes := by
  have hshallow : Shallow fun n => (scriptTaken? librariesOnly n).isSome := by
    intro name as cs cs'
    simp only [isSome_scriptTaken?]
    rfl
  rw [isTakenOut_eq]
  exact prune_prune hshallow nodes

/-- Where nothing is taken out of a fragment, it stays as it is written. -/
theorem remainder_ofNodes (written : Text) (librariesOnly : Bool) {t : Text} {nodes : List Node} (h : parse t = .ok nodes) :
    (Harvest.ofNodes librariesOnly nodes).remainder written =
      if (preorderAll nodes).any (isTakenOut librariesOnly) then toMarkup (prune (isTakenOut librariesOnly) nodes) else written := by
  rw [Harvest.remainder, isEmpty_ofNodes librariesOnly h, rest_ofNodes]
  cases (preorderAll nodes).any (isTakenOut librariesOnly) <;> rfl

/-- A link that is read from markup has no content. -/
theorem children_of_link {t : Text} {nodes : List Node} (h : parse t = .ok nodes) {n : Node} (hn : n ∈ preorderAll nodes)
    (hl : n.isNamed "link" = true) : n.children = [] := by
  cases n with
  | text k t => rfl
  | element name as cs =>
    obtain rfl : name = "link" := by simpa [isNamed] using hl
    exact (fitsIn_of_parse h hn).void rfl (by decide)

/-- The links in what is read from markup have no content. -/
theorem bareLinks_of_parse {t : Text} {nodes : List Node} (h : parse t = .ok nodes) : BareLinks nodes := fun _ hn hlink =>
  children_of_link h hn (isNamed_link_of_stylesheetAddress? hlink)

/-- A link or a script holds nothing but running text. -/
theorem isText_of_isTakenOut {librariesOnly : Bool} {t : Text} {nodes : List Node} (h : parse t = .ok nodes) {n : Node}
    (hn : n ∈ preorderAll nodes) (ht : isTakenOut librariesOnly n = true) : ∀ c ∈ n.children, c.isText = true := by
  intro c hc
  rcases isNamed_of_isTakenOut ht with hlink | hscript
  · rw [children_of_link h hn hlink] at hc
    cases hc
  · obtain hnil | ⟨content, hone⟩ := children_of_script h hn hscript
    · rw [hnil] at hc
      cases hc
    · rw [hone] at hc
      rw [List.mem_singleton.1 hc]
      rfl

/-- A script is run as the text that it has. -/
theorem soleText?_of_script {t : Text} {nodes : List Node} (h : parse t = .ok nodes) {n : Node} (hn : n ∈ preorderAll nodes)
    (hs : n.isNamed "script" = true) : n.soleText?.getD [] = n.textContent := by
  have hchildren := children_of_script h hn hs
  cases n with
  | text k t => cases hs
  | element name as cs =>
    obtain rfl : name = "script" := by simpa [isNamed] using hs
    obtain hcs | ⟨content, hcs⟩ := hchildren
    · obtain rfl : cs = [] := hcs
      rfl
    · obtain rfl : cs = [.text .script content] := hcs
      rw [textContent, preorderAll, preorder, preorderAll, List.append_nil, List.flatMap_singleton]
      rfl

/-- What goes although it is not taken out itself is the text of a script that is. -/
theorem isTakenOut_of_not_isLeft {librariesOnly : Bool} {t : Text} {nodes : List Node} (h : parse t = .ok nodes) {e : Placed}
    (he : e ∈ placedAll none nodes) (hgone : e.isLeft (isTakenOut librariesOnly) = false) :
    isTakenOut librariesOnly e.node = true ∨ ∃ n ∈ preorderAll nodes, n.isNamed "script" = true ∧ isTakenOut librariesOnly n = true ∧
      e.within = some n.shell ∧ ∃ content, e.node = .text .script content := by
  cases hnode : isTakenOut librariesOnly e.node with
  | true => exact Or.inl rfl
  | false =>
    right
    rw [Placed.isLeft, hnode, Bool.not_false, Bool.true_and, Bool.not_eq_false'] at hgone
    rcases mem_placedAll he with ⟨n, -, rfl⟩ | ⟨n, hn, hwithin, c, hc, hec⟩
    · cases hgone
    · rw [hwithin, Option.any_some] at hgone
      have htaken : isTakenOut librariesOnly n = true := by
        cases n with
        | text k t => exact hgone
        | element name as cs => exact (isTakenOut_shallow librariesOnly name as [] cs).symm.trans hgone
      rcases isNamed_of_isTakenOut htaken with hlink | hscript
      · rw [children_of_link h hn hlink] at hc
        cases hc
      · refine ⟨n, hn, hscript, htaken, hwithin, ?_⟩
        obtain hnil | ⟨content, hone⟩ := children_of_script h hn hscript
        · rw [hnil] at hc
          cases hc
        · rw [hone] at hc
          rw [List.mem_singleton.1 hc] at hec
          exact ⟨content, hec⟩

namespace Workspace

/-- A fragment that can be read is hoisted, whatever the workspace. The elements that are taken out are taken out of it, and where there
are none it stays as it is written. Every other node is left at its place, but for the text of a script that is taken out. The addresses
of all style sheets and scripts in the fragment have then been claimed, and the texts of its other scripts wait if they are taken. -/
theorem hoist_loses_nothing (librariesOnly : Bool) (w : Workspace) {fragment : Text} {nodes : List Node}
    (h : Page.fragment fragment = .ok nodes) :
    ∃ w', w.hoist librariesOnly fragment = .ok (if (preorderAll nodes).any (isTakenOut librariesOnly)
        then toMarkup (prune (isTakenOut librariesOnly) nodes) else fragment, w') ∧
      placedAll none (prune (isTakenOut librariesOnly) nodes) = (placedAll none nodes).filter (Placed.isLeft (isTakenOut librariesOnly)) ∧
      (∀ e ∈ placedAll none nodes, e.isLeft (isTakenOut librariesOnly) = false → isTakenOut librariesOnly e.node = true ∨
        ∃ n ∈ preorderAll nodes, n.isNamed "script" = true ∧ isTakenOut librariesOnly n = true ∧ e.within = some n.shell ∧
          ∃ content, e.node = .text .script content) ∧
      (∀ n ∈ preorderAll nodes, linksStylesheet n = true → ∀ href, n.attributeText? "href" = some href → href ∈ w'.claimed.items) ∧
      (∀ n ∈ preorderAll nodes, isExternalScript n = true → ∀ src, n.attributeText? "src" = some src → src ∈ w'.claimed.items) ∧
      (librariesOnly = false → ∀ n ∈ preorderAll nodes, isInlineScript n = true → allBlank n.textContent = false →
        n.textContent ∈ w'.deferred.items) := by
  have hparse := parse_of_fragment h
  have htaken := take_taken (Harvest.ofNodes librariesOnly nodes) w
  have hbare := bareLinks_of_parse hparse
  have hscripts := scripts_ofNodes librariesOnly hparse hbare
  have hcut : Harvest.isCutShort librariesOnly nodes = false :=
    eq_false_of_ne_true fun hcut => hbare.not_tangled ((isCutShort_iff_tangled librariesOnly hparse).1 hcut)
  refine ⟨w.take (Harvest.ofNodes librariesOnly nodes), ?_, ?_, ?_, ?_, ?_, ?_⟩
  · rw [hoist, strip_of_fragment h hcut, remainder_ofNodes fragment librariesOnly hparse]
    rfl
  · exact placedAll_prune (isTakenOut_shallow librariesOnly) (isTakenOut_text librariesOnly) rfl nodes
      fun n hn => isText_of_isTakenOut hparse hn
  · exact fun e => isTakenOut_of_not_isLeft hparse
  · intro n hn hlinks href hhref
    exact htaken.stylesheets href (List.mem_filterMap.2 ⟨n, hn, stylesheetAddress?_eq_some hlinks hhref⟩)
  · intro n hn hexternal src hsrc
    obtain ⟨source, hs, rfl⟩ := script?_of_external hexternal hsrc
    refine htaken.scripts source ?_
    rw [hscripts]
    exact List.mem_filterMap.2 ⟨n, hn, by rw [scriptTaken?, hs]⟩
  · rintro rfl n hn hinline hblank
    have hs := script?_of_inline hinline
    have hname : n.isNamed "script" = true := by
      rw [← isExternalScript_or_isInlineScript, hinline, Bool.or_true]
    rw [soleText?_of_script hparse hn hname] at hs
    rw [take_deferred_eq, Collection.mem_insertAll, hscripts]
    refine Or.inl (List.mem_filterMap.2 ⟨.inline n.textContent, List.mem_filterMap.2 ⟨n, hn, ?_⟩, ?_⟩)
    · rw [scriptTaken?, hs]
      rfl
    · rw [Script.runnable?, hblank]
      rfl

/-- A list that is cut off, with a script and a link within it. -/
def cutOff : Text := "<ul><!--c--><script src=l></script><li><link rel=\"a stylesheet\" href=s>b<p><script>f()</script></ul>"

/-- The link and the scripts in the list, which all stand in elements that are left. -/
def cutOffLink : Node := .element "link" [("rel", .words ["a", "stylesheet"]), ("href", .text "s")] []

def cutOffLibrary : Node := .element "script" [("src", .text "l")] []

def cutOffScript : Node := .element "script" [] [.text .script "f()"]

def cutOffNodes : List Node :=
  [.element "ul" [] [.text .comment "c", cutOffLibrary,
    .element "li" [] [cutOffLink, .text .plain "b", .element "p" [] [cutOffScript]]]]

/-- They go, and the list is left with all else. -/
theorem hoist_loses_nothing_cutOff :
    ∃ w', blank.hoist false cutOff = .ok ("<ul><!--c--><li>b<p></p></li></ul>", w') ∧ ("s" : Text) ∈ w'.claimed.items ∧
      ("l" : Text) ∈ w'.claimed.items ∧ ("f()" : Text) ∈ w'.deferred.items := by
  have hread : (Page.fragment cutOff).toOption = some cutOffNodes := by decide +kernel
  have hfragment : Page.fragment cutOff = .ok cutOffNodes := by
    cases hf : Page.fragment cutOff with
    | error failure => rw [hf] at hread; cases hread
    | ok nodes => rw [hf] at hread; rw [Option.some.inj hread]
  obtain ⟨w', hw, -, -, hlinks, hlibraries, hscripts⟩ := hoist_loses_nothing false blank hfragment
  have hrest : (if (preorderAll cutOffNodes).any (isTakenOut false) then toMarkup (prune (isTakenOut false) cutOffNodes)
      else cutOff) = "<ul><!--c--><li>b<p></p></li></ul>" := by decide +kernel
  rw [hrest] at hw
  exact ⟨w', hw, hlinks cutOffLink (by decide +kernel) (by decide +kernel) "s" (by decide +kernel),
    hlibraries cutOffLibrary (by decide +kernel) (by decide +kernel) "l" (by decide +kernel),
    hscripts rfl cutOffScript (by decide +kernel) (by decide +kernel) (by decide +kernel)⟩

end Workspace

end Flashcards
