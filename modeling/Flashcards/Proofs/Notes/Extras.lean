import Flashcards.Note
import Flashcards.Proofs.Json.Encoding

/-!
# Extra values

An extra value is decoded by the letter of the standard, or not at all. What a text says decides which: if nothing in it is refused, it is decoded
as what it says, and otherwise it stays as it is (`Note.decodeExtra_of_said`). So does a text that says nothing. Whatever way a value has been
written in, it comes back (`Note.extras_decoded`).
-/

namespace Flashcards

open Text

namespace Note

theorem decodeExtra_eq {t : Text} {v : Json} (h : Json.readWhole false t = .ok v) : decodeExtra t = v := by
  rw [decodeExtra, Json.readStrict_eq_ok_iff.2 h]

theorem decodeExtra_eq_text {t : Text} (h : ∀ v, Json.readWhole false t ≠ .ok v) : decodeExtra t = .text t := by
  rw [decodeExtra]
  split
  · exact absurd (Json.readStrict_eq_ok_iff.1 ‹_›) (h _)
  · rfl

/-- What a text says is its value, unless something in it is refused. -/
theorem decodeExtra_of_said {t : Text} {v : Json} {rs : List Json.Refusal} (h : Json.Dialect.json.Says t v rs) :
    decodeExtra t = if rs = [] then v else .text t := by
  have hread := fun w => h.readWhole_iff (w := w) false
  simp only [Json.tolerates_false] at hread
  split
  · exact decodeExtra_eq ((hread v).2 ⟨‹_›, rfl⟩)
  · exact decodeExtra_eq_text fun w hw => absurd ((hread w).1 hw).1 ‹_›

/-- A text that says no value is its own value. -/
theorem decodeExtra_of_not_said {t : Text} (h : ¬∃ v rs, Json.Dialect.json.Says t v rs) : decodeExtra t = .text t := by
  refine decodeExtra_eq_text fun v hv => h ?_
  obtain ⟨rs, hsaid, -⟩ := Json.readWhole_eq_ok_iff_said.1 hv
  exact ⟨v, rs, hsaid⟩

/-- A value that is written in any way comes back. Whatever the text, it is decoded as a value that it says, or it stays as it is; and it does stay
if it is not JSON, or if the name of what is no number stands for a value anywhere in it. -/
theorem extras_decoded (t : Text) :
    (∀ v, Json.Encodable v → Json.Dialect.encoding.Says t v [] → decodeExtra t = v) ∧
      ((∃ v, Json.Dialect.json.Says t v [] ∧ decodeExtra t = v) ∨ decodeExtra t = .text t) ∧
      ((¬∃ v rs, Json.Dialect.json.Says t v rs) → decodeExtra t = .text t) ∧
      (∀ v rs, Json.Dialect.json.Says t v rs → Json.Refusal.notANumber ∈ rs → decodeExtra t = .text t) := by
  refine ⟨fun v hv h => ?_, ?_, decodeExtra_of_not_said, fun v rs h hmem => ?_⟩
  · rw [decodeExtra_of_said (h.json hv), if_pos rfl]
  · by_cases hsaid : ∃ v rs, Json.Dialect.json.Says t v rs
    · obtain ⟨v, rs, h⟩ := hsaid
      by_cases hrs : rs = []
      · exact .inl ⟨v, hrs ▸ h, by rw [decodeExtra_of_said h, if_pos hrs]⟩
      · exact .inr (by rw [decodeExtra_of_said h, if_neg hrs])
    · exact .inr (decodeExtra_of_not_said hsaid)
  · rw [decodeExtra_of_said h, if_neg (List.ne_nil_of_mem hmem)]

/-- A list with a negative number, and an object with a text and null in it. -/
def nested : Json := .list [.int (-10), .object [(['a'], .text ['é', '😀']), (['b'], .null)]]

/-- The same list as it may be written, with blanks between its parts and all that can be escaped in its text. -/
def nestedText : Text := "[-10, \x7b \"a\":\"\\u00e9\\uD83D\\uDE00\",\"b\" :null\x7d]\n"

theorem nested_encodable : Json.Encodable nested := by
  refine .list (List.forall_mem_cons.2 ⟨.int (by decide), List.forall_mem_singleton.2 (.object (by decide) ?_)⟩)
  exact List.forall_mem_cons.2 ⟨.text _, List.forall_mem_singleton.2 .null⟩

theorem says_nested : Json.Dialect.encoding.Says nestedText nested [] := by
  have hblank : ∀ c ∈ [' '], isJsonBlank c = true := List.forall_mem_singleton.2 rfl
  have hnone : ∀ c ∈ ([] : Text), isJsonBlank c = true := List.forall_mem_nil _
  have hname : ∀ c, c ≠ '"' → c ≠ '\\' → 0x20 ≤ c.toNat → Json.Dialect.encoding.atom ['"', c, '"'] (.text [c]) [] :=
    fun c hquote hslash hcontrol => .string (.char (w := [c]) (.itself hquote hslash hcontrol) .close)
  have htext : Json.Dialect.encoding.Denotes
      ('"' :: (['\\', 'u', '0', '0', 'e', '9'] ++ (['\\', 'u', 'D', '8', '3', 'D', '\\', 'u', 'D', 'E', '0', '0'] ++ ['"'])))
      (.value (.text ['é', '😀'])) [] := by
    have hunit : Json.CodeUnit ['0', '0', 'e', '9'] 'é'.toNat := by decide +kernel
    have hhigh : Json.CodeUnit ['D', '8', '3', 'D'] (0xD800 + 0x3D) := by decide +kernel
    have hlow : Json.CodeUnit ['D', 'E', '0', '0'] (0xDC00 + 0x200) := by decide +kernel
    exact .atom (.string (.char (.unit hunit) (.char (.pair (by decide) (by decide) hhigh hlow (by decide +kernel)) .close)))
  have hobject := Json.Dialect.Denotes.object (d := .encoding) hblank
    (.entries (hname 'a' (by decide) (by decide) (by decide)) hnone hnone htext hnone hnone
      (.entry (hname 'b' (by decide) (by decide) (by decide)) hblank hnone (.atom .null) hnone))
  have hlist : Json.Dialect.encoding.Denotes _ (.value nested) [] :=
    .list hnone (.items (.atom (Json.EncodingAtom.integer (-10))) hnone hblank (.item hobject hnone))
  exact ⟨[], _, ['\n'], by decide +kernel, hnone, List.forall_mem_singleton.2 rfl, hlist⟩

/-- The name of minus infinity stands for a value inside of an object inside of a list. -/
theorem says_minusInfinity :
    Json.Dialect.json.Says "[1, \x7b\"a\": -Infinity\x7d]" (.list [.int 1, .object [(['a'], .float (.infinity true))]]) [.notANumber] := by
  have hblank : ∀ c ∈ [' '], isJsonBlank c = true := List.forall_mem_singleton.2 rfl
  have hnone : ∀ c ∈ ([] : Text), isJsonBlank c = true := List.forall_mem_nil _
  have hname : Json.Atom ['"', 'a', '"'] (.text ['a']) [] := .string (.plain (by decide) (by decide) (by decide) .close)
  have hobject := Json.Dialect.Denotes.object (d := .json) hnone (.entry hname hnone hblank (.atom (.scalar .minusInfinity)) hnone)
  have hlist : Json.Dialect.json.Denotes _ (.value (.list [.int 1, .object [(['a'], .float (.infinity true))]])) [.notANumber] :=
    .list hnone (.items (.atom (Json.Atom.scalar (Json.scalar_ofInt (n := 1) (by decide)))) hnone hblank (.item hobject hnone))
  exact ⟨[], _, [], by decide +kernel, hnone, hnone, hlist⟩

/-- No value begins with a closing bracket. -/
theorem not_says_bracket : ¬∃ v rs, Json.Dialect.json.Says "]" v rs := by
  rintro ⟨v, rs, before, u, after, ht, hbefore, -, hu⟩
  obtain ⟨c, w, rfl, hc⟩ := hu.head
  cases before with
  | nil =>
    obtain rfl : ']' = c := (List.cons.inj ht).1
    cases hc
  | cons d before =>
    obtain rfl : ']' = d := (List.cons.inj ht).1
    cases hbefore _ List.mem_cons_self

/-- The list comes back. Minus infinity is refused, however deep it stands, and a closing bracket alone is no JSON. -/
theorem extras_decoded_nested :
    decodeExtra nestedText = nested ∧ decodeExtra "[1, \x7b\"a\": -Infinity\x7d]" = .text "[1, \x7b\"a\": -Infinity\x7d]" ∧
      decodeExtra "]" = .text "]" := by
  obtain ⟨hencoded, -⟩ := extras_decoded nestedText
  obtain ⟨-, -, -, hconstant⟩ := extras_decoded "[1, \x7b\"a\": -Infinity\x7d]"
  obtain ⟨-, -, hnot, -⟩ := extras_decoded "]"
  exact ⟨hencoded nested nested_encodable says_nested, hconstant _ _ says_minusInfinity (List.mem_singleton_self _), hnot not_says_bracket⟩

end Note

end Flashcards
