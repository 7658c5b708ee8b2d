import Flashcards.CommandLine.Batch
import Flashcards.Proofs.Manifest.Definitions

/-!
# Manifests that cannot be loaded

A text that is no JSON, and a value that is no object, are failures of reading: a batch logs them and ends with a code. A manifest that can be
read as an object makes a tree of decks, whatever its definitions say or leave out, with one exception. Where a definition gives a number or a
truth value for its children, and not one that counts as nothing, the reading ends with another failure, that of the first such definition
(`Manifest.flaw?`), and so does the batch (`Manifest.load_outcomes`, `Manifest.load_unreported`).
-/

namespace Flashcards

open Text DeckNode

namespace Manifest

/-- The value that a manifest writes. -/
def value (t : Text) : Except Json.Fault Json := Json.read ((assigned? t).getD t)

/-- The first failure that a definition in a manifest causes. -/
def flaw? (t : Text) : Option Failure :=
  match value t with
  | .ok v => (definitions v).findSome? itemsFailure?
  | .error _ => none

variable {t : Text}

/-! ## What a manifest comes to -/

theorem read_of_fault {fault : Json.Fault} (h : value t = .error fault) : read t = .error (.badJson fault) := by
  unfold value at h
  rw [read, h]

theorem read_of_object {d : List (Text × Json)} (h : value t = .ok (.object d)) : read t = ofJson [] (.object d) := by
  unfold value at h
  rw [read, h]

/-- A value that is no object is no manifest, and there is no definition in it. -/
theorem read_of_kind {v : Json} (h : value t = .ok v) (hv : v.kind ≠ .object) :
    read t = .error .manifestNotObject ∧ definitions v = [] := by
  unfold value at h
  rw [read, h]
  cases v with
  | object d => exact absurd rfl hv
  | _ => exact ⟨rfl, rfl⟩

/-- A failure that is caused by a definition is not one of reading. -/
theorem isOfReading_of_flaw? {failure : Failure} (h : flaw? t = some failure) : failure.isOfReading = false := by
  unfold flaw? at h
  split at h
  · obtain ⟨d, -, hd⟩ := List.exists_of_findSome?_eq_some h
    unfold itemsFailure? at hd
    split at hd
    · cases hd
    · obtain rfl := Option.some.inj hd
      rfl
  · cases h

/-- A flaw is what the first definition causes whose children cannot be gone through. -/
theorem flaw?_eq_some_iff {failure : Failure} :
    flaw? t = some failure ↔ ∃ v before d after, value t = .ok v ∧ definitions v = before ++ d :: after ∧
      (∀ c ∈ before, (childrenField c).hasItems = true) ∧ (childrenField d).hasItems = false ∧
      failure = .notIterable (childrenField d).kind := by
  have hnone : ∀ c, itemsFailure? c = none ↔ (childrenField c).hasItems = true := by
    intro c
    unfold itemsFailure?
    split <;> simp_all
  have hsome : ∀ d, itemsFailure? d = some failure ↔ (childrenField d).hasItems = false ∧ failure = .notIterable (childrenField d).kind := by
    intro d
    unfold itemsFailure?
    split
    · simp_all
    · rw [Option.some_inj, eq_comm]
      simp_all
  unfold flaw?
  cases value t with
  | error fault => simp
  | ok v => simp [List.findSome?_eq_some_iff, hnone, hsome, and_comm, and_assoc]

/-- A manifest without a flaw is read, or the failure is one of reading. -/
theorem read_cases (t : Text) :
    (∃ d node, value t = .ok (.object d) ∧ flaw? t = none ∧ read t = .ok node) ∨
      (∃ failure, (∀ d, value t ≠ .ok (.object d)) ∧ flaw? t = none ∧ read t = .error failure ∧ failure.isOfReading = true) ∨
      ∃ d failure, value t = .ok (.object d) ∧ flaw? t = some failure ∧ read t = .error failure := by
  cases hvalue : value t with
  | error fault =>
    refine Or.inr (Or.inl ⟨.badJson fault, fun d hd => (by cases hd), ?_, read_of_fault hvalue, rfl⟩)
    rw [flaw?, hvalue]
  | ok v =>
    by_cases hv : v.kind = .object
    · obtain ⟨d, rfl⟩ : ∃ d, v = .object d := by
        cases v with
        | object d => exact ⟨d, rfl⟩
        | _ => cases hv
      have hflaw : flaw? t = failureOf? (read t) := by
        rw [flaw?, hvalue, read_of_object hvalue, failureOf?_ofJson]
      rw [hflaw]
      cases hread : read t with
      | ok node => exact Or.inl ⟨d, node, rfl, rfl, rfl⟩
      | error failure => exact Or.inr (Or.inr ⟨d, failure, rfl, rfl, rfl⟩)
    · obtain ⟨hread, hnone⟩ := read_of_kind hvalue hv
      refine Or.inr (Or.inl ⟨.manifestNotObject, fun d hd => hv ?_, ?_, hread, rfl⟩)
      · rw [Except.ok.inj hd]
        rfl
      · rw [flaw?, hvalue]
        exact (congrArg (List.findSome? itemsFailure?) hnone)

/-- A batch whose manifest is not read logs a failure of reading and ends with the code for it. Any other failure ends the batch. -/
theorem runLogged_of_failure {World : Type} (s : Surroundings (StateM World)) (settings : Settings) (here : Place) (o : Options)
    {source : DeckSource} {w w' : World} {failure : Failure}
    (hsource : DeckSource.ofText settings here none o.source.toJson.plain = .ok source)
    (hfetch : source.fetch s.toOutside o.manifest.toJson w = (.ok t, w')) (hread : read t = .error failure) :
    Batch.runLogged s settings here o w =
      if failure.isOfReading then (.exit 1, (s.log Logging.error (Batch.manifestMessage o.manifest.toJson.plain failure) w').2)
      else (.crash failure, w') := by
  unfold Batch.runLogged
  rw [hsource]
  simp only [bind, StateT.bind, hfetch, Except.bind, hread]
  split <;> rfl

/-- What any text comes to as a manifest. It is read exactly if it writes an object in which there is no flaw. A failure is one of reading, or
else the flaw; and a flaw always is the failure, and none of reading. It is caused by the first definition that gives a number or a truth value
for its children which does not count as nothing. A batch that is given the text for its manifest logs a failure of reading and ends with the
code for it, and has done nothing else by then; by any other failure it is ended. -/
theorem load_outcomes (t : Text) :
    ((∃ node, read t = .ok node) ↔ (∃ d, value t = .ok (.object d)) ∧ flaw? t = none) ∧
      (∀ failure, read t = .error failure → failure.isOfReading = true ∨ flaw? t = some failure) ∧
      (∀ failure, flaw? t = some failure → read t = .error failure ∧ failure.isOfReading = false) ∧
      (∀ failure, flaw? t = some failure ↔ ∃ v before d after, value t = .ok v ∧ definitions v = before ++ d :: after ∧
        (∀ c ∈ before, (childrenField c).hasItems = true) ∧ (childrenField d).hasItems = false ∧
        failure = .notIterable (childrenField d).kind) ∧
      ∀ (World : Type) (s : Surroundings (StateM World)) (settings : Settings) (here : Place) (o : Options) (source : DeckSource)
        (w w' : World) (failure : Failure), DeckSource.ofText settings here none o.source.toJson.plain = .ok source →
          source.fetch s.toOutside o.manifest.toJson w = (.ok t, w') → read t = .error failure →
            Batch.runLogged s settings here o w =
              if failure.isOfReading then
                (.exit 1, (s.log Logging.error (Batch.manifestMessage o.manifest.toJson.plain failure) w').2)
              else (.crash failure, w') := by
  refine ⟨?_, ?_, ?_, fun failure => flaw?_eq_some_iff, ?_⟩
  · rcases read_cases t with ⟨d, node, hvalue, hflaw, hread⟩ | ⟨failure, hvalue, -, hread, -⟩ | ⟨d, failure, -, hflaw, hread⟩
    · exact ⟨fun _ => ⟨⟨d, hvalue⟩, hflaw⟩, fun _ => ⟨node, hread⟩⟩
    · simp [hread, hvalue]
    · simp [hread, hflaw]
  · intro failure hfailure
    rcases read_cases t with ⟨d, node, -, -, hread⟩ | ⟨failure', -, -, hread, hreading⟩ | ⟨d, failure', -, hflaw, hread⟩
    · cases hfailure.symm.trans hread
    · obtain rfl := Except.error.inj (hfailure.symm.trans hread)
      exact Or.inl hreading
    · obtain rfl := Except.error.inj (hfailure.symm.trans hread)
      exact Or.inr hflaw
  · intro failure hfailure
    refine ⟨?_, isOfReading_of_flaw? hfailure⟩
    rcases read_cases t with ⟨d, node, -, hnone, -⟩ | ⟨failure', -, hnone, -, -⟩ | ⟨d, failure', -, hflaw, hread⟩
    · cases hnone.symm.trans hfailure
    · cases hnone.symm.trans hfailure
    · rwa [← Option.some.inj (hflaw.symm.trans hfailure)]
  · intro World s settings here o source w w' failure hsource hfetch hread
    exact runLogged_of_failure s settings here o hsource hfetch hread

/-- A manifest that gives a number for the children. -/
def counting : Text := "\x7b\"name\": \"a\", \"children\": 1\x7d"

/-- It is neither read nor is the failure one of reading. -/
theorem load_unreported :
    read counting = .error (.notIterable .int) ∧
      ¬((∃ node, read counting = .ok node) ∨ ∃ failure, read counting = .error failure ∧ failure.isOfReading = true) := by
  have hread : read counting = .error (.notIterable .int) := eq_error_of_failureOf? (by decide +kernel)
  refine ⟨hread, ?_⟩
  rintro (⟨node, hnode⟩ | ⟨failure, hfailure, hreading⟩)
  · cases hnode.symm.trans hread
  · obtain rfl := Except.error.inj (hfailure.symm.trans hread)
    cases hreading

end Manifest

end Flashcards
