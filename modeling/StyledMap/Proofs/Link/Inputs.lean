import StyledMap.Proofs.Link.Links
import StyledMap.Proofs.Link.Session

/-! # Documents that are read

A document is given as a value, in a file, or behind a link.

* `Input.Gives` and `Input.Fails`: what an input is read as, or why it is not read, for each kind of
  input.
* `Input.asked`: what is asked for to read it.
* `readDocument_yields_of_gives` and `readDocument_yields_of_fails`: reading does what these say.
-/

set_option autoImplicit false

namespace StyledMap

/-- An input gives a value: it is one, or the text of its file or the answer of its address is. -/
inductive Input.Gives (p : Provider) (r : Resources) : Input → Json → Prop
  | value (document : Json) : Gives p r (.value document) document
  | path {path text : String} {document : Json} :
    r.file path = .ok text → Json.parse? text = some document → Gives p r (.path path) document
  | url {url : String} {document : Json} :
    r.json ((Link.style url).address p) = .ok document → Gives p r (.url url) document

/-- An input gives no value: its file cannot be read, or holds no JSON, or its address answers with
a fault. -/
inductive Input.Fails (p : Provider) (r : Resources) : Input → LinkFault → Prop
  | unreadable {path reason : String} :
    r.file path = .error reason → Fails p r (.path path) (.unreadable path reason)
  | malformed {path text : String} :
    r.file path = .ok text → Json.parse? text = none →
    Fails p r (.path path) (.style .malformedDocument)
  | unanswered {url : String} {fault : LinkFault} :
    r.json ((Link.style url).address p) = .error fault → Fails p r (.url url) fault

/-- What is asked for in order to read a document: a link is, and nothing else. -/
def Input.asked (p : Provider) : Input → List Request
  | .url link => [(Link.style link).request p]
  | .value _ | .path _ => []

namespace Loader

open Session

variable {p : Provider} {r : Resources} {input : Input}

theorem runWith_readDocument_path (p : Provider) (r : Resources) (path : String) :
    ((readDocument p (.path path)).runWith r).1 =
      match r.file path with
      | .error reason => .error (.unreadable path reason)
      | .ok text =>
        match Json.parse? text with
        | some document => .ok document
        | none => .error (.style .malformedDocument) := by
  change (do
    match Json.parse? (← (r.file path).mapError (LinkFault.unreadable path)) with
    | some document => return document
    | none => .error (.style .malformedDocument) : Except LinkFault Json) = _
  cases r.file path <;> rfl

theorem readDocument_eq_ok {value : Json} :
    ((readDocument p input).runWith r).1 = .ok value ↔ input.Gives p r value := by
  constructor
  · intro h
    cases input with
    | value document => exact Except.ok.inj h ▸ .value document
    | path path =>
      rw [runWith_readDocument_path] at h
      split at h
      · cases h
      · next text hfile =>
        split at h
        · next document hparse => exact Except.ok.inj h ▸ .path hfile hparse
        · cases h
    | url url => exact .url (by rw [Link.address_style]; exact h)
  · intro h
    cases h with
    | value => rfl
    | path hfile hparse => rw [runWith_readDocument_path, hfile]; simp only [hparse]
    | url h => rw [Link.address_style] at h; exact h

theorem readDocument_eq_error {fault : LinkFault} :
    ((readDocument p input).runWith r).1 = .error fault ↔ input.Fails p r fault := by
  constructor
  · intro h
    cases input with
    | value document => cases h
    | path path =>
      rw [runWith_readDocument_path] at h
      split at h
      · next reason hfile => exact Except.error.inj h ▸ .unreadable hfile
      · next text hfile =>
        split at h
        · cases h
        · next hparse => exact Except.error.inj h ▸ .malformed hfile hparse
    | url url => exact .unanswered (by rw [Link.address_style]; exact h)
  · intro h
    cases h with
    | unreadable hfile => rw [runWith_readDocument_path, hfile]
    | malformed hfile hparse => rw [runWith_readDocument_path, hfile]; simp only [hparse]
    | unanswered h => rw [Link.address_style] at h; exact h

theorem readDocument_yields (p : Provider) (r : Resources) (input : Input) :
    (readDocument p input).Yields r ((readDocument p input).runWith r).1
      ((readDocument p input).runWith r).2 := by
  cases input with
  | value document => exact (yields_pure _).self
  | path path =>
    have h : (readDocument p (.path path)).Yields r _ ([] ++ []) :=
      yields_bind (yields_file path) (yields_pure _)
    exact h.self
  | url url => exact (yields_json _).self

theorem requests_readDocument (p : Provider) (input : Input) (r : Resources) :
    ((readDocument p input).runWith r).2 = input.asked p := by
  cases input with
  | value document => rfl
  | path path => rfl
  | url url =>
    rw [Input.asked, Link.request, Link.address_style]
    rfl

theorem readDocument_yields_of_gives {value : Json} (h : input.Gives p r value) :
    (readDocument p input).Yields r (.ok value) (input.asked p) := by
  have hread := readDocument_yields p r input
  rw [readDocument_eq_ok.2 h, requests_readDocument] at hread
  exact hread

theorem readDocument_yields_of_fails {fault : LinkFault} (h : input.Fails p r fault) :
    (readDocument p input).Yields r (.error fault) (input.asked p) := by
  have hread := readDocument_yields p r input
  rw [readDocument_eq_error.2 h, requests_readDocument] at hread
  exact hread

theorem gives_or_fails (p : Provider) (r : Resources) (input : Input) :
    (∃ value, input.Gives p r value) ∨ ∃ fault, input.Fails p r fault := by
  cases hread : ((readDocument p input).runWith r).1 with
  | ok value => exact .inl ⟨value, readDocument_eq_ok.1 hread⟩
  | error fault => exact .inr ⟨fault, readDocument_eq_error.1 hread⟩

end Loader

end StyledMap
