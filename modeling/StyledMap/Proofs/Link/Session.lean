import StyledMap.Link.Session

/-! # What sessions yield

A session that is made of requests and of sessions one after the other has a result and a list of
requests that do not depend on what was requested before it.

* `Yields`: a session has a result and adds its requests to any list.
* `yields_pure`, `yields_bind`, `yields_json`, `yields_image` and `yields_file`: the sessions that
  others are made of.
* `yields_mapM`: a list of sessions.
-/

set_option autoImplicit false

namespace StyledMap.Session

variable {β γ : Type} {r : Resources}

/-- A session has a result and adds requests to those before it. -/
def Yields (session : Session β) (r : Resources) (result : β) (requests : List Request) : Prop :=
  ∀ before, (session.run r).run before = (result, before ++ requests)

theorem Yields.runWith {session : Session β} {result : β} {requests : List Request}
    (h : session.Yields r result requests) : session.runWith r = (result, requests) := by
  rw [Session.runWith, h, List.nil_append]

/-- A session that yields anything yields what it does from no requests. -/
theorem Yields.self {session : Session β} {result : β} {requests : List Request}
    (h : session.Yields r result requests) :
    session.Yields r (session.runWith r).1 (session.runWith r).2 := by
  rw [h.runWith]
  exact h

theorem yields_pure (b : β) : (pure b : Session β).Yields r b [] := by
  intro before
  rw [List.append_nil]
  rfl

theorem yields_bind {session : Session β} {next : β → Session γ} {b : β} {c : γ}
    {requests more : List Request} (hs : session.Yields r b requests)
    (hn : (next b).Yields r c more) : (session >>= next).Yields r c (requests ++ more) := by
  intro before
  have h : ((session >>= next).run r).run before =
      ((next ((session.run r).run before).1).run r).run ((session.run r).run before).2 := rfl
  rw [h, hs before, hn, List.append_assoc]

theorem yields_json (url : String) : (json url).Yields r (r.json url) [.json url] := by
  intro before
  rfl

theorem yields_image (url : String) : (image url).Yields r (r.image url) [.image url] := by
  intro before
  rfl

theorem yields_file (path : String) :
    (file path).Yields r ((r.file path).mapError (.unreadable path)) [] := by
  intro before
  rw [List.append_nil]
  rfl

theorem yields_mapM {session : β → Session γ} {result : β → γ} {requests : β → List Request}
    (xs : List β) (h : ∀ x ∈ xs, (session x).Yields r (result x) (requests x)) :
    (xs.mapM session).Yields r (xs.map result) (xs.flatMap requests) := by
  induction xs with
  | nil => exact yields_pure []
  | cons x xs ih =>
    obtain ⟨hx, hxs⟩ := List.forall_mem_cons.1 h
    rw [List.mapM_cons, List.map_cons, List.flatMap_cons]
    refine yields_bind hx ?_
    rw [← List.append_nil (xs.flatMap requests)]
    exact yields_bind (ih hxs) (yields_pure _)

end StyledMap.Session
