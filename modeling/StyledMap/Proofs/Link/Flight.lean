import Mathlib.Data.List.Perm.Basic
import Mathlib.Logic.Relation
import StyledMap.Proofs.Link.Sources

/-! # Everything that a document waits for

The sources of a document and the two parts of its sprite are waited for at the same time. Here the
answers may come in any order; loading as it is defined takes them one after the other.

* `Flight`: a task for every source, and two for a sprite; `launch` is the flight of a document.
* `Step` and `Run`: an answer comes for one of the tasks, and any number of answers in any order.
* `outcome?` is what has arrived once nothing is waited for, `outcome` what will arrive.
* `Answers`: a run with the requests that it answers, in the order of the answers.
* `perm_of_answers`: what was answered and what is still asked for are what was asked for at first.
* `outcome_of_run`: no run changes the outcome, and `exists_arrived`: every run can be completed.
* `resolveLinks_yields`: resolving links in order gives what the outcome of the flight gives.
-/

set_option autoImplicit false

namespace StyledMap.Loader

open Session

/-- What is waited for at the same time. -/
structure Flight where
  sources : List (Task (String × Except LinkFault Source))
  sprite : Option (Task (Except LinkFault Raster) × Task (Except LinkFault Json))

/-- What has arrived for the sources and for the two parts of a sprite. -/
structure Outcome where
  sources : Table (Except LinkFault Source)
  sprite : Option (Except LinkFault Raster × Except LinkFault Json)

namespace Flight

variable {r : Resources} {q : Request}

def launch (p : Provider) (document : Document) : Flight where
  sources := document.sources.map fun entry =>
    (sourceTask p entry.2).map fun result => (entry.1, result)
  sprite := document.sprite.map fun url =>
    (.image (p.spriteAddress url).image .done, .json (p.spriteAddress url).metadata .done)

inductive Step (r : Resources) : Flight → Flight → Prop
  | source {ts ts' : List (Task (String × Except LinkFault Source))}
    (sprite : Option (Task (Except LinkFault Raster) × Task (Except LinkFault Json))) :
    Task.StepOne r ts ts' → Step r ⟨ts, sprite⟩ ⟨ts', sprite⟩
  | image {i i' : Task (Except LinkFault Raster)}
    (ts : List (Task (String × Except LinkFault Source))) (m : Task (Except LinkFault Json)) :
    Task.Step r i i' → Step r ⟨ts, some (i, m)⟩ ⟨ts, some (i', m)⟩
  | metadata {m m' : Task (Except LinkFault Json)}
    (ts : List (Task (String × Except LinkFault Source))) (i : Task (Except LinkFault Raster)) :
    Task.Step r m m' → Step r ⟨ts, some (i, m)⟩ ⟨ts, some (i, m')⟩

/-- Any number of answers come, in any order. -/
def Run (r : Resources) : Flight → Flight → Prop :=
  Relation.ReflTransGen (Step r)

def outcome? (flight : Flight) : Option Outcome := do
  let sources ← flight.sources.mapM Task.value?
  match flight.sprite with
  | none => return ⟨sources, none⟩
  | some (image, metadata) => return ⟨sources, some (← image.value?, ← metadata.value?)⟩

def outcome (r : Resources) (flight : Flight) : Outcome :=
  ⟨flight.sources.map (Task.result r),
    flight.sprite.map fun (image, metadata) => (image.result r, metadata.result r)⟩

/-- What is still asked for: for the sources in order, then for the sprite. -/
def requests (r : Resources) (flight : Flight) : List Request :=
  flight.sources.flatMap (Task.requests r) ++
    match flight.sprite with
    | none => []
    | some (image, metadata) => image.requests r ++ metadata.requests r

/-- What the tasks of a flight wait for, all at the same time. -/
def pending (flight : Flight) : List Request :=
  flight.sources.filterMap Task.pending? ++
    match flight.sprite with
    | none => []
    | some (image, metadata) => image.pending?.toList ++ metadata.pending?.toList

/-- A request of one of the tasks is answered. -/
inductive Answer (r : Resources) (q : Request) : Flight → Flight → Prop
  | source {t t' : Task (String × Except LinkFault Source)}
    (before after : List (Task (String × Except LinkFault Source)))
    (sprite : Option (Task (Except LinkFault Raster) × Task (Except LinkFault Json))) :
    Task.Answer r q t t' →
    Answer r q ⟨before ++ t :: after, sprite⟩ ⟨before ++ t' :: after, sprite⟩
  | image {i i' : Task (Except LinkFault Raster)}
    (ts : List (Task (String × Except LinkFault Source))) (m : Task (Except LinkFault Json)) :
    Task.Answer r q i i' → Answer r q ⟨ts, some (i, m)⟩ ⟨ts, some (i', m)⟩
  | metadata {m m' : Task (Except LinkFault Json)}
    (ts : List (Task (String × Except LinkFault Source))) (i : Task (Except LinkFault Raster)) :
    Task.Answer r q m m' → Answer r q ⟨ts, some (i, m)⟩ ⟨ts, some (i, m')⟩

/-- The requests that are answered in a run, in the order of their answers. -/
inductive Answers (r : Resources) : List Request → Flight → Flight → Prop
  | none (flight : Flight) : Answers r [] flight flight
  | cons {q : Request} {qs : List Request} {flight next final : Flight} :
    Answer r q flight next → Answers r qs next final → Answers r (q :: qs) flight final

/-! ## Answers in any order -/

theorem outcome_of_step {flight next : Flight} (h : Step r flight next) :
    next.outcome r = flight.outcome r := by
  cases h with
  | source sprite hs => rw [outcome, outcome, Task.results_of_stepOne hs]
  | image ts m hi => simp only [outcome, Option.map_some, Task.result_of_step hi]
  | metadata ts i hm => simp only [outcome, Option.map_some, Task.result_of_step hm]

/-- Whatever answers come first, what will arrive stays the same. -/
theorem outcome_of_run {flight final : Flight} (h : Run r flight final) :
    final.outcome r = flight.outcome r := by
  induction h with
  | refl => rfl
  | tail _ hstep ih => rw [outcome_of_step hstep, ih]

theorem outcome_of_outcome? {flight : Flight} {o : Outcome} (h : flight.outcome? = some o) :
    flight.outcome r = o := by
  obtain ⟨ts, sprite⟩ := flight
  obtain ⟨sources, hs, h⟩ := Option.bind_eq_some_iff.1 h
  cases sprite with
  | none =>
    rw [← Option.some.inj h, outcome, Task.results_of_values? hs]
    rfl
  | some parts =>
    obtain ⟨i, m⟩ := parts
    obtain ⟨image, hi, h⟩ := Option.bind_eq_some_iff.1 h
    obtain ⟨metadata, hm, h⟩ := Option.bind_eq_some_iff.1 h
    rw [← Option.some.inj h, outcome, Task.results_of_values? hs]
    simp only [Option.map_some, Task.result_of_value? hi, Task.result_of_value? hm]

theorem answer_of_step {flight next : Flight} (h : Step r flight next) :
    ∃ q, Answer r q flight next := by
  cases h with
  | source sprite hs =>
    obtain ⟨before, t, t', after, rfl, rfl, ht⟩ := Task.exists_of_stepOne hs
    obtain ⟨q, hq⟩ := Task.answer_of_step ht
    exact ⟨q, .source before after sprite hq⟩
  | image ts m hi =>
    obtain ⟨q, hq⟩ := Task.answer_of_step hi
    exact ⟨q, .image ts m hq⟩
  | metadata ts i hm =>
    obtain ⟨q, hq⟩ := Task.answer_of_step hm
    exact ⟨q, .metadata ts i hq⟩

theorem perm_of_answer {flight next : Flight} (h : Answer r q flight next) :
    (flight.requests r).Perm (q :: next.requests r) := by
  cases h with
  | source before after sprite ht =>
    simp only [requests, List.flatMap_append, List.flatMap_cons, Task.requests_of_answer ht,
      List.append_assoc, List.cons_append]
    exact List.perm_middle
  | image ts m hi =>
    simp only [requests, Task.requests_of_answer hi, List.cons_append]
    exact List.perm_middle
  | metadata ts i hm =>
    simp only [requests, Task.requests_of_answer hm]
    rw [← List.append_assoc, ← List.append_assoc]
    exact List.perm_middle

theorem length_requests_of_step {flight next : Flight} (h : Step r flight next) :
    (flight.requests r).length = (next.requests r).length + 1 := by
  obtain ⟨q, hq⟩ := answer_of_step h
  rw [(perm_of_answer hq).length_eq, List.length_cons]

theorem answers_of_run {flight final : Flight} (h : Run r flight final) :
    ∃ qs, Answers r qs flight final := by
  induction h using Relation.ReflTransGen.head_induction_on with
  | refl => exact ⟨[], .none _⟩
  | head hstep _ ih =>
    obtain ⟨q, hq⟩ := answer_of_step hstep
    obtain ⟨qs, hqs⟩ := ih
    exact ⟨q :: qs, .cons hq hqs⟩

/-- What was answered and what is still asked for are what was asked for at first. -/
theorem perm_of_answers {qs : List Request} {flight final : Flight}
    (h : Answers r qs flight final) : (flight.requests r).Perm (qs ++ final.requests r) := by
  induction h with
  | none flight => exact .refl _
  | cons hq _ ih => exact (perm_of_answer hq).trans (ih.cons _)

theorem requests_of_outcome? {flight : Flight} {o : Outcome} (h : flight.outcome? = some o) :
    flight.requests r = [] := by
  obtain ⟨ts, sprite⟩ := flight
  obtain ⟨sources, hs, h⟩ := Option.bind_eq_some_iff.1 h
  cases sprite with
  | none => rw [requests, Task.requests_of_values? hs, List.append_nil]
  | some parts =>
    obtain ⟨i, m⟩ := parts
    obtain ⟨image, hi, h⟩ := Option.bind_eq_some_iff.1 h
    obtain ⟨metadata, hm, -⟩ := Option.bind_eq_some_iff.1 h
    simp only [requests, Task.requests_of_values? hs, Task.requests_of_value? hi,
      Task.requests_of_value? hm, List.append_nil]

theorem exists_step {flight : Flight} (h : flight.outcome? = none) :
    ∃ next, Step r flight next := by
  obtain ⟨ts, sprite⟩ := flight
  cases hs : ts.mapM Task.value? with
  | none =>
    obtain ⟨ts', hstep⟩ := Task.exists_stepOne (r := r) hs
    exact ⟨_, .source sprite hstep⟩
  | some sources =>
    cases sprite with
    | none => simp [outcome?, hs] at h
    | some parts =>
      obtain ⟨i, m⟩ := parts
      cases hi : i.value? with
      | none =>
        obtain ⟨i', hstep⟩ := Task.exists_step (r := r) hi
        exact ⟨_, .image ts m hstep⟩
      | some image =>
        cases hm : m.value? with
        | none =>
          obtain ⟨m', hstep⟩ := Task.exists_step (r := r) hm
          exact ⟨_, .metadata ts i hstep⟩
        | some metadata => simp [outcome?, hs, hi, hm] at h

/-- Every flight arrives, since each answer leaves one request less. -/
theorem exists_arrived (r : Resources) (flight : Flight) :
    ∃ final o, Run r flight final ∧ final.outcome? = some o := by
  -- by induction on the number of answers that are still to come
  induction hn : (flight.requests r).length generalizing flight with
  | zero =>
    cases ho : flight.outcome? with
    | some o => exact ⟨flight, o, .refl, ho⟩
    | none =>
      obtain ⟨next, hstep⟩ := exists_step (r := r) ho
      have hlen := length_requests_of_step hstep
      omega
  | succ n ih =>
    cases ho : flight.outcome? with
    | some o => exact ⟨flight, o, .refl, ho⟩
    | none =>
      obtain ⟨next, hstep⟩ := exists_step (r := r) ho
      have hlen := length_requests_of_step hstep
      obtain ⟨final, o, hrun, hfinal⟩ := ih next (by omega)
      exact ⟨final, o, .head hstep hrun, hfinal⟩

end Flight

/-! ## Putting together -/

/-- The sprite of two parts that have both arrived. -/
def spriteOf : Option (Except LinkFault Raster × Except LinkFault Json) → Option Sprite
  | some (.ok image, .ok metadata) => some ⟨image, metadata⟩
  | _ => none

/-- The report of a sprite of which a part is missing; a fault of the image comes first. -/
def spriteReport (url : Option String) :
    Option (Except LinkFault Raster × Except LinkFault Json) → List Diagnostic
  | some (.error fault, _) | some (.ok _, .error fault) =>
    url.toList.map fun url => ⟨.spriteUnavailable, url, fault.message⟩
  | _ => []

/-- The style of a document and what has arrived for it; `dangling` are the problems found before.
-/
def assemble (p : Provider) (document : Document) (dangling : List Diagnostic) (o : Outcome) :
    LoadedStyle where
  document := { document with
    glyphs := document.glyphs.map p.glyphUrl
    sources := available o.sources }
  sprite := spriteOf o.sprite
  diagnostics := dangling ++ unavailable o.sources ++ spriteReport document.sprite o.sprite

theorem spriteOf_eq_some {parts : Option (Except LinkFault Raster × Except LinkFault Json)}
    {image : Raster} {metadata : Json} :
    spriteOf parts = some ⟨image, metadata⟩ ↔ parts = some (.ok image, .ok metadata) := by
  unfold spriteOf
  split
  · simp
  · next h =>
    refine iff_of_false (by simp) ?_
    rintro rfl
    exact h _ _ rfl

theorem kind_of_mem_spriteReport {url : Option String}
    {parts : Option (Except LinkFault Raster × Except LinkFault Json)} {d : Diagnostic}
    (h : d ∈ spriteReport url parts) : d.kind = .spriteUnavailable := by
  unfold spriteReport at h
  split at h
  · obtain ⟨_, -, rfl⟩ := List.mem_map.1 h
    rfl
  · obtain ⟨_, -, rfl⟩ := List.mem_map.1 h
    rfl
  · simp at h

theorem sprite_of_mem_spriteReport {url : Option String}
    {parts : Option (Except LinkFault Raster × Except LinkFault Json)} {d : Diagnostic}
    (h : d ∈ spriteReport url parts) : url = some d.subject := by
  unfold spriteReport at h
  split at h
  · obtain ⟨_, hurl, rfl⟩ := List.mem_map.1 h
    exact Option.mem_toList.1 hurl
  · obtain ⟨_, hurl, rfl⟩ := List.mem_map.1 h
    exact Option.mem_toList.1 hurl
  · simp at h

/-- A declared sprite is reported once when a part is missing, and else not. -/
theorem length_spriteReport (url : String) (image : Except LinkFault Raster)
    (metadata : Except LinkFault Json) :
    (spriteReport (some url) (some (image, metadata))).length ≤ 1 ∧
      ((spriteReport (some url) (some (image, metadata))).length = 1 ↔
        (∃ fault, image = .error fault) ∨ ∃ fault, metadata = .error fault) := by
  cases image with
  | error fault => exact ⟨Nat.le_refl 1, iff_of_true rfl (.inl ⟨fault, rfl⟩)⟩
  | ok image =>
    cases metadata with
    | error fault => exact ⟨Nat.le_refl 1, iff_of_true rfl (.inr ⟨fault, rfl⟩)⟩
    | ok metadata => simp [spriteReport]

variable {r : Resources}

theorem loadSprite_yields (p : Provider) (r : Resources) (url : String) :
    (loadSprite p url).Yields r
      (do return ⟨← r.image (p.spriteAddress url).image, ← r.json (p.spriteAddress url).metadata⟩)
      [.image (p.spriteAddress url).image, .json (p.spriteAddress url).metadata] :=
  yields_bind (yields_image _) (yields_bind (yields_json _) (yields_pure _))

theorem loadDeclaredSprite_yields (p : Provider) (r : Resources) (document : Document) :
    (loadDeclaredSprite p document.sprite).Yields r
      (spriteOf ((Flight.launch p document).outcome r).sprite,
        spriteReport document.sprite ((Flight.launch p document).outcome r).sprite)
      (match (Flight.launch p document).sprite with
        | none => []
        | some (image, metadata) => image.requests r ++ metadata.requests r) := by
  unfold loadDeclaredSprite Flight.launch Flight.outcome
  cases document.sprite with
  | none => exact yields_pure _
  | some url =>
    change Session.Yields _ r _ ([.image (p.spriteAddress url).image,
      .json (p.spriteAddress url).metadata] ++ [])
    refine yields_bind (loadSprite_yields p r url) ?_
    simp only [Option.map_some, Task.result]
    cases r.image (p.spriteAddress url).image with
    | error fault => exact yields_pure _
    | ok image =>
      cases r.json (p.spriteAddress url).metadata with
      | error fault => exact yields_pure _
      | ok metadata => exact yields_pure _

theorem sprite_outcome_launch (p : Provider) (r : Resources) (document : Document) :
    ((Flight.launch p document).outcome r).sprite = document.sprite.map fun url =>
      (r.image (p.spriteAddress url).image, r.json (p.spriteAddress url).metadata) := by
  unfold Flight.launch Flight.outcome
  cases document.sprite with
  | none => rfl
  | some url => rfl

theorem sources_outcome_launch (p : Provider) (r : Resources) (document : Document) :
    ((Flight.launch p document).outcome r).sources =
      document.sources.map fun entry => (entry.1, (sourceTask p entry.2).result r) := by
  unfold Flight.launch Flight.outcome
  simp only [List.map_map]
  refine List.map_congr_left fun entry _ => ?_
  exact Task.result_map _ _

theorem expandSources_yields (p : Provider) (r : Resources) (document : Document) :
    (expandSources p document.sources).Yields r ((Flight.launch p document).outcome r).sources
      ((Flight.launch p document).sources.flatMap (Task.requests r)) := by
  have hreq : (Flight.launch p document).sources.flatMap (Task.requests r) =
      document.sources.flatMap fun entry => (sourceTask p entry.2).requests r := by
    unfold Flight.launch
    simp only [List.flatMap_map, Task.requests_map]
  rw [sources_outcome_launch, hreq]
  refine yields_mapM document.sources fun entry _ => ?_
  rw [← List.append_nil ((sourceTask p entry.2).requests r)]
  exact yields_bind (expandSource_yields p r entry.2) (yields_pure _)

/-- Links that are resolved in order give the style of what arrives in any order. -/
theorem resolveLinks_yields (p : Provider) (r : Resources) (document : Document)
    (dangling : List Diagnostic) :
    (resolveLinks p document dangling).Yields r
      (assemble p document dangling ((Flight.launch p document).outcome r))
      ((Flight.launch p document).requests r) := by
  refine yields_bind (expandSources_yields p r document) ?_
  rw [← List.append_nil (match (Flight.launch p document).sprite with
    | none => []
    | some (image, metadata) => image.requests r ++ metadata.requests r)]
  exact yields_bind (loadDeclaredSprite_yields p r document) (yields_pure _)

end StyledMap.Loader
