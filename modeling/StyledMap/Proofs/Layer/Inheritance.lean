import Mathlib.Data.List.Forall2
import StyledMap.Layer.Inheritance

/-! # Inheritance is one level deep

* `Layer.IsLast`: a layer is the last one of a list with an id.
* `Layer.InheritsFrom`: each of the inherited fields is the one that the other layer declares, or
  else the layer's own, and all that is not inherited stays.
* `Layer.Resolves`: what a layer of a list becomes, with one case for each kind of reference.
* `Resolution.ofLayers_oneLevel`: resolving a list is that for each of its layers, lists the
  references that dangle, and looks at nothing but a layer and the one it names.
* `Resolution.exists_dangling_ofLayers_of_find?`: the reference that a strict resolution names is
  that of the first layer whose reference dangles.
* `Resolution.ofLayers_of_reference_eq_none` and `Resolution.ofLayers_again`: there is nothing to
  resolve without references, or a second time.
-/

set_option autoImplicit false

namespace StyledMap

namespace Layer

variable {layers others : List Layer} {l parent out : Layer} {id : String}

/-! ## The layer that is named -/

/-- A layer is the last one of a list with an id. -/
def IsLast (layers : List Layer) (id : String) (parent : Layer) : Prop :=
  ∃ before after, layers = before ++ parent :: after ∧ parent.id = id ∧ ∀ m ∈ after, m.id ≠ id

theorem named?_eq_some : named? layers id = some parent ↔ IsLast layers id parent := by
  unfold named? IsLast
  rw [List.find?_eq_some_iff_append]
  constructor
  · rintro ⟨hid, after, before, heq, hafter⟩
    refine ⟨before.reverse, after.reverse, ?_, beq_iff_eq.1 hid, fun m hm => ?_⟩
    · rw [← List.reverse_reverse layers, heq]
      simp
    · simpa using hafter m (List.mem_reverse.1 hm)
  · rintro ⟨before, after, rfl, hid, hafter⟩
    refine ⟨beq_iff_eq.2 hid, after.reverse, before.reverse, by simp, fun m hm => ?_⟩
    simpa using hafter m (List.mem_reverse.1 hm)

theorem named?_eq_none : named? layers id = none ↔ ∀ m ∈ layers, m.id ≠ id := by
  unfold named?
  rw [List.find?_eq_none]
  simp

/-- Where no two layers share an id, the only layer with an id is the last one. -/
theorem isLast_iff_mem (h : (layers.map Layer.id).Nodup) :
    IsLast layers id parent ↔ parent ∈ layers ∧ parent.id = id := by
  constructor
  · rintro ⟨before, after, rfl, hid, -⟩
    exact ⟨by simp, hid⟩
  · rintro ⟨hm, rfl⟩
    obtain ⟨before, after, rfl⟩ := List.append_of_mem hm
    refine ⟨before, after, rfl, rfl, fun m hm heq => ?_⟩
    rw [List.map_append, List.map_cons] at h
    have hnot := (List.nodup_cons.1 (List.nodup_append.1 h).2.1).1
    exact hnot (heq ▸ List.mem_map_of_mem hm)

/-! ## What is taken from it -/

/-- A field is the one that is declared, and the layer's own where none is. -/
def Takes {β : Type} (own declared result : Option β) : Prop :=
  (∀ b, declared = some b → result = some b) ∧ (declared = none → result = own)

theorem takes_iff {β : Type} {own declared result : Option β} :
    Takes own declared result ↔ result = (declared <|> own) := by
  unfold Takes
  cases declared <;> simp

theorem Takes.eq_or_eq {β : Type} {own declared result : Option β}
    (h : Takes own declared result) : result = declared ∨ result = own := by
  cases hd : declared with
  | none => exact .inr (h.2 hd)
  | some b => exact .inl (h.1 b hd)

theorem Takes.eq_of_ne_none {β : Type} {own declared result : Option β}
    (h : Takes own declared result) (hd : declared ≠ none) : result = declared := by
  obtain ⟨b, hb⟩ := Option.ne_none_iff_exists'.1 hd
  rw [h.1 b hb, hb]

/-- A layer takes what another one declares, and is else as it was. -/
structure InheritsFrom (l parent out : Layer) : Prop where
  kind : Takes l.kind parent.kind out.kind
  minzoom : Takes l.minzoom parent.minzoom out.minzoom
  maxzoom : Takes l.maxzoom parent.maxzoom out.maxzoom
  source : Takes l.source parent.source out.source
  sourceLayer : Takes l.sourceLayer parent.sourceLayer out.sourceLayer
  filter : Takes l.filter parent.filter out.filter
  layout : Takes l.layout parent.layout out.layout
  reference : out.reference = none
  id : out.id = l.id
  paint : out.paint = l.paint
  extra : out.extra = l.extra

theorem inheritsFrom_iff : InheritsFrom l parent out ↔ out = l.inherit parent := by
  constructor
  · intro h
    obtain ⟨hkind, hmin, hmax, hsource, hsl, hfilter, hlayout, href, hid, hpaint, hextra⟩ := h
    simp only [takes_iff] at hkind hmin hmax hsource hsl hfilter hlayout
    cases out
    simp_all [inherit]
  · rintro rfl
    exact ⟨takes_iff.2 rfl, takes_iff.2 rfl, takes_iff.2 rfl, takes_iff.2 rfl, takes_iff.2 rfl,
      takes_iff.2 rfl, takes_iff.2 rfl, rfl, rfl, rfl, rfl⟩

/-! ## What a layer becomes -/

/-- What a layer becomes among the layers of a list. -/
inductive Resolves (layers : List Layer) (l : Layer) : Layer → Prop
  /-- Without a reference it stays. -/
  | alone : l.reference = none → Resolves layers l l
  /-- It inherits from the last layer of the id that it names. -/
  | named {id : String} {parent out : Layer} : l.reference = some id →
    IsLast layers id parent → InheritsFrom l parent out → Resolves layers l out
  /-- When it names none it loses its reference. -/
  | dangling {id : String} : l.reference = some id → (∀ m ∈ layers, m.id ≠ id) →
    Resolves layers l { l with reference := none }

theorem resolved_of_reference_eq_none (href : l.reference = none) : l.resolved layers = l := by
  rw [resolved, href]

theorem resolved_of_isLast (href : l.reference = some id) (h : IsLast layers id parent) :
    l.resolved layers = l.inherit parent := by
  simp only [resolved, href, named?_eq_some.2 h]

theorem resolved_of_unnamed (href : l.reference = some id) (h : ∀ m ∈ layers, m.id ≠ id) :
    l.resolved layers = l.detached := by
  simp only [resolved, href, named?_eq_none.2 h]

theorem resolves_resolved (layers : List Layer) (l : Layer) :
    Resolves layers l (l.resolved layers) := by
  cases href : l.reference with
  | none =>
    rw [resolved_of_reference_eq_none href]
    exact .alone href
  | some id =>
    cases hnamed : named? layers id with
    | none =>
      rw [resolved_of_unnamed href (named?_eq_none.1 hnamed)]
      exact .dangling href (named?_eq_none.1 hnamed)
    | some parent =>
      rw [resolved_of_isLast href (named?_eq_some.1 hnamed)]
      exact .named href (named?_eq_some.1 hnamed) (inheritsFrom_iff.2 rfl)

theorem resolves_iff : Resolves layers l out ↔ out = l.resolved layers := by
  constructor
  · intro h
    cases h with
    | alone href => rw [resolved_of_reference_eq_none href]
    | named href hlast hout => rw [resolved_of_isLast href hlast, inheritsFrom_iff.1 hout]
    | dangling href hnone =>
      rw [resolved_of_unnamed href hnone]
      rfl
  · rintro rfl
    exact resolves_resolved layers l

theorem reference_of_resolves (h : Resolves layers l out) : out.reference = none := by
  cases h with
  | alone href => exact href
  | named _ _ hout => exact hout.reference
  | dangling _ _ => rfl

theorem id_of_resolves (h : Resolves layers l out) : out.id = l.id := by
  cases h with
  | alone _ => rfl
  | named _ _ hout => exact hout.id
  | dangling _ _ => rfl

/-- Lists in which a layer names the same layer, or none, make the same of it. -/
theorem resolved_congr (h : ∀ id, l.reference = some id → ∀ parent,
    IsLast layers id parent ↔ IsLast others id parent) : l.resolved layers = l.resolved others := by
  cases href : l.reference with
  | none => rw [resolved_of_reference_eq_none href, resolved_of_reference_eq_none href]
  | some id =>
    have hnamed : named? layers id = named? others id :=
      Option.ext fun parent => by rw [named?_eq_some, named?_eq_some, h id href]
    simp only [resolved, href, hnamed]

/-! ## References that dangle -/

/-- Whether a layer has a reference to an id that no layer of a list has. -/
def dangles (layers : List Layer) (l : Layer) : Bool :=
  l.reference.any fun id => layers.all fun m => m.id != id

theorem dangles_of_reference {id : String} (href : l.reference = some id) :
    dangles layers l = true ↔ named? layers id = none := by
  rw [dangles, href, Option.any_some, List.all_eq_true, named?_eq_none]
  simp only [bne_iff_ne]

theorem dangling?_of_dangles (h : dangles layers l = true) :
    (dangling? layers l).map (fun d => (d.layer, some d.missing)) = some (l.id, l.reference) := by
  cases href : l.reference with
  | none => simp [dangles, href] at h
  | some id => simp only [dangling?, href, (dangles_of_reference href).1 h, Option.map_some]

theorem dangling?_of_not_dangles (h : ¬ dangles layers l = true) : dangling? layers l = none := by
  cases href : l.reference with
  | none => simp only [dangling?, href]
  | some id =>
    rw [dangles_of_reference href] at h
    obtain ⟨parent, hnamed⟩ := Option.ne_none_iff_exists'.1 h
    simp only [dangling?, href, hnamed]

end Layer

namespace Resolution

open Layer

variable {layers others : List Layer} {l : Layer}

theorem forall₂_resolves (layers : List Layer) {out : List Layer} :
    List.Forall₂ (Resolves layers) layers out ↔ out = (ofLayers layers).layers := by
  constructor
  · intro h
    have hmap : List.Forall₂ (fun l m => l.resolved layers = m) layers out :=
      h.imp fun _ _ hl => (resolves_iff.1 hl).symm
    have heq := List.forall₂_map_left_iff.2 hmap
    rw [List.forall₂_eq_eq_eq] at heq
    exact heq.symm
  · rintro rfl
    exact List.forall₂_map_right_iff.2 (List.forall₂_same.2 fun l _ => resolves_resolved layers l)

theorem reference_of_mem_ofLayers (h : l ∈ (ofLayers layers).layers) : l.reference = none := by
  obtain ⟨m, -, rfl⟩ := List.mem_map.1 h
  exact reference_of_resolves (resolves_resolved layers m)

theorem map_id_ofLayers (layers : List Layer) :
    (ofLayers layers).layers.map Layer.id = layers.map Layer.id := by
  rw [ofLayers, List.map_map]
  exact List.map_congr_left fun l _ => id_of_resolves (resolves_resolved layers l)

theorem dangling_ofLayers (layers : List Layer) :
    ((ofLayers layers).dangling.map fun d => (d.layer, some d.missing)) =
      (layers.filter (dangles layers)).map fun l => (l.id, l.reference) := by
  -- The list in which references are looked up stays whole while the other one gets shorter.
  have hall : ∀ rest : List Layer,
      ((rest.filterMap (dangling? layers)).map fun d => (d.layer, some d.missing)) =
        (rest.filter (dangles layers)).map fun l => (l.id, l.reference) := by
    intro rest
    induction rest with
    | nil => rfl
    | cons l rest ih =>
      by_cases hd : dangles layers l = true
      · obtain ⟨d, hsome, heq⟩ := Option.map_eq_some_iff.1 (dangling?_of_dangles hd)
        rw [List.filterMap_cons_some hsome, List.filter_cons_of_pos hd, List.map_cons,
          List.map_cons, ih, heq]
      · rw [List.filterMap_cons_none (dangling?_of_not_dangles hd),
          List.filter_cons_of_neg hd, ih]
  exact hall layers

theorem dangling_ofLayers_eq_nil_iff :
    (ofLayers layers).dangling = [] ↔ ∀ l ∈ layers, dangles layers l = false := by
  rw [← List.map_eq_nil_iff, dangling_ofLayers, List.map_eq_nil_iff, List.filter_eq_nil_iff]
  simp only [Bool.not_eq_true]

/-- The first layer whose reference dangles gives the first dangling reference. -/
theorem exists_dangling_ofLayers_of_find? (h : layers.find? (dangles layers) = some l) :
    ∃ missing rest, l.reference = some missing ∧
      (ofLayers layers).dangling = ⟨l.id, missing⟩ :: rest := by
  rw [← List.head?_filter, List.head?_eq_some_iff] at h
  obtain ⟨others, hfilter⟩ := h
  have hall := dangling_ofLayers layers
  rw [hfilter, List.map_cons, List.map_eq_cons_iff] at hall
  obtain ⟨d, rest, hd, hfirst, -⟩ := hall
  obtain ⟨hlayer, hmissing⟩ := Prod.mk.inj hfirst
  refine ⟨d.missing, rest, hmissing.symm, ?_⟩
  rw [hd, ← hlayer]

theorem exists_find?_dangles (h : ¬ ∀ l ∈ layers, dangles layers l = false) :
    ∃ l missing, layers.find? (dangles layers) = some l ∧ l.reference = some missing := by
  have hsome : (layers.find? (dangles layers)).isSome := by simpa [List.find?_isSome] using h
  obtain ⟨l, hfirst⟩ := Option.isSome_iff_exists.1 hsome
  obtain ⟨missing, -, href, -⟩ := exists_dangling_ofLayers_of_find? hfirst
  exact ⟨l, missing, hfirst, href⟩

theorem strict_eq_ok {r : Resolution} (h : r.dangling = []) : r.strict = .ok r.layers := by
  rw [strict, h]

theorem strict_eq_error {r : Resolution} {d : Dangling} {rest : List Dangling}
    (h : r.dangling = d :: rest) : r.strict = .error (.danglingReference d.layer d.missing) := by
  rw [strict, h]

theorem diagnostics_eq_nil {r : Resolution} (h : r.dangling = []) : r.diagnostics = [] := by
  rw [diagnostics, h, List.map_nil]

theorem getElem?_ofLayers {i : Nat} (h : layers[i]? = some l) :
    (ofLayers layers).layers[i]? = some (l.resolved layers) := by
  rw [ofLayers, List.getElem?_map, h]
  rfl

theorem getElem?_ofLayers_congr {i j : Nat} (hi : layers[i]? = some l) (hj : others[j]? = some l)
    (h : ∀ id, l.reference = some id → ∀ parent,
      IsLast layers id parent ↔ IsLast others id parent) :
    (ofLayers layers).layers[i]? = (ofLayers others).layers[j]? := by
  rw [getElem?_ofLayers hi, getElem?_ofLayers hj, resolved_congr h]

theorem isLast_perm (hp : layers.Perm others) (hn : (layers.map Layer.id).Nodup) (id : String)
    (parent : Layer) : IsLast layers id parent ↔ IsLast others id parent := by
  have hn' : (others.map Layer.id).Nodup := (hp.map Layer.id).nodup_iff.1 hn
  rw [isLast_iff_mem hn, isLast_iff_mem hn', hp.mem_iff]

/-- There is nothing to resolve without references. -/
theorem ofLayers_of_reference_eq_none (h : ∀ l ∈ layers, l.reference = none) :
    ofLayers layers = ⟨layers, []⟩ := by
  have hlayers : layers.map (Layer.resolved layers) = layers := by
    rw [List.map_congr_left fun l hl => resolved_of_reference_eq_none (h l hl), List.map_id']
  have hdangling : layers.filterMap (dangling? layers) = [] :=
    List.filterMap_eq_nil_iff.2 fun l hl => by rw [dangling?, h l hl]
  rw [ofLayers, hlayers, hdangling]

/-- Resolving references a second time changes nothing. -/
theorem ofLayers_again (layers : List Layer) :
    ofLayers (ofLayers layers).layers = ⟨(ofLayers layers).layers, []⟩ :=
  ofLayers_of_reference_eq_none fun _ => reference_of_mem_ofLayers

/-- A list of layers is resolved layer by layer and one level deep, whatever its references are.
What a layer becomes is determined by the layer and the one that it names, so it does not matter in
which list and at which place it stands. -/
theorem ofLayers_oneLevel (layers : List Layer) :
    (∀ out, List.Forall₂ (Resolves layers) layers out ↔ out = (ofLayers layers).layers) ∧
    (∀ l ∈ (ofLayers layers).layers, l.reference = none) ∧
    ((ofLayers layers).dangling.map fun d => (d.layer, some d.missing)) =
      (layers.filter (dangles layers)).map (fun l => (l.id, l.reference)) ∧
    (∀ (others : List Layer) (i j : Nat) (l : Layer),
      layers[i]? = some l → others[j]? = some l →
      (∀ id, l.reference = some id → ∀ parent,
        IsLast layers id parent ↔ IsLast others id parent) →
      (ofLayers layers).layers[i]? = (ofLayers others).layers[j]?) ∧
    (∀ (others : List Layer) (i j : Nat) (l : Layer),
      layers.Perm others → (layers.map Layer.id).Nodup →
      layers[i]? = some l → others[j]? = some l →
      (ofLayers layers).layers[i]? = (ofLayers others).layers[j]?) := by
  refine ⟨fun out => forall₂_resolves layers, fun l => reference_of_mem_ofLayers,
    dangling_ofLayers layers, ?_, ?_⟩
  · intro others i j l hi hj h
    exact getElem?_ofLayers_congr hi hj h
  · intro others i j l hp hn hi hj
    exact getElem?_ofLayers_congr hi hj fun id _ parent => isLast_perm hp hn id parent

end Resolution

end StyledMap
