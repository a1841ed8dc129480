import StyledMap.Proofs.Merging

/-! # Metadata that are merged one after another

A source may be merged with metadata as often as one likes, and a merge that is refused leaves it as
it was. What carries a run is one step: a member stays as it is once it is there, and until then it
is what the next metadata offer.

* `Source.afterMerges` and `Source.mergedOf`: the source after a run, and the metadata of the run
  that were not refused.
* `Source.get?_afterMerges`: each member is the source's own, or else the first that was offered.
* `Source.merges_override_nothing`: what a run does, and that nothing is gained from metadata that
  were merged before.
-/

set_option autoImplicit false

namespace StyledMap.Source

variable {s : Source} {info : Table Json} {infos : List (Table Json)} {key : String}

/-- The source after a merge; one that is refused leaves it as it was. -/
def afterMerge (s : Source) (info : Table Json) : Source :=
  match s.mergedWith info with
  | .ok merged => merged
  | .error _ => s

def afterMerges (s : Source) (infos : List (Table Json)) : Source :=
  infos.foldl afterMerge s

/-- The metadata of a run that are not refused. -/
def mergedOf (s : Source) : List (Table Json) → List (Table Json)
  | [] => []
  | info :: infos =>
    match s.mergedWith info with
    | .ok merged => info :: mergedOf merged infos
    | .error _ => mergedOf s infos

/-! ## One step -/

theorem afterMerge_of_ok {merged : Source} (h : s.mergedWith info = .ok merged) :
    s.afterMerge info = merged := by
  rw [afterMerge, h]

theorem afterMerge_of_error {fault : Fault} (h : s.mergedWith info = .error fault) :
    s.afterMerge info = s := by
  rw [afterMerge, h]

theorem wellFormed_afterMerge (hs : s.WellFormed) (info : Table Json) :
    (s.afterMerge info).WellFormed := by
  cases h : s.mergedWith info with
  | ok merged =>
    rw [afterMerge_of_ok h]
    exact wellFormed_of_mergedWith h
  | error fault => rwa [afterMerge_of_error h]

theorem isSorted_extra_afterMerge (he : s.extra.IsSorted) (hi : Table.IsSorted info) :
    (s.afterMerge info).extra.IsSorted := by
  cases h : s.mergedWith info with
  | ok merged =>
    rw [afterMerge_of_ok h]
    exact isSorted_extra_of_mergedWith hi h
  | error fault => rwa [afterMerge_of_error h]

theorem type_afterMerge (hs : s.WellFormed) (info : Table Json) :
    (s.afterMerge info).type = s.type := by
  cases h : s.mergedWith info with
  | ok merged =>
    rw [afterMerge_of_ok h]
    exact type_of_mergedWith (hs.extra _ (by decide)) h
  | error fault => rw [afterMerge_of_error h]

/-- A merge that is tried twice is taken or refused twice. -/
theorem afterMerge_afterMerge (hs : s.WellFormed) (hi : Table.IsSorted info) :
    (s.afterMerge info).afterMerge info = s.afterMerge info := by
  cases h : s.mergedWith info with
  | ok merged => rw [afterMerge_of_ok h, afterMerge_of_ok (mergedWith_again hi hs h)]
  | error fault => rw [afterMerge_of_error h, afterMerge_of_error h]

/-! ## Runs -/

theorem afterMerges_cons (s : Source) (info : Table Json) (infos : List (Table Json)) :
    s.afterMerges (info :: infos) = (s.afterMerge info).afterMerges infos := rfl

theorem mergedOf_of_ok {merged : Source} (h : s.mergedWith info = .ok merged)
    (infos : List (Table Json)) : s.mergedOf (info :: infos) = info :: merged.mergedOf infos := by
  rw [mergedOf, h]

theorem mergedOf_of_error {fault : Fault} (h : s.mergedWith info = .error fault)
    (infos : List (Table Json)) : s.mergedOf (info :: infos) = s.mergedOf infos := by
  rw [mergedOf, h]

theorem wellFormed_afterMerges (hs : s.WellFormed) (infos : List (Table Json)) :
    (s.afterMerges infos).WellFormed := by
  induction infos generalizing s with
  | nil => exact hs
  | cons info infos ih => exact ih (wellFormed_afterMerge hs info)

theorem isSorted_extra_afterMerges (he : s.extra.IsSorted)
    (hi : ∀ info ∈ infos, Table.IsSorted info) : (s.afterMerges infos).extra.IsSorted := by
  induction infos generalizing s with
  | nil => exact he
  | cons info infos ih =>
    obtain ⟨hinfo, hinfos⟩ := List.forall_mem_cons.1 hi
    exact ih (isSorted_extra_afterMerge he hinfo) hinfos

theorem type_afterMerges (hs : s.WellFormed) (infos : List (Table Json)) :
    (s.afterMerges infos).type = s.type := by
  induction infos generalizing s with
  | nil => rfl
  | cons info infos ih =>
    rw [afterMerges_cons, ih (wellFormed_afterMerge hs info), type_afterMerge hs]

theorem mergedOf_sublist (s : Source) (infos : List (Table Json)) :
    (s.mergedOf infos).Sublist infos := by
  induction infos generalizing s with
  | nil => exact .slnil
  | cons info infos ih =>
    cases h : s.mergedWith info with
    | ok merged =>
      rw [mergedOf_of_ok h]
      exact (ih merged).cons_cons info
    | error fault =>
      rw [mergedOf_of_error h]
      exact (ih s).cons info

/-- After a run each member is the source's own, or else the first that was offered. -/
theorem get?_afterMerges (hs : s.WellFormed) (he : s.extra.IsSorted)
    (hi : ∀ info ∈ infos, Table.IsSorted info) (hk : key ≠ "type") :
    (s.afterMerges infos).members.get? key =
      (s.members.get? key).or ((s.mergedOf infos).findSome? (offered? · key)) := by
  induction infos generalizing s with
  | nil => exact (Option.or_none).symm
  | cons info infos ih =>
    obtain ⟨hinfo, hinfos⟩ := List.forall_mem_cons.1 hi
    rw [afterMerges_cons]
    cases h : s.mergedWith info with
    | ok merged =>
      have hown := get?_merged hs h hk
      rw [(isSorted_members he).lookup_reverse] at hown
      rw [afterMerge_of_ok h, mergedOf_of_ok h, List.findSome?_cons,
        ih (wellFormed_of_mergedWith h) (isSorted_extra_of_mergedWith hinfo h) hinfos, hown,
        Option.or_assoc]
      -- What this step offers comes before what later ones do.
      cases offered? info key <;> rfl
    | error fault => rw [afterMerge_of_error h, mergedOf_of_error h, ih hs he hinfos]

/-- What was merged in a run offers nothing new at its end. -/
theorem mergedWith_of_mem_mergedOf (hs : s.WellFormed) (he : s.extra.IsSorted)
    (hi : ∀ info ∈ infos, Table.IsSorted info) (hm : info ∈ s.mergedOf infos) :
    (s.afterMerges infos).mergedWith info = .ok (s.afterMerges infos) := by
  have hinfo : Table.IsSorted info := hi info ((mergedOf_sublist s infos).subset hm)
  refine mergedWith_filled (wellFormed_afterMerges hs infos) (isSorted_extra_afterMerges he hi)
    hinfo fun key hk hopen => ?_
  rw [get?_afterMerges hs he hi hk] at hopen
  have hnone := (Option.or_eq_none_iff.1 hopen).2
  exact List.findSome?_eq_none_iff.1 hnone info hm

/-- A run of metadata overrides nothing, and of those that offer a member the first is taken. Only
metadata whose link cannot be taken over are refused, and what was merged once changes nothing when
it is merged again. -/
theorem merges_override_nothing (s : Source) (infos : List (Table Json)) (hs : s.WellFormed)
    (he : s.extra.IsSorted) (hi : ∀ info ∈ infos, Table.IsSorted info) :
    (∀ info,
      ((s.afterMerges infos).Refuses info ∧
        (s.afterMerges infos).mergedWith info = .error .malformedDocument) ∨
      (¬ (s.afterMerges infos).Refuses info ∧
        ∃ merged, (s.afterMerges infos).mergedWith info = .ok merged)) ∧
    (s.afterMerges infos).type = s.type ∧
    (s.afterMerges infos).isGeoJson = s.isGeoJson ∧
    (∀ key ≠ "type", (s.afterMerges infos).members.get? key =
      (s.members.get? key).or ((s.mergedOf infos).findSome? (offered? · key))) ∧
    (∀ info ∈ s.mergedOf infos,
      (s.afterMerges infos).mergedWith info = .ok (s.afterMerges infos)) ∧
    ∀ info, Table.IsSorted info → ((s.afterMerges infos).afterMerge info).afterMerge info =
      (s.afterMerges infos).afterMerge info := by
  have hs' : (s.afterMerges infos).WellFormed := wellFormed_afterMerges hs infos
  have htype : (s.afterMerges infos).type = s.type := type_afterMerges hs infos
  have hgeo : (s.afterMerges infos).isGeoJson = s.isGeoJson := by
    rw [isGeoJson, htype, isGeoJson]
  refine ⟨mergedWith_cases hs', htype, hgeo, fun key hk => ?_, fun info hm => ?_, fun info hi => ?_⟩
  · exact get?_afterMerges hs he hi hk
  · exact mergedWith_of_mem_mergedOf hs he hi hm
  · exact afterMerge_afterMerge hs' hi

/-- A source of tiles without a link. -/
def quarry : Source where
  type := "vector"
  url := none
  data := none
  extra := [("maxzoom", .number (.natural 14))]

/-- The first are refused. The second set a name that is `null` and no link, so the third can still
give the source a link, and with it the last are no longer refused. -/
def quarryMetadata : List (Table Json) :=
  [[("name", .string "old"), ("url", .bool true)],
    [("maxzoom", .number (.natural 5)), ("name", .null), ("type", .string "geojson"),
      ("url", .null)],
    [("name", .string "new"), ("url", .string "mapbox://quarry")],
    [("format", .string "pbf"), ("url", .bool true)]]

theorem merges_override_nothing_quarry :
    quarry.mergedOf quarryMetadata = quarryMetadata.tail ∧
    (quarry.afterMerges quarryMetadata).type = "vector" ∧
    (quarry.afterMerges quarryMetadata).members.get? "maxzoom" = some (.number (.natural 14)) ∧
    (quarry.afterMerges quarryMetadata).members.get? "name" = some .null ∧
    (quarry.afterMerges quarryMetadata).members.get? "url" = some (.string "mapbox://quarry") ∧
    (quarry.afterMerges quarryMetadata).members.get? "format" = some (.string "pbf") := by
  have hs : quarry.WellFormed := ⟨by simp [quarry], by decide⟩
  have hmerged : quarry.mergedOf quarryMetadata = quarryMetadata.tail := rfl
  obtain ⟨-, htype, -, hmembers, -, -⟩ :=
    merges_override_nothing quarry quarryMetadata hs (by decide) (by decide)
  refine ⟨hmerged, htype, ?_, ?_, ?_, ?_⟩ <;> rw [hmembers _ (by decide), hmerged] <;> rfl

end StyledMap.Source
