import StyledMap.Proofs.Fields
import StyledMap.Proofs.RoundTrip

/-! # Metadata that is merged

A source is merged with metadata by adding its own members to those of the metadata.

* `Source.mergedWith_cases`: a merge is refused exactly where a link that is not text would be
  taken over.
* `Source.get?_merged`: each member is the source's own, or else what the metadata offers.
* `Source.mergedWith_filled`: metadata that offer nothing new change nothing, and so merging the
  same metadata a second time changes nothing.
-/

set_option autoImplicit false

namespace StyledMap.Source

variable {s merged : Source} {info : Table Json} {key : String}

theorem wellFormed_of_mergedWith (h : s.mergedWith info = .ok merged) : merged.WellFormed :=
  wellFormed_of_ofMembers? (mergedWith_eq_ok.1 h)

theorem isSorted_extra_of_mergedWith (hi : Table.IsSorted info)
    (h : s.mergedWith info = .ok merged) : merged.extra.IsSorted := by
  obtain ⟨-, -, -, hextra⟩ := ofMembers?_eq_some.1 (mergedWith_eq_ok.1 h)
  rw [← hextra]
  exact (hi.extend _).without _

/-! ## The members of a source -/

theorem mem_fields_of_mem_members {entry : String × Json} (he : entry ∈ s.members)
    (hn : entry.1 ∉ s.extra.keys) : entry ∈ s.fields :=
  (Table.mem_extend he).resolve_right fun hx => hn (List.mem_map_of_mem hx)

theorem ne_null_of_mem_fields (hs : s.WellFormed) {entry : String × Json}
    (he : entry ∈ s.fields) : entry.2 ≠ .null := by
  obtain rfl | ⟨url, -, rfl⟩ | ⟨data, hd, rfl⟩ := mem_fields.1 he
  · simp
  · simp
  · exact fun hnull => hs.data (hd.trans (congrArg some hnull))

theorem nodup_fields (s : Source) : (s.fields.map Prod.fst).Nodup := by
  unfold fields
  cases s.url <;> cases s.data <;> simp [Json.field]

/-- A field of a source is found from either end of its members. -/
theorem lookup_members (hk : key ∉ s.extra.keys) :
    s.members.reverse.lookup key = s.members.get? key := by
  refine Table.lookup_reverse_of_forall fun entry he other ho hek hok => ?_
  have hef : entry ∈ s.fields := mem_fields_of_mem_members he (hek ▸ hk)
  have hof : other ∈ s.fields := mem_fields_of_mem_members ho (hok ▸ hk)
  rw [List.inj_on_of_nodup_map s.nodup_fields hef hof (hek.trans hok.symm)]

theorem ne_null_of_get?_members (hs : s.WellFormed) (hk : key ∈ fieldNames) {v : Json}
    (h : s.members.get? key = some v) : v ≠ .null :=
  ne_null_of_mem_fields hs (mem_fields_of_mem_members (Table.mem_of_get? h) (hs.extra _ hk))

/-- What is no field of a source is one of its other members. -/
theorem get?_members_extra (s : Source) (hk : key ∉ fieldNames) :
    s.members.get? key = s.extra.get? key := by
  have hfields : s.fields.reverse.lookup key = none := by
    refine List.lookup_eq_none_iff.2 fun entry he => bne_iff_ne.2 fun heq => hk ?_
    rw [heq]
    exact name_mem_fieldNames s entry (List.mem_reverse.1 he)
  rw [members, Table.get?_extend, hfields, Option.none_or]

theorem isSorted_members (he : s.extra.IsSorted) : s.members.IsSorted :=
  he.extend _

/-! ## Merging once -/

/-- What metadata offers for a member; a link or data that is `null` is no offer. -/
def offered? (info : Table Json) (key : String) : Option Json :=
  if key = "url" ∨ key = "data" then Json.given? info key else info.get? key

theorem offered?_of_mem (hk : key ∈ fieldNames) (ht : key ≠ "type") :
    offered? info key = Json.given? info key :=
  if_pos (by simpa [fieldNames, ht] using hk)

theorem offered?_of_not_mem (hk : key ∉ fieldNames) : offered? info key = info.get? key :=
  if_neg fun hfields => hk (by rcases hfields with rfl | rfl <;> decide)

/-- A field of the source comes before that of the metadata. -/
theorem get?_extend_members (hk : key ∉ s.extra.keys) (info : Table Json) :
    (info.extend s.members).get? key = (s.members.get? key).or (info.get? key) := by
  rw [Table.get?_extend, lookup_members hk]

theorem given?_extend_members (hs : s.WellFormed) (hk : key ∈ fieldNames) :
    Json.given? (info.extend s.members) key = (s.members.get? key).or (Json.given? info key) := by
  have hget := get?_extend_members (hs.extra _ hk) info
  cases hown : s.members.get? key with
  | none =>
    rw [hown, Option.none_or] at hget
    rw [Json.given?, hget, Option.none_or, Json.given?]
  | some v =>
    rw [hown, Option.some_or] at hget
    rw [Json.given?_eq_self hget (ne_null_of_get?_members hs hk hown), Option.some_or]

theorem required?_type_extend_members (ht : "type" ∉ s.extra.keys) (info : Table Json) :
    Json.required? Json.asString? (info.extend s.members) "type" = some s.type := by
  refine Json.required?_of_get? .string ?_ rfl
  rw [get?_extend_members ht, get?_members_type ht, Option.some_or]

/-- A link that is neither text nor `null` would be taken over. -/
def Refuses (s : Source) (info : Table Json) : Prop :=
  s.url = none ∧ ∃ link, info.get? "url" = some link ∧ link ≠ .null ∧ ¬ link.IsString

theorem mayHave_url_iff (hs : s.WellFormed) :
    Json.MayHave (info.extend s.members) "url" Json.IsString ↔ ¬ s.Refuses info := by
  have hget := get?_extend_members (hs.extra "url" (by decide)) info
  rw [get?_members_url hs] at hget
  unfold Json.MayHave Refuses
  cases hurl : s.url with
  | none =>
    rw [hurl, Option.map_none, Option.none_or] at hget
    simp only [hget, true_and, not_exists, not_and, not_not]
    exact forall₂_congr fun link _ => or_iff_not_imp_left
  | some url =>
    rw [hurl, Option.map_some, Option.some_or] at hget
    simp [hget, Json.IsString]

theorem mergedWith_cases (hs : s.WellFormed) (info : Table Json) :
    (s.Refuses info ∧ s.mergedWith info = .error .malformedDocument) ∨
      (¬ s.Refuses info ∧ ∃ merged, s.mergedWith info = .ok merged) := by
  have hurl : (∃ url, Json.optional? Json.asString? (info.extend s.members) "url" = some url) ↔
      ¬ s.Refuses info := Json.exists_optional_string.trans (mayHave_url_iff hs)
  have htype := required?_type_extend_members (hs.extra _ (by decide)) info
  have hdata : Json.optional? some (info.extend s.members) "data" =
      some (Json.given? (info.extend s.members) "data") := Json.optional?_some_eq_some.2 rfl
  by_cases hr : s.Refuses info
  · refine .inl ⟨hr, ?_⟩
    have hnone : Json.optional? Json.asString? (info.extend s.members) "url" = none := by
      refine Option.eq_none_iff_forall_ne_some.2 fun url hsome => ?_
      exact hurl.1 ⟨url, hsome⟩ hr
    rw [mergedWith, ofMembers?, htype, hnone]
    rfl
  · refine .inr ⟨hr, ?_⟩
    obtain ⟨url, hurl⟩ := hurl.2 hr
    exact ⟨⟨s.type, url, _, _⟩,
      mergedWith_eq_ok.2 (ofMembers?_eq_some.2 ⟨htype, hurl, hdata, rfl⟩)⟩

theorem get?_merged (hs : s.WellFormed) (h : s.mergedWith info = .ok merged)
    (hk : key ≠ "type") : merged.members.get? key =
      (s.members.reverse.lookup key).or (offered? info key) := by
  have hm : merged.WellFormed := wellFormed_of_mergedWith h
  obtain ⟨-, hurl, hdata, hextra⟩ := ofMembers?_eq_some.1 (mergedWith_eq_ok.1 h)
  by_cases hfield : key ∈ fieldNames
  · rw [lookup_members (hs.extra _ hfield), offered?_of_mem hfield hk,
      ← given?_extend_members hs hfield]
    obtain rfl | rfl : key = "url" ∨ key = "data" := by simpa [fieldNames, hk] using hfield
    · rw [get?_members_url hm, (Json.optional?_eq_some fun _ _ => Json.asString?_eq_some).1 hurl]
    · rw [get?_members_data hm, Json.optional?_some_eq_some.1 hdata]
  · rw [get?_members_extra merged hfield, ← hextra, Table.get?_without, if_neg hfield,
      Table.get?_extend, offered?_of_not_mem hfield]

theorem type_of_mergedWith (ht : "type" ∉ s.extra.keys) (h : s.mergedWith info = .ok merged) :
    merged.type = s.type := by
  obtain ⟨htype, -⟩ := ofMembers?_eq_some.1 (mergedWith_eq_ok.1 h)
  -- The members of the source were added last, and its type is one of them.
  exact Option.some.inj (htype.symm.trans (required?_type_extend_members ht info))

theorem url_of_mergedWith {url : String} (hs : s.WellFormed) (hu : s.url = some url)
    (h : s.mergedWith info = .ok merged) : merged.url = some url := by
  have hget := get?_merged hs h (show "url" ≠ "type" by decide)
  rw [get?_members_url (wellFormed_of_mergedWith h), lookup_members (hs.extra _ (by decide)),
    get?_members_url hs, hu, Option.map_some, Option.some_or] at hget
  obtain ⟨found, hfound, heq⟩ := Option.map_eq_some_iff.1 hget
  rw [hfound, Json.string.inj heq]

/-! ## Merging again -/

/-- Metadata that offer nothing new change nothing. -/
theorem mergedWith_filled (hs : s.WellFormed) (he : s.extra.IsSorted) (hi : Table.IsSorted info)
    (h : ∀ key ≠ "type", s.members.get? key = none → offered? info key = none) :
    s.mergedWith info = .ok s := by
  have hgiven : ∀ key ∈ fieldNames, key ≠ "type" →
      Json.given? (info.extend s.members) key = s.members.get? key := by
    intro key hk ht
    rw [given?_extend_members hs hk]
    cases hown : s.members.get? key with
    | some v => rw [Option.some_or]
    | none => rw [Option.none_or, ← offered?_of_mem hk ht, h key ht hown]
  have htype := required?_type_extend_members (hs.extra _ (by decide)) info
  have hurl : Json.optional? Json.asString? (info.extend s.members) "url" = some s.url := by
    rw [Json.optional?_eq_some fun _ _ => Json.asString?_eq_some, hgiven _ (by decide) (by decide),
      get?_members_url hs]
  have hdata : Json.optional? some (info.extend s.members) "data" = some s.data := by
    rw [Json.optional?_some_eq_some, hgiven _ (by decide) (by decide), get?_members_data hs]
  have hextra : (info.extend s.members).without fieldNames = s.extra := by
    refine ((hi.extend _).without _).eq_of_get? he fun key => ?_
    rw [Table.get?_without]
    by_cases hk : key ∈ fieldNames
    · rw [if_pos hk, Table.get?_eq_none_iff.2 (hs.extra _ hk)]
    · rw [if_neg hk, Table.get?_extend, (isSorted_members he).lookup_reverse,
        ← get?_members_extra s hk]
      cases hown : s.members.get? key with
      | some v => rw [Option.some_or]
      | none =>
        have ht : key ≠ "type" := fun ht => hk (by rw [ht]; decide)
        rw [Option.none_or, ← offered?_of_not_mem hk, h key ht hown]
  exact mergedWith_eq_ok.2 (ofMembers?_eq_some.2 ⟨htype, hurl, hdata, hextra⟩)

/-- Merging the same metadata a second time changes nothing. -/
theorem mergedWith_again (hi : Table.IsSorted info) (hs : s.WellFormed)
    (hm : s.mergedWith info = .ok merged) : merged.mergedWith info = .ok merged := by
  refine mergedWith_filled (wellFormed_of_mergedWith hm) (isSorted_extra_of_mergedWith hi hm) hi
    fun key hk hopen => ?_
  rw [get?_merged hs hm hk] at hopen
  exact (Option.or_eq_none_iff.1 hopen).2

end StyledMap.Source
