import StyledMap.Proofs.Link.Requests

/-! # Where the access token goes

The token is for the provider. A link to anyone else is asked for in the same way with any token.

* `load_token_confined`: two loaders that differ in their token ask for the same links, and for the
  links of others in the same way.
-/

set_option autoImplicit false

namespace StyledMap

namespace Loader

theorem glyphs_arrived_congr {document : Document} (p p' : Provider) (r r' : Resources)
    (h : ∀ rest, document.glyphs ≠ some ("mapbox://fonts/" ++ rest)) :
    (arrived p r document).document.glyphs = (arrived p' r' document).document.glyphs := by
  change document.glyphs.map p.glyphUrl = document.glyphs.map p'.glyphUrl
  refine Option.map_congr fun url hurl => ?_
  have hself : ∀ rest, url ≠ "mapbox://fonts/" ++ rest := fun rest heq => h rest (heq ▸ hurl)
  rw [Provider.glyphUrl_eq_self hself, Provider.glyphUrl_eq_self hself]

/-- Two loaders that differ in their token refuse the same documents for the same reasons, and ask
for the same links of any other one. The links of the provider are asked for under its root, each
with the token of the run at the end of the same path. All others are asked for in the same way. -/
theorem load_token_confined (token token' root : String) (ratio : Float) (strict : Bool)
    (value : Json) (r r' : Resources) :
    (∃ fault,
      (load ⟨.of token root ratio, strict⟩ (.value value)).runWith r = (.error fault, []) ∧
      (load ⟨.of token' root ratio, strict⟩ (.value value)).runWith r' = (.error fault, [])) ∨
    ∃ document loaded loaded',
      Document.ofJson value = .ok document ∧
      (load ⟨.of token root ratio, strict⟩ (.value value)).runWith r =
        (.ok loaded, document.links.map (Link.request (.of token root ratio))) ∧
      (load ⟨.of token' root ratio, strict⟩ (.value value)).runWith r' =
        (.ok loaded', document.links.map (Link.request (.of token' root ratio))) ∧
      (∀ link ∈ document.links,
        (¬ link.IsProvided →
          link.request (.of token root ratio) = link.request (.of token' root ratio)) ∧
        (link.IsProvided → ∃ path,
          link.path? (Provider.of token root ratio).ratioMark = some path ∧
          link.request (.of token root ratio) =
            link.requestAt (Provider.trimRoot root ++ path ++ "access_token=" ++ token) ∧
          link.request (.of token' root ratio) =
            link.requestAt (Provider.trimRoot root ++ path ++ "access_token=" ++ token'))) ∧
      (loaded.document.glyphs ≠ loaded'.document.glyphs →
        ∃ rest, document.glyphs = some ("mapbox://fonts/" ++ rest)) := by
  cases hp : prepare strict value with
  | error fault =>
    exact .inl ⟨.style fault, runWith_of_rejected hp, runWith_of_rejected hp⟩
  | ok prepared =>
    obtain ⟨prepared, dangling⟩ := prepared
    obtain ⟨document, hdoc, hd, -, -⟩ := exists_of_prepare hp
    refine .inr ⟨document, arrived (.of token root ratio) r document,
      arrived (.of token' root ratio) r' document, hdoc, runWith_of_accepted hdoc hd,
      runWith_of_accepted hdoc hd, ?_, ?_⟩
    · intro link _
      refine ⟨fun h => Link.request_congr h rfl, fun h => ?_⟩
      obtain ⟨path, hpath⟩ := Option.isSome_iff_exists.1 ((Link.isSome_path?_iff _ link).2 h)
      exact ⟨path, hpath, Link.request_of_path? hpath, Link.request_of_path? hpath⟩
    · intro hne
      by_contra hrest
      exact hne (glyphs_arrived_congr _ _ r r' fun rest heq => hrest ⟨rest, heq⟩)

theorem load_token_confined_town : ∃ loaded loaded',
    (load ⟨.of "key" "http://api/" 1.0, false⟩ (.value townStyle)).runWith townAnswers =
      (.ok loaded, townRequests "key") ∧
    (load ⟨.of "other" "http://api/" 1.0, false⟩ (.value townStyle)).runWith townAnswers =
      (.ok loaded', townRequests "other") := by
  obtain ⟨fault, hload, -⟩ | ⟨document, loaded, loaded', hdoc, hload, hload', -, -⟩ :=
    load_token_confined "key" "other" "http://api/" 1.0 false townStyle townAnswers townAnswers
  · cases hload
  · obtain rfl : townDocument = document := Except.ok.inj hdoc
    exact ⟨loaded, loaded', hload, hload'⟩

end Loader

end StyledMap
