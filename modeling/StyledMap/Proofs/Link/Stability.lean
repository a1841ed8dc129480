import StyledMap.Proofs.Link.Provider

/-! # Links that are expanded again

A document that was loaded has its links expanded, and may be loaded again. A link that was expanded
is no link of the provider, so it stays as it is.

* `spriteAddress_parts`: the two addresses of a sprite differ in one place.
* `expanded_once`: expanding twice is expanding once, a link of another kind stays, slashes at the
  end of the root do not count, and the two addresses of a sprite go together.

The root need not be the beginning of an address. It only must not be taken for the beginning of a
link of the provider, together with the slash that follows it. A root such as `mapbox:/` is no
exception, since its slash is trimmed.
-/

set_option autoImplicit false

namespace StyledMap.Provider

/-- What stands in front of the endings of the two addresses of a sprite, and what follows. -/
theorem spriteAddress_parts (p : Provider) (url : String) :
    ∃ front back, p.spriteAddress url = ⟨front ++ ".png" ++ back, front ++ ".json" ++ back⟩ := by
  cases hpath : Text.afterString? "mapbox://sprites/" url with
  | none =>
    refine ⟨url ++ p.ratioMark, "", ?_⟩
    simp only [spriteAddress, hpath, String.append_empty]
  | some path =>
    refine ⟨p.root ++ "/styles/v1/" ++ path ++ "/sprite" ++ p.ratioMark, "?" ++ p.tokenQuery, ?_⟩
    have hpng : ".png?" = ".png" ++ "?" := rfl
    have hjson : ".json?" = ".json" ++ "?" := rfl
    simp only [spriteAddress, hpath, hpng, hjson, String.append_assoc]

/-- Under a root that is no link of the provider itself, links to styles, glyphs and tiles are
expanded once and for all. Under any root a link that begins otherwise stays as it is, slashes at
the end of the root change no address, and the addresses of a sprite are the same but for the
endings of their names. -/
theorem expanded_once (token root : String) (ratio : Float) :
    ((∀ rest, root ≠ "mapbox://" ++ rest) → ∀ url : String,
      let p := of token root ratio
      p.styleUrl (p.styleUrl url) = p.styleUrl url ∧
      p.glyphUrl (p.glyphUrl url) = p.glyphUrl url ∧
      p.tileUrl (p.tileUrl url) = p.tileUrl url) ∧
    (∀ url : String,
      ((∀ rest, url ≠ "mapbox://styles/" ++ rest) → (of token root ratio).styleUrl url = url) ∧
      ((∀ rest, url ≠ "mapbox://fonts/" ++ rest) → (of token root ratio).glyphUrl url = url) ∧
      ((∀ rest, url ≠ "mapbox://" ++ rest) → (of token root ratio).tileUrl url = url)) ∧
    (∀ (n : Nat) (url : String),
      let p := of token root ratio
      let q := of token (root ++ slashes n) ratio
      q.styleUrl url = p.styleUrl url ∧ q.glyphUrl url = p.glyphUrl url ∧
      q.tileUrl url = p.tileUrl url ∧ q.spriteAddress url = p.spriteAddress url) ∧
    ∀ url : String, ∃ front back,
      ((of token root ratio).spriteAddress url).image = front ++ ".png" ++ back ∧
      ((of token root ratio).spriteAddress url).metadata = front ++ ".json" ++ back := by
  refine ⟨fun h url => ?_, fun url => ?_, fun n url => ?_, fun url => ?_⟩
  · have hp := isApart_of_root token ratio h
    exact ⟨hp.styleUrl_styleUrl url, hp.glyphUrl_glyphUrl url, hp.tileUrl_tileUrl url⟩
  · exact ⟨styleUrl_eq_self, glyphUrl_eq_self, tileUrl_eq_self⟩
  · have hsame : of token (root ++ slashes n) ratio = of token root ratio := by
      rw [of, of, trimRoot_append_slashes]
    intro p q
    rw [show q = p from hsame]
    exact ⟨rfl, rfl, rfl, rfl⟩
  · obtain ⟨front, back, hparts⟩ := (of token root ratio).spriteAddress_parts url
    rw [hparts]
    exact ⟨front, back, rfl, rfl⟩

/-- A root that ends where the scheme of the provider goes on, and links that hold the scheme
again. -/
theorem expanded_once_cutScheme :
    let p := of "pk" "mapbox:/" 2.0
    let q := of "pk" "mapbox:///" 2.0
    p.styleUrl "mapbox://styles/mapbox://styles/" =
      "mapbox:/styles/v1/mapbox://styles/?access_token=pk" ∧
    p.styleUrl "mapbox:/styles/v1/mapbox://styles/?access_token=pk" =
      "mapbox:/styles/v1/mapbox://styles/?access_token=pk" ∧
    p.glyphUrl "mapbox://styles/a" = "mapbox://styles/a" ∧
    q.tileUrl "mapbox://" = p.tileUrl "mapbox://" ∧
    ∃ front back, (p.spriteAddress "mapbox://sprites/a.png").image = front ++ ".png" ++ back ∧
      (p.spriteAddress "mapbox://sprites/a.png").metadata = front ++ ".json" ++ back := by
  intro p q
  obtain ⟨htwice, hother, hslashes, hsprite⟩ := expanded_once "pk" "mapbox:/" 2.0
  have hroot : ∀ rest, "mapbox:/" ≠ "mapbox://" ++ rest :=
    Text.afterString?_eq_none.1 (by decide)
  have hfonts : ∀ rest, "mapbox://styles/a" ≠ "mapbox://fonts/" ++ rest :=
    Text.afterString?_eq_none.1 (by decide)
  have honce : p.styleUrl "mapbox://styles/mapbox://styles/" =
      "mapbox:/styles/v1/mapbox://styles/?access_token=pk" := by decide
  have hagain := (htwice hroot "mapbox://styles/mapbox://styles/").1
  refine ⟨honce, ?_, ?_, ?_, ?_⟩
  · exact honce ▸ hagain
  · exact (hother "mapbox://styles/a").2.1 hfonts
  · exact (hslashes 2 "mapbox://").2.2.1
  · exact hsprite "mapbox://sprites/a.png"

end StyledMap.Provider
