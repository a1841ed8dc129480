import StyledMap.Link.Loader
import StyledMap.Proofs.Link.Provider

/-! # Links and where they lead

A document has links, and may be behind one itself. Where a link leads is said here in full, apart
from the way in which links are expanded.

* `Link`: the kinds of links, each with what is written of it.
* `Link.IsProvided`: the links of the provider.
* `Link.path?` and `Link.elsewhere`: the path and query under the root of the provider, and the
  address of a link to anyone else.
* `Link.address` and `Link.request`: the address of a link, and the request for it.
* `Link.address_style` and its siblings: the addresses that links are expanded to.
* `Source.link?` and `Document.links`: the links of a document, one for each request.
-/

set_option autoImplicit false

namespace StyledMap

/-- What is linked to: a style, the metadata of a source, GeoJSON, and the two parts of a sprite. -/
inductive Link
  | style (url : String)
  | metadata (url : String)
  | data (url : String)
  | spriteImage (url : String)
  | spriteMetadata (url : String)
  deriving DecidableEq

namespace Link

variable {p p' : Provider} {link : Link}

/-- The links of the provider. GeoJSON is never taken for one. -/
def IsProvided : Link → Prop
  | style url => ∃ rest, url = "mapbox://styles/" ++ rest
  | metadata url => ∃ rest, url = "mapbox://" ++ rest
  | data _ => False
  | spriteImage url => ∃ rest, url = "mapbox://sprites/" ++ rest
  | spriteMetadata url => ∃ rest, url = "mapbox://sprites/" ++ rest

/-- The path and the query for a link of the provider, up to the token. The mark is that of the
pixel ratio. -/
def path? (mark : String) : Link → Option String
  | style url => (Text.afterString? "mapbox://styles/" url).map fun path =>
    "/styles/v1/" ++ path ++ "?"
  | metadata url => (Text.afterString? "mapbox://" url).map fun tiles =>
    "/v4/" ++ tiles ++ ".json?secure&"
  | data _ => none
  | spriteImage url => (Text.afterString? "mapbox://sprites/" url).map fun path =>
    "/styles/v1/" ++ path ++ "/sprite" ++ mark ++ ".png?"
  | spriteMetadata url => (Text.afterString? "mapbox://sprites/" url).map fun path =>
    "/styles/v1/" ++ path ++ "/sprite" ++ mark ++ ".json?"

/-- The address of a link that is not the provider's. -/
def elsewhere (mark : String) : Link → String
  | style url | metadata url | data url => url
  | spriteImage url => url ++ mark ++ ".png"
  | spriteMetadata url => url ++ mark ++ ".json"

/-- The address of a link. One of the provider leads to a path under its root, with the token at the
end. -/
def address (p : Provider) (link : Link) : String :=
  let mark := if 1.0 < p.ratio then "@2x" else ""
  match link.path? mark with
  | some path => p.root ++ path ++ "access_token=" ++ p.token
  | none => link.elsewhere mark

/-- The request for what a link leads to, at some address. -/
def requestAt (address : String) : Link → Request
  | spriteImage _ => .image address
  | style _ | metadata _ | data _ | spriteMetadata _ => .json address

/-- The request for a link. -/
def request (p : Provider) (link : Link) : Request :=
  link.requestAt (link.address p)

/-! ## Links of the provider -/

theorem isSome_path?_iff (mark : String) (link : Link) :
    (link.path? mark).isSome ↔ link.IsProvided := by
  cases link with
  | data url => simp [path?, IsProvided]
  | _ => rw [path?, Option.isSome_map, Text.isSome_afterString?_iff, IsProvided]

/-- A link of the provider is asked for under its root, with the token at the end. -/
theorem request_of_path? {path : String} (h : link.path? p.ratioMark = some path) :
    link.request p = link.requestAt (p.root ++ path ++ "access_token=" ++ p.token) := by
  rw [Provider.ratioMark] at h
  simp only [request, address, h]

/-- A link to anyone else is asked for in the same way whatever the root and the token are. -/
theorem request_congr (h : ¬ link.IsProvided) (hratio : p.ratio = p'.ratio) :
    link.request p = link.request p' := by
  have hnone (mark : String) : link.path? mark = none :=
    Option.not_isSome_iff_eq_none.1 fun hsome => h ((isSome_path?_iff mark link).1 hsome)
  simp only [request, address, hnone, hratio]

/-! ## Expanded links -/

theorem address_style (p : Provider) (url : String) : (style url).address p = p.styleUrl url := by
  rw [address, path?, Provider.styleUrl]
  cases Text.afterString? "mapbox://styles/" url with
  | none => rfl
  | some path => simp only [Option.map_some, Provider.tokenQuery, String.append_assoc]

theorem address_metadata (p : Provider) (url : String) :
    (metadata url).address p = p.tileUrl url := by
  rw [address, path?, Provider.tileUrl]
  cases Text.afterString? "mapbox://" url with
  | none => rfl
  | some tiles => simp only [Option.map_some, Provider.tokenQuery, String.append_assoc]

theorem address_data (p : Provider) (url : String) : (data url).address p = url :=
  rfl

theorem address_spriteImage (p : Provider) (url : String) :
    (spriteImage url).address p = (p.spriteAddress url).image := by
  rw [address, path?, Provider.spriteAddress, Provider.ratioMark]
  cases Text.afterString? "mapbox://sprites/" url with
  | none => rfl
  | some path => simp only [Option.map_some, Provider.tokenQuery, String.append_assoc]

theorem address_spriteMetadata (p : Provider) (url : String) :
    (spriteMetadata url).address p = (p.spriteAddress url).metadata := by
  rw [address, path?, Provider.spriteAddress, Provider.ratioMark]
  cases Text.afterString? "mapbox://sprites/" url with
  | none => rfl
  | some path => simp only [Option.map_some, Provider.tokenQuery, String.append_assoc]

end Link

/-! ## Links of documents -/

/-- GeoJSON links to its data when that is a text, and any other source to its metadata. -/
def Source.link? (s : Source) : Option Link :=
  if s.isGeoJson then (s.data.bind Json.asString?).map .data else s.url.map .metadata

def Document.spriteLinks (d : Document) : List Link :=
  match d.sprite with
  | none => []
  | some url => [.spriteImage url, .spriteMetadata url]

/-- The links of a document. A link of several sources is there once for each of them. -/
def Document.links (d : Document) : List Link :=
  d.sources.filterMap (fun entry => entry.2.link?) ++ d.spriteLinks

end StyledMap
