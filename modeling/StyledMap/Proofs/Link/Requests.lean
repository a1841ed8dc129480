import Mathlib.Data.List.Perm.Subperm
import StyledMap.Proofs.Link.Load

/-! # What loading asks for

What a style asks for can be read off its document, before anything is answered.

* `pending_launch` and `requests_launch`: a flight waits for all of its links from the start, and for
  nothing else later.
* `answers_launch`: each link is answered, in some order.
* `load_requests_fixed`: loading a document asks for its links, whatever the answers are, and for
  nothing when the document is refused.
-/

set_option autoImplicit false

namespace StyledMap

namespace Loader

open Layer Session

variable {p : Provider} {r : Resources}

/-! ## Launching -/

theorem pending_launch (p : Provider) (document : Document) :
    (Flight.launch p document).pending = document.links.map (Link.request p) := by
  have hsources : (Flight.launch p document).sources.filterMap Task.pending? =
      (document.sources.filterMap fun entry => entry.2.link?).map (Link.request p) := by
    unfold Flight.launch
    rw [List.filterMap_map, List.map_filterMap]
    refine List.filterMap_congr fun entry _ => ?_
    rw [Function.comp_apply, Task.pending?_map, pending?_sourceTask]
  rw [Flight.pending, hsources, Document.links, List.map_append]
  unfold Flight.launch Document.spriteLinks
  cases document.sprite with
  | none => rfl
  | some url =>
    simp only [List.map_cons, List.map_nil, Link.request, Link.address_spriteImage,
      Link.address_spriteMetadata]
    rfl

/-- Nothing more is asked for once a link is answered. -/
theorem requests_launch (p : Provider) (r : Resources) (document : Document) :
    (Flight.launch p document).requests r = (Flight.launch p document).pending := by
  unfold Flight.requests Flight.pending Flight.launch
  congr 1
  · rw [List.flatMap_map, List.filterMap_map, List.filterMap_eq_flatMap_toList]
    refine List.flatMap_congr fun entry _ => ?_
    rw [Task.requests_map, Function.comp_apply, Task.pending?_map, requests_sourceTask,
      pending?_sourceTask]
  · cases document.sprite with
    | none => rfl
    | some url => rfl

theorem perm_of_answers_launch {document : Document} {qs : List Request} {flight : Flight}
    (h : Flight.Answers r qs (Flight.launch p document) flight) :
    (document.links.map (Link.request p)).Perm (qs ++ flight.requests r) := by
  rw [← pending_launch, ← requests_launch p r document]
  exact Flight.perm_of_answers h

/-- In whatever order the links of a document are answered, each of them is, and nothing else. -/
theorem answers_launch {document : Document} {qs : List Request} {flight : Flight}
    (h : Flight.Answers r qs (Flight.launch p document) flight) :
    qs.Subperm (document.links.map (Link.request p)) ∧
    (∀ o, flight.outcome? = some o → qs.Perm (document.links.map (Link.request p))) ∧
    ∃ more final o, Flight.Answers r more flight final ∧ final.outcome? = some o := by
  have hperm := perm_of_answers_launch h
  refine ⟨?_, fun o ho => ?_, ?_⟩
  · exact (List.sublist_append_left _ _).subperm.trans hperm.symm.subperm
  · rw [Flight.requests_of_outcome? ho, List.append_nil] at hperm
    exact hperm.symm
  · obtain ⟨final, o, hrun, ho⟩ := Flight.exists_arrived r flight
    obtain ⟨more, hmore⟩ := Flight.answers_of_run hrun
    exact ⟨more, final, o, hmore, ho⟩

/-! ## Loading -/

section

variable {loader : Loader} {value : Json}

theorem runWith_of_rejected {fault : Fault} (hp : prepare loader.strict value = .error fault) :
    (load loader (.value value)).runWith r = (.error (.style fault), []) := by
  rw [(load_yields_of_rejected (.value value) hp).runWith]
  rfl

theorem runWith_of_accepted {document : Document} (hdoc : Document.ofJson value = .ok document)
    (hd : loader.strict = true → ∀ l ∈ document.layers, dangles document.layers l = false) :
    (load loader (.value value)).runWith r = (.ok (arrived loader.provider r document),
      document.links.map (Link.request loader.provider)) := by
  have hload := load_yields_of_prepared (r := r) (.value value) (prepare_eq_ok hdoc hd)
  have hreq : (Flight.launch loader.provider (resolved document)).requests r =
      document.links.map (Link.request loader.provider) := by
    rw [requests_launch, pending_launch]
    rfl
  rw [hload.runWith, hreq, List.append_nil]
  rfl

end

/-- What is asked for in order to load a document does not depend on any answer. A document that is
refused asks for nothing. Any other waits for all of its links at once, and in whatever order they
are answered, each of them is, and nothing else. The root of the provider has no slashes at its
end. -/
theorem load_requests_fixed (token root : String) (ratio : Float) (strict : Bool) (value : Json) :
    ∃ base n, root = base ++ Provider.slashes n ∧ (∀ rest, base ≠ rest ++ "/") ∧
    ∃ asked : List Request,
      (∀ r, ((load ⟨.of token root ratio, strict⟩ (.value value)).runWith r).2 = asked) ∧
      (∀ fault, Document.ofJson value = .error fault → asked = []) ∧
      ∀ document, Document.ofJson value = .ok document →
        (strict = true → (∃ l ∈ document.layers, dangles document.layers l = true) →
          asked = []) ∧
        ((strict = true → ∀ l ∈ document.layers, dangles document.layers l = false) →
          asked = document.links.map (Link.request ⟨token, base, ratio⟩) ∧
          (Flight.launch (.of token root ratio) document).pending = asked ∧
          ∀ r qs flight,
            Flight.Answers r qs (Flight.launch (.of token root ratio) document) flight →
            qs.Subperm asked ∧ (∀ o, flight.outcome? = some o → qs.Perm asked) ∧
            ∃ more final o, Flight.Answers r more flight final ∧ final.outcome? = some o) := by
  obtain ⟨n, hroot⟩ := Provider.exists_append_slashes root
  refine ⟨Provider.trimRoot root, n, hroot, Provider.trimRoot_ne_append_slash root, ?_⟩
  cases hp : prepare strict value with
  | error fault =>
    refine ⟨[], fun r => by rw [runWith_of_rejected hp], fun _ _ => rfl, fun document hdoc => ?_⟩
    refine ⟨fun _ _ => rfl, fun hd => ?_⟩
    rw [prepare_eq_ok hdoc hd] at hp
    cases hp
  | ok prepared =>
    obtain ⟨prepared, dangling⟩ := prepared
    obtain ⟨document, hdoc, hd, -, -⟩ := exists_of_prepare hp
    refine ⟨document.links.map (Link.request (.of token root ratio)),
      fun r => by rw [runWith_of_accepted hdoc hd], fun fault hfault => ?_, fun d hdoc' => ?_⟩
    · cases hdoc.symm.trans hfault
    · obtain rfl := Except.ok.inj (hdoc.symm.trans hdoc')
      refine ⟨fun hs ⟨l, hl, hdangles⟩ => ?_, fun _ => ?_⟩
      · cases (hd hs l hl).symm.trans hdangles
      · exact ⟨rfl, pending_launch _ document, fun r qs flight => answers_launch⟩

/-- What is asked for the town. Only its tiles are the provider's. -/
def townRequests (token : String) : List Request :=
  [.json "http://town/stops", .json ("http://api/v4/town.tiles.json?secure&access_token=" ++ token),
    .image "http://town/sprite.png", .json "http://town/sprite.json"]

theorem load_requests_fixed_town :
    (∀ r, ((load ⟨.of "key" "http://api//" 1.0, false⟩ (.value townStyle)).runWith r).2 =
      townRequests "key") ∧
    (∀ r qs flight o,
      Flight.Answers r qs (Flight.launch (.of "key" "http://api//" 1.0) townDocument) flight →
      flight.outcome? = some o → qs.Perm (townRequests "key")) ∧
    ∀ r, ((load ⟨.of "key" "http://api//" 1.0, true⟩ (.value townStyle)).runWith r).2 = [] := by
  have hdoc : Document.ofJson townStyle = .ok townDocument := rfl
  have hparks : dangles townDocument.layers townParks = true := rfl
  obtain ⟨base, n, hroot, hbase, asked, hall, -, haccepted⟩ :=
    load_requests_fixed "key" "http://api//" 1.0 false townStyle
  obtain rfl : base = "http://api" := Provider.eq_trimRoot hroot hbase
  obtain ⟨hlinks, -, hanswers⟩ := (haccepted townDocument hdoc).2 (by simp)
  obtain rfl : asked = townRequests "key" := hlinks
  obtain ⟨_, _, -, -, strictlyAsked, hstrictly, -, hrefused⟩ :=
    load_requests_fixed "key" "http://api//" 1.0 true townStyle
  obtain rfl := (hrefused townDocument hdoc).1 rfl ⟨townParks, by simp [townDocument], hparks⟩
  exact ⟨hall, fun r qs flight o h ho => (hanswers r qs flight h).2.1 o ho, hstrictly⟩

end Loader

end StyledMap
