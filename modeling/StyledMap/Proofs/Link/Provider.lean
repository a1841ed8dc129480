import StyledMap.Link.Provider
import StyledMap.Proofs.Words

/-! # Provider links that are expanded

* `Text.afterString?_eq_some`: what follows a text at the front of a string.
* `Provider.trimRoot_ne_append_slash`: a root that was trimmed has no slash at its end.
* `Provider.trimRoot_append_slashes`: slashes at the end of a root do not count.
* `Provider.eq_trimRoot`: a root without slashes at its end is what was trimmed.
* `Provider.IsApart`: a root that cannot be taken for the beginning of a provider link.
* `Provider.expand`: the one way in which links to styles, glyphs and tiles are expanded.
* `Provider.IsApart.expand_expand`: under a root that is apart an expanded link is not expanded
  again.
-/

set_option autoImplicit false

namespace StyledMap

/-- A string goes on after `start` exactly when it is `start` and the rest. -/
theorem Text.afterString?_eq_some {start text rest : String} :
    afterString? start text = some rest ↔ text = start ++ rest := by
  unfold afterString?
  rw [Option.map_eq_some_iff]
  constructor
  · rintro ⟨cs, hcs, rfl⟩
    rw [after?_eq_some] at hcs
    rw [← String.toList_inj, String.toList_append, hcs, String.toList_ofList]
  · rintro rfl
    exact ⟨rest.toList, by rw [after?_eq_some, String.toList_append], String.ofList_toList⟩

theorem Text.afterString?_eq_none {start text : String} :
    afterString? start text = none ↔ ∀ rest, text ≠ start ++ rest := by
  rw [Option.eq_none_iff_forall_ne_some]
  exact forall_congr' fun rest => not_congr afterString?_eq_some

theorem Text.isSome_afterString?_iff {start text : String} :
    (afterString? start text).isSome ↔ ∃ rest, text = start ++ rest := by
  rw [Option.isSome_iff_exists]
  exact exists_congr fun rest => afterString?_eq_some

namespace Provider

variable {p : Provider}

/-! ## Roots -/

theorem trimRoot_ne_append_slash (root rest : String) : trimRoot root ≠ rest ++ "/" := by
  intro h
  have hlist : Text.dropEnd (· = '/') root.toList = rest.toList ++ ['/'] := by
    rw [← String.toList_inj, trimRoot, String.toList_ofList, String.toList_append] at h
    exact h
  have hdrop : root.toList.reverse.dropWhile (· = '/') = '/' :: rest.toList.reverse := by
    rw [← List.reverse_inj, ← Text.dropEnd, hlist]
    simp
  have hne : root.toList.reverse.dropWhile (· = '/') ≠ [] := by
    rw [hdrop]
    exact List.cons_ne_nil _ _
  have hhead := List.head_dropWhile_not (· = '/') hne
  simp [hdrop] at hhead

/-- A number of slashes. -/
def slashes (n : Nat) : String :=
  String.ofList (List.replicate n '/')

theorem trimRoot_append_slashes (root : String) (n : Nat) :
    trimRoot (root ++ slashes n) = trimRoot root := by
  have hslashes : Text.IsGap (· = '/') (List.replicate n '/') := by
    intro c hc
    simp [List.eq_of_mem_replicate hc]
  rw [trimRoot, slashes, String.toList_append, String.toList_ofList, Text.dropEnd_append hslashes,
    trimRoot]

theorem exists_append_slashes (root : String) : ∃ n, root = trimRoot root ++ slashes n := by
  obtain ⟨n, hn⟩ := Text.dropEnd_append_replicate '/' root.toList
  refine ⟨n, ?_⟩
  rw [← String.toList_inj, String.toList_append, trimRoot, slashes, String.toList_ofList,
    String.toList_ofList]
  exact hn

theorem slashes_succ (n : Nat) : slashes (n + 1) = slashes n ++ "/" := by
  rw [slashes, List.replicate_succ', String.ofList_append]
  rfl

/-- There is one way to tell a root from the slashes at its end. -/
theorem eq_trimRoot {root base : String} {n : Nat} (hroot : root = base ++ slashes n)
    (hbase : ∀ rest, base ≠ rest ++ "/") : base = trimRoot root := by
  rw [hroot, trimRoot_append_slashes]
  obtain ⟨k, hk⟩ := exists_append_slashes base
  cases k with
  | zero => exact hk.trans String.append_empty
  | succ k =>
    rw [slashes_succ, ← String.append_assoc] at hk
    exact absurd hk (hbase _)

/-- A root that cannot be taken for the beginning of a provider link, also not together with what
follows it. -/
structure IsApart (p : Provider) : Prop where
  scheme : ∀ rest, p.root ≠ "mapbox://" ++ rest
  slash : ∀ rest, p.root ≠ rest ++ "/"

theorem isApart_of {root : String} (token : String) (ratio : Float)
    (h : ∀ rest, trimRoot root ≠ "mapbox://" ++ rest) : (of token root ratio).IsApart :=
  ⟨h, trimRoot_ne_append_slash root⟩

/-- What is trimmed does not make a root a provider link. -/
theorem isApart_of_root {root : String} (token : String) (ratio : Float)
    (h : ∀ rest, root ≠ "mapbox://" ++ rest) : (of token root ratio).IsApart := by
  obtain ⟨n, hn⟩ := exists_append_slashes root
  apply isApart_of
  intro rest hrest
  rw [hrest, String.append_assoc] at hn
  exact h _ hn

/-- The first slash of the scheme is followed by the other one. -/
theorem eq_slash_of_scheme {before after : List Char} {c : Char}
    (h : "mapbox://".toList = before ++ '/' :: c :: after) : c = '/' := by
  have hall : ∀ k < 9, "mapbox://".toList[k]? = some '/' → "mapbox://".toList[k + 1]? ≠ none →
      "mapbox://".toList[k + 1]? = some '/' := by
    decide
  have hlength : before.length < 9 := by
    have hsum := congrArg List.length h
    simp only [List.length_append, List.length_cons] at hsum
    have hnine : "mapbox://".toList.length = 9 := rfl
    omega
  have hslash : "mapbox://".toList[before.length]? = some '/' := by
    rw [h]
    simp
  have hnext : "mapbox://".toList[before.length + 1]? = some c := by
    rw [h]
    simp
  have hsome := hall before.length hlength hslash (by rw [hnext]; simp)
  exact Option.some.inj (hnext.symm.trans hsome)

/-- A path that begins with a single slash does not complete a root to a provider link. -/
theorem IsApart.toList_append_ne (h : p.IsApart) {c : Char} (hc : c ≠ '/')
    (path rest : List Char) :
    p.root.toList ++ '/' :: c :: path ≠ "mapbox://".toList ++ rest := by
  intro heq
  rcases List.append_eq_append_iff.1 heq with ⟨a, hscheme, hpath⟩ | ⟨b, hroot, -⟩
  · cases a with
    | nil =>
      refine h.scheme "" ?_
      rw [← String.toList_inj, String.toList_append, hscheme, List.append_nil]
      exact (List.append_nil _).symm
    | cons x a =>
      have hx : '/' = x := (List.cons.inj hpath).1
      cases a with
      | nil =>
        refine h.slash "mapbox:" ?_
        subst hx
        have hlast : "mapbox:/".toList ++ ['/'] = p.root.toList ++ ['/'] := hscheme
        rw [← String.toList_inj, ← List.append_cancel_right hlast]
        rfl
      | cons y a =>
        have hy : c = y := (List.cons.inj (List.cons.inj hpath).2).1
        exact hc (hy ▸ eq_slash_of_scheme (hx ▸ hscheme))
  · refine h.scheme (String.ofList b) ?_
    have hb : (String.ofList b).toList = b := String.toList_ofList
    rw [← String.toList_inj, String.toList_append, hroot, hb]

/-! ## Expanding links -/

/-- Expands the links that begin with `start`. They lead to a folder under the root, with the token
at the end, and any other link is left as it is. -/
def expand (p : Provider) (start folder mark url : String) : String :=
  match Text.afterString? start url with
  | some path => p.root ++ folder ++ path ++ mark ++ p.tokenQuery
  | none => url

theorem styleUrl_eq (url : String) :
    p.styleUrl url = p.expand "mapbox://styles/" "/styles/v1/" "?" url :=
  rfl

theorem glyphUrl_eq (url : String) :
    p.glyphUrl url = p.expand "mapbox://fonts/" "/fonts/v1/" "?" url :=
  rfl

theorem tileUrl_eq (url : String) :
    p.tileUrl url = p.expand "mapbox://" "/v4/" ".json?secure&" url :=
  rfl

theorem expand_eq_self {start url : String} (h : ∀ rest, url ≠ start ++ rest)
    (folder mark : String) : p.expand start folder mark url = url := by
  rw [expand, Text.afterString?_eq_none.2 h]

/-- An expanded link is not expanded again. -/
theorem IsApart.expand_expand (h : p.IsApart) {start folder : String}
    (hs : "mapbox://".toList <+: start.toList) {c : Char} {rest : List Char} (hc : c ≠ '/')
    (hf : folder.toList = '/' :: c :: rest) (mark url : String) :
    p.expand start folder mark (p.expand start folder mark url) =
      p.expand start folder mark url := by
  cases hpath : Text.afterString? start url with
  | none =>
    have hsame : p.expand start folder mark url = url := by rw [expand, hpath]
    rw [hsame, hsame]
  | some path =>
    have hurl : p.expand start folder mark url =
        p.root ++ folder ++ path ++ mark ++ p.tokenQuery := by
      rw [expand, hpath]
    obtain ⟨kind, hkind⟩ := hs
    apply expand_eq_self
    intro tail heq
    rw [hurl, ← String.toList_inj] at heq
    simp only [String.toList_append, List.append_assoc, hf, List.cons_append, ← hkind] at heq
    exact h.toList_append_ne hc _ (kind ++ tail.toList) heq

theorem IsApart.styleUrl_styleUrl (h : p.IsApart) (url : String) :
    p.styleUrl (p.styleUrl url) = p.styleUrl url := by
  simp only [styleUrl_eq]
  exact h.expand_expand (by decide) (by decide) rfl "?" url

theorem IsApart.glyphUrl_glyphUrl (h : p.IsApart) (url : String) :
    p.glyphUrl (p.glyphUrl url) = p.glyphUrl url := by
  simp only [glyphUrl_eq]
  exact h.expand_expand (by decide) (by decide) rfl "?" url

theorem IsApart.tileUrl_tileUrl (h : p.IsApart) (url : String) :
    p.tileUrl (p.tileUrl url) = p.tileUrl url := by
  simp only [tileUrl_eq]
  exact h.expand_expand (by decide) (by decide) rfl ".json?secure&" url

theorem styleUrl_eq_self {url : String} (h : ∀ rest, url ≠ "mapbox://styles/" ++ rest) :
    p.styleUrl url = url := by
  rw [styleUrl_eq, expand_eq_self h]

/-- Glyphs that are not the provider's have the address that is declared. -/
theorem glyphUrl_eq_self {url : String} (h : ∀ rest, url ≠ "mapbox://fonts/" ++ rest) :
    p.glyphUrl url = url := by
  rw [glyphUrl_eq, expand_eq_self h]

theorem tileUrl_eq_self {url : String} (h : ∀ rest, url ≠ "mapbox://" ++ rest) :
    p.tileUrl url = url := by
  rw [tileUrl_eq, expand_eq_self h]

end Provider

end StyledMap
