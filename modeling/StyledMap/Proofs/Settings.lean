import StyledMap.Proofs.Fields
import StyledMap.Settings.File

/-! # Two readings of settings

Settings are read at once, with a default for what is absent, or first as a file that tells what is
absent and then over the defaults. Both accept the same settings and give the same ones.

* `Settings.orDefault?_bind`: one field, read at once and in two steps.
* `Settings.ofJson?_eq_ofFile`: all fields.
* `Settings.resolve_eq`: what overrides change.
* `Settings.readings_agree`: the two readings, and overrides after them.

A duration is checked while it is read, or after all fields are read. So an invalid one may be found
before another fault or after it, but it is found.
-/

set_option autoImplicit false

namespace StyledMap

/-- No setting is overridden. -/
def Overrides.none : Overrides := ⟨.none, .none, .none⟩

namespace Settings

/-! ## Two steps -/

theorem toOption_eq_some_iff {ε β : Type} {x : Except ε β} {b : β} :
    x.toOption = some b ↔ x = .ok b := by
  cases x <;> simp [Except.toOption]

theorem toOption_durationOr (default : Duration) (name : String) (seconds : Option Float) :
    (durationOr default name seconds).toOption =
      seconds.elim (some default) Duration.ofSeconds? := by
  cases seconds with
  | none => rfl
  | some x =>
    rw [durationOr, Option.elim_some]
    cases Duration.ofSeconds? x <;> rfl

section

variable {members : Table Json} {key : String} (h : members.get? key ≠ some .null)

include h

/-- A field that is not `null` is checked while it is read over its default, or after it is read
where it may be absent. -/
theorem orDefault?_bind {β γ : Type} (read : Json → Option β) (check : β → Option γ)
    (default : γ) :
    orDefault? (fun v => (read v).bind check) default (members.get? key) =
      (Json.optional? read members key).bind fun value => value.elim (some default) check := by
  cases hget : members.get? key with
  | none =>
    rw [Json.optional?_of_given?_eq_none (Json.given?_eq_none (.inl hget))]
    rfl
  | some v =>
    have hv : v ≠ .null := fun hnull => h (hnull ▸ hget)
    rw [Json.optional?_of_given? (Json.given?_eq_self hget hv), Option.bind_map]
    rfl

/-- Where there is nothing to check, the default stands for what is absent. -/
theorem orDefault?_eq {β : Type} (read : Json → Option β) (default : β) :
    orDefault? read default (members.get? key) =
      (Json.optional? read members key).map fun value => value.getD default := by
  have hread := orDefault?_bind h read some default
  simp only [Option.bind_fun_some] at hread
  rw [hread, Option.map_eq_bind]
  congr 1
  funext value
  cases value <;> rfl

theorem orDefault?_readSeconds? (name : String) (default : Duration) :
    orDefault? readSeconds? default (members.get? key) =
      (Json.optional? Json.asFloat? members key).bind fun seconds =>
        (durationOr default name seconds).toOption := by
  simp only [toOption_durationOr]
  exact orDefault?_bind h Json.asFloat? Duration.ofSeconds? default

end

theorem toOption_ofFile (file : SettingsFile) :
    (ofFile file).toOption =
      (durationOr standard.requestTimeout "request_timeout" file.requestTimeout).toOption.bind
        fun request =>
          (durationOr standard.connectTimeout "connect_timeout" file.connectTimeout).toOption.bind
            fun connect => some
              { accessToken := file.accessToken.getD standard.accessToken
                apiRoot := file.apiRoot.getD standard.apiRoot
                pixelRatio := file.pixelRatio.getD standard.pixelRatio
                requestTimeout := request
                connectTimeout := connect } := by
  rw [ofFile]
  cases durationOr standard.requestTimeout "request_timeout" file.requestTimeout with
  | error => rfl
  | ok request =>
    cases durationOr standard.connectTimeout "connect_timeout" file.connectTimeout with
    | error => rfl
    | ok connect => rfl

theorem ofJson?_eq_ofFile {members : Table Json}
    (hnames : ∀ key ∈ members.keys, key ∈ SettingsFile.names)
    (hnull : ∀ key, members.get? key ≠ some .null) :
    ofJson? (.object members) =
      (SettingsFile.ofJson? (.object members)).bind fun file => (ofFile file).toOption := by
  have hempty : (members.without SettingsFile.names).isEmpty = true :=
    List.isEmpty_iff.2 (Table.without_eq_nil_iff.2 hnames)
  have hfile : SettingsFile.ofJson? (.object members) = SettingsFile.ofMembers? members := rfl
  have hfields : ofJson? (.object members) = ofFields? (members.get? "access_token")
      (members.get? "api_root") (members.get? "pixel_ratio") (members.get? "request_timeout")
      (members.get? "connect_timeout") := rfl
  rw [hfile, hfields, ofFields?, SettingsFile.ofMembers?, if_pos hempty,
    orDefault?_eq (hnull "access_token"), orDefault?_eq (hnull "api_root"),
    orDefault?_eq (hnull "pixel_ratio"),
    orDefault?_readSeconds? (hnull "request_timeout") "request_timeout",
    orDefault?_readSeconds? (hnull "connect_timeout") "connect_timeout"]
  -- Checking the first duration and reading the second may change places.
  simp only [toOption_ofFile, Option.bind_eq_bind, Option.pure_def, Option.bind_assoc,
    Option.bind_map, Option.bind_some, Function.comp_def,
    Option.bind_comm (Json.optional? Json.asFloat? members "connect_timeout")]

/-! ## Overrides -/

/-- Overrides replace the settings that they name, and refuse nothing. -/
theorem resolve_eq (file : Option SettingsFile) (o : Overrides) :
    resolve file o = (resolve file .none).map (overriddenBy · o) := by
  cases file with
  | none => rfl
  | some file =>
    rw [resolve, resolve]
    cases ofFile file with
    | error fault => rfl
    | ok s => rfl

/-- Members that are named as settings, none of them `null`, are settings exactly when they are
those of a file that can be resolved, and then these are the settings. Overrides refuse a file for
the same fault only, and replace the settings that they name and no others. -/
theorem readings_agree {members : Table Json}
    (hnames : ∀ entry ∈ members, entry.1 ∈ SettingsFile.names)
    (hnull : ∀ entry ∈ members, entry.2 ≠ .null) :
    (∀ s, ofJson? (.object members) = some s ↔
      ∃ file, SettingsFile.ofJson? (.object members) = some file ∧
        resolve (some file) .none = .ok s) ∧
    ∀ (file : Option SettingsFile) (o : Overrides),
      (∀ fault, resolve file o = .error fault ↔ resolve file .none = .error fault) ∧
      ∀ s, resolve file .none = .ok s → resolve file o = .ok
        { s with
          accessToken := o.accessToken.getD s.accessToken
          apiRoot := o.apiRoot.getD s.apiRoot
          pixelRatio := o.pixelRatio.getD s.pixelRatio } := by
  have hkeys : ∀ key ∈ members.keys, key ∈ SettingsFile.names := by
    intro key hkey
    obtain ⟨entry, hentry, rfl⟩ := List.mem_map.1 hkey
    exact hnames entry hentry
  have hget : ∀ key, members.get? key ≠ some .null := by
    intro key hkey
    exact hnull _ (Table.mem_of_get? hkey) rfl
  refine ⟨fun s => ?_, fun file o => ⟨fun fault => ?_, fun s hs => ?_⟩⟩
  · rw [ofJson?_eq_ofFile hkeys hget, Option.bind_eq_some_iff]
    refine exists_congr fun file => and_congr_right fun _ => ?_
    rw [toOption_eq_some_iff, resolve]
    cases ofFile file <;> simp [Except.map, overriddenBy, Overrides.none]
  · rw [resolve_eq, Reading.map_eq_error]
  · rw [resolve_eq, hs]
    rfl

/-- A whole number and a decimal for the durations, and a token that is overridden. -/
theorem readings_agree_harbor :
    let members : Table Json := [("api_root", .string "https://a"),
      ("connect_timeout", .number (.natural 2)), ("request_timeout", .number (.double 2.5))]
    ∃ file s, SettingsFile.ofJson? (.object members) = some file ∧
      ofJson? (.object members) = some s ∧
      s.connectTimeout = ⟨2, 0⟩ ∧ s.requestTimeout = ⟨2, 500000000⟩ ∧
      resolve (some file) ⟨some "pk", none, none⟩ = .ok { s with accessToken := "pk" } := by
  intro members
  obtain ⟨hboth, hoverrides⟩ := @readings_agree members (by decide) (by simp [members])
  have hfile : SettingsFile.ofJson? (.object members) =
      some ⟨none, some "https://a", none, some 2.5, some 2.0⟩ := rfl
  have hresolved : resolve (some ⟨none, some "https://a", none, some 2.5, some 2.0⟩) .none =
      .ok ⟨"", "https://a", 1.0, ⟨2, 500000000⟩, ⟨2, 0⟩⟩ := rfl
  exact ⟨_, _, hfile, (hboth _).2 ⟨_, hfile, hresolved⟩, rfl, rfl,
    (hoverrides _ ⟨some "pk", none, none⟩).2 _ hresolved⟩

end Settings

end StyledMap
