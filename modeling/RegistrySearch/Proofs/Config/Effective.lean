import RegistrySearch.Proofs.Config.Files
import RegistrySearch.Proofs.Config.Loading
import RegistrySearch.Proofs.Config.Settings
import RegistrySearch.Proofs.Text.Utf8
import RegistrySearch.Proofs.Yaml.Room

/-!
# Effective settings

Settings are loaded from the files of a list of paths and from the environment. What they come to can be told key by key: the variable of a setting decides if it is set, and otherwise the last of the files that have the key. `Sources` are such files and variables, and `Sources.effective?` is that value.

Loading looks at more than these values, and now and then it stops at something else: where it cannot be told whether there is a file at a path, at a key that is no proper text, and where a document or what documents are merged to is nested deeper than calls can be. Apart from that (`Sources.Regular`) the effective values decide everything but which of their faults is told of (`Sources.load_effective`).
-/

namespace RegistrySearch

/-! ### Files -/

/-- A text has this value, which it is read as if calls can be nested deep enough. -/
def Host.Means (host : Host) (text : List Char) (value : ConfigValue) : Prop :=
  ∃ room, Yaml.document room (Config.writtenDepth host) text = .ok value

/-- The file at a path holds an empty document, or a map with these entries. -/
def Host.HoldsConfig (host : Host) (path : Path) (config : Config) : Prop :=
  ∃ octets text, host.files.read path = .ok octets ∧ Utf8.decode? octets = some text
    ∧ (host.Means text (.scalar .null) ∧ config = [] ∨ host.Means text (.map config))

/-- The configurations in the files of a list of paths, as far as these exist. -/
inductive Host.Holds (host : Host) : List Path → List Config → Prop
  | nil : Holds host [] []
  | absent {path : Path} {paths : List Path} {configs : List Config} (hpath : host.files.exists? path ≠ .ok true)
      (hrest : Holds host paths configs) : Holds host (path :: paths) configs
  | present {path : Path} {paths : List Path} {config : Config} {configs : List Config}
      (hpath : host.files.exists? path = .ok true) (hfile : host.HoldsConfig path config)
      (hrest : Holds host paths configs) : Holds host (path :: paths) (config :: configs)

namespace Config

variable {host : Host} {path : Path} {text : List Char} {octets : List UInt8} {config : Config}

theorem fromFile_of_text (hread : host.files.read path = .ok octets) (htext : Utf8.decode? octets = some text) :
    fromFile host path
      = (Yaml.document host.readingRoom (writtenDepth host) text).mapError .document >>= ofDocument path := by
  simp only [fromFile, hread, htext, Except.mapError, bind, Except.bind]

theorem ofDocument_map (path : Path) (config : Config) : ofDocument path (.map config) = .ok config := by
  cases config <;> rfl

theorem exists_value_of_holds (h : host.HoldsConfig path config) :
    ∃ octets text value, host.files.read path = .ok octets ∧ Utf8.decode? octets = some text ∧ host.Means text value
      ∧ ofDocument path value = .ok config := by
  obtain ⟨octets, text, hread, htext, ⟨hnull, rfl⟩ | hmap⟩ := h
  · exact ⟨octets, text, _, hread, htext, hnull, rfl⟩
  · exact ⟨octets, text, _, hread, htext, hmap, ofDocument_map path config⟩

/-- A file is read as the configuration that it holds, unless it is too deep. -/
theorem fromFile_of_holds (h : host.HoldsConfig path config) :
    fromFile host path = .error (.document .tooDeep) ∨ fromFile host path = .ok config := by
  obtain ⟨octets, text, value, hread, htext, ⟨room, hvalue⟩, hconfig⟩ := exists_value_of_holds h
  rw [fromFile_of_text hread htext]
  rcases Yaml.document_eq_or_tooDeep hvalue host.readingRoom with hdeep | hsame
  · rw [hdeep]
    exact .inl rfl
  · rw [hsame]
    exact .inr hconfig

/-- It is not, if calls can be nested deep enough. -/
theorem exists_room_fromFile (h : host.HoldsConfig path config) :
    ∃ room, ∀ more, room ≤ more → fromFile { host with readingRoom := more } path = .ok config := by
  obtain ⟨octets, text, value, hread, htext, ⟨room, hvalue⟩, hconfig⟩ := exists_value_of_holds h
  refine ⟨room, fun more hle => ?_⟩
  have hread : ({ host with readingRoom := more } : Host).files.read path = .ok octets := hread
  have hmore : Yaml.document more (writtenDepth host) text = .ok value := by
    rcases Yaml.document_of_le hle (writtenDepth host) text with hdeep | hsame
    · cases hvalue.symm.trans hdeep
    · exact hsame.symm.trans hvalue
  rw [fromFile_of_text hread htext]
  exact bind_eq_ok.2 ⟨value, mapError_eq_ok.2 hmore, hconfig⟩

end Config

theorem Host.Holds.reads {host : Host} {paths : List Path} {configs : List Config} (h : host.Holds paths configs)
    (htold : ∀ path ∈ paths, ∃ answer, host.files.exists? path = .ok answer)
    (hfits : ∀ path ∈ paths, Config.fromFile host path ≠ .error (.document .tooDeep)) : host.Reads paths configs := by
  induction h with
  | nil => exact .nil
  | absent hpath _ ih =>
      obtain ⟨⟨answer, hanswer⟩, htold⟩ := List.forall_mem_cons.1 htold
      have hfalse : answer = false := Bool.eq_false_iff.2 fun htrue => hpath (htrue ▸ hanswer)
      exact .absent (hfalse ▸ hanswer) (ih htold (List.forall_mem_cons.1 hfits).2)
  | present hpath hholds _ ih =>
      obtain ⟨hfit, hfits⟩ := List.forall_mem_cons.1 hfits
      exact .present hpath ((Config.fromFile_of_holds hholds).resolve_left hfit) (ih (List.forall_mem_cons.1 htold).2 hfits)

/-! ### Files of texts -/

def FileTree.ofTexts (texts : List (String × String)) : FileTree :=
  folder (texts.map fun (name, text) => (name, file (Utf8.encode text.toList)))

/-- Files with room for twenty nested calls, of an account without a home folder. -/
def Host.ofFiles (files : FileSystem) : Host where
  files
  accountHome := none
  readingRoom := 20
  mergingRoom := 20

/-- A working folder of files with names and texts, with nothing around it. -/
def Host.ofTexts (texts : List (String × String)) : Host :=
  ofFiles ⟨.ofTexts texts, []⟩

theorem Host.Holds.ofText {host : Host} {path : Path} {paths : List Path} {config : Config} {configs : List Config}
    (room : Nat) (text : String) (hread : host.files.read path = .ok (Utf8.encode text.toList))
    (h : Yaml.document room (Config.writtenDepth host) text.toList = .ok (.map config)) (hrest : host.Holds paths configs) :
    host.Holds (path :: paths) (config :: configs) := by
  have hconfig : host.HoldsConfig path config :=
    ⟨_, text.toList, hread, Utf8.decode?_encode text.toList, .inr ⟨room, h⟩⟩
  exact .present (FileSystem.exists?_of_read hread) hconfig hrest

namespace Config

/-! ### The environment -/

def variableOf (key : String) : String :=
  "EVENTQUERY_" ++ key.toUpper

theorem overrides_eq : overrides = LoadedSettings.keys.map fun key => (variableOf key, key) := by
  decide +kernel

theorem given?_filterMap (value? : String → Option ConfigValue) (keys : List String) (key : String) :
    given? (keys.filterMap fun k => (value? k).map fun value => (.text k, value)) (.text key)
      = if key ∈ keys then value? key else none := by
  induction keys with
  | nil => rfl
  | cons k keys ih =>
      by_cases hkey : k = key
      · subst hkey
        rw [if_pos List.mem_cons_self]
        cases hvalue : value? k with
        | none => simp [hvalue, ih]
        | some value =>
            rw [List.filterMap_cons_some (by rw [hvalue]; rfl), given?_cons, ih, hvalue,
              if_pos (Scalar.sameKey_text_iff.2 rfl)]
            split <;> rfl
      · have hmem : key ∈ k :: keys ↔ key ∈ keys := by
          rw [List.mem_cons, or_iff_right (Ne.symm hkey)]
        simp only [hmem]
        cases hvalue : value? k with
        | none => simp [hvalue, ih]
        | some value => simp [hvalue, given?_cons, ih, Scalar.sameKey_text_iff, hkey]

theorem ofEnvironment_eq (environment : Environment) :
    ofEnvironment environment = LoadedSettings.keys.filterMap fun key =>
      ((environment.get? (variableOf key)).map fun s => .scalar (.text s)).map fun value => (.text key, value) := by
  rw [ofEnvironment, overrides_eq, List.filterMap_map]
  simp only [Option.map_map]
  rfl

theorem given?_ofEnvironment (environment : Environment) {key : String} (hkey : key ∈ LoadedSettings.keys) :
    given? (ofEnvironment environment) (.text key)
      = (environment.get? (variableOf key)).map fun s => .scalar (.text s) := by
  rw [ofEnvironment_eq, given?_filterMap, if_pos hkey]

theorem hasTextKeys_ofEnvironment (environment : Environment) : (ofEnvironment environment).HasTextKeys := by
  intro key hkey
  obtain ⟨entry, hentry, rfl⟩ := List.mem_map.1 hkey
  obtain ⟨override, -, hoverride⟩ := List.mem_filterMap.1 hentry
  obtain ⟨value, -, rfl⟩ := Option.map_eq_some_iff.1 hoverride
  exact ⟨override.2, rfl⟩

end Config

/-! ### Sources -/

/-- What settings are loaded from: an environment, and the files of a list of paths or at the default ones, which hold configurations wherever they exist. Keys of a configuration are texts. -/
structure Sources where
  host : Host
  environment : Environment
  paths : Option (List Path)
  listed : List Path
  configs : List Config
  lists : Config.pathsOr host environment paths = .ok listed
  holds : host.Holds listed configs
  textKeys : ∀ config ∈ configs, config.KeysAre fun key => key.kind = .text

namespace Sources

variable {sources : Sources}

def load (sources : Sources) : Except ConfigFailure LoadedSettings :=
  LoadedSettings.load sources.host sources.environment sources.paths

theorem load_eq_error_of_files (sources : Sources) {failure : ConfigFailure}
    (h : Config.loadFiles sources.host [] sources.listed = .error failure) : sources.load = .error failure := by
  rw [load, LoadedSettings.load, Config.load, sources.lists]
  simp only [bind, Except.bind, h]

/-- The value that decides a setting: the variable of the setting if it is set, and otherwise what the last file that has the key gives it. -/
def effective? (sources : Sources) (key : String) : Option ConfigValue :=
  ((sources.environment.get? (Config.variableOf key)).map fun s => .scalar (.text s)).or
    (sources.configs.reverse.findSome? fun config => config.given? (.text key))

/-- Loading does not stop before the values: it can be told of each path whether there is a file, keys are texts without halves, and calls can be nested as deep as it takes to read each document and to lay it over the others. -/
structure Regular (sources : Sources) : Prop where
  told : ∀ path ∈ sources.listed, ∃ answer, sources.host.files.exists? path = .ok answer
  fits : ∀ path ∈ sources.listed, Config.fromFile sources.host path ≠ .error (.document .tooDeep)
  keys : ∀ config ∈ sources.configs, config.HasTextKeys
  ends : Config.LayersEnd sources.host.mergingRoom [] sources.configs

def merged (sources : Sources) : Config :=
  Config.mergeAll (sources.configs ++ [Config.ofEnvironment sources.environment])

theorem Regular.load_eq (h : sources.Regular) :
    sources.load = (LoadedSettings.ofConfig sources.merged).mapError .invalid := by
  have hload : Config.load sources.host sources.environment sources.paths = .ok sources.merged :=
    Config.load_eq_ok_iff.2
      ⟨sources.listed, sources.configs, sources.lists, sources.holds.reads h.told h.fits, h.ends, rfl⟩
  rw [load, LoadedSettings.load, hload]
  rfl

theorem distinctKeys_merged (sources : Sources) : sources.merged.DistinctKeys :=
  Config.distinctKeys_layered Config.distinctKeys_nil _

theorem Regular.hasTextKeys_merged (h : sources.Regular) : sources.merged.HasTextKeys := by
  refine Config.keysAre_layered (fun key hkey => absurd hkey List.not_mem_nil) ?_
  rw [List.forall_mem_append, List.forall_mem_singleton]
  exact ⟨h.keys, Config.hasTextKeys_ofEnvironment sources.environment⟩

theorem get?_merged {β : Type} {f : ConfigValue → β} (hf : Config.Shallow f) {key : String}
    (hkey : key ∈ LoadedSettings.keys) : (sources.merged.get? (.text key)).map f = (sources.effective? key).map f := by
  -- The environment is one more layer, and the last one.
  have hlayers := hf.get?_layered [] (sources.configs ++ [Config.ofEnvironment sources.environment]) (.text key)
  rw [List.reverse_append, List.findSome?_append, Config.get?, Option.or_none] at hlayers
  rw [merged, Config.mergeAll, hlayers, List.reverse_singleton, List.findSome?_singleton,
    Config.given?_ofEnvironment _ hkey, effective?]

/-- The settings cannot tell the merged configuration from the effective values. -/
theorem readAlike_merged (sources : Sources) :
    LoadedSettings.ReadAlike (fun key => sources.merged.get? (.text key)) sources.effective? where
  text _ hkey := get?_merged ConfigValue.shallow_asText (List.mem_append_left _ hkey)
  flag := get?_merged ConfigValue.shallow_asFlag (List.mem_append_right _ List.mem_cons_self)

theorem Regular.load_eq_ok_iff (h : sources.Regular) {settings : LoadedSettings} :
    sources.load = .ok settings ↔ LoadedSettings.TakenFrom .initial sources.effective? settings := by
  rw [h.load_eq, mapError_eq_ok, LoadedSettings.ofConfig,
    LoadedSettings.setAll_eq_ok_iff sources.distinctKeys_merged h.hasTextKeys_merged, sources.readAlike_merged.takenFrom_iff]

theorem Regular.load_eq_error (h : sources.Regular) {failure : ConfigFailure}
    (hfailure : sources.load = .error failure) :
    ∃ key value fault,
      sources.effective? key = some value ∧ LoadedSettings.Refuses key value fault ∧ failure = .invalid fault := by
  rw [h.load_eq, mapError_eq_error] at hfailure
  obtain ⟨fault, hfault, rfl⟩ := hfailure
  obtain ⟨key, value, hget, hrefuses⟩ :=
    LoadedSettings.setAll_eq_error sources.distinctKeys_merged h.hasTextKeys_merged hfault
  obtain ⟨other, hother, hrefuses⟩ := sources.readAlike_merged.refuses hget hrefuses
  exact ⟨key, other, fault, hother, hrefuses, rfl⟩

/-- Settings are loaded exactly if all effective values can be read as what their settings take, and then each setting is what its effective value is read as, or its default without one. Otherwise the failure is that of an effective value. So nothing else has an influence on the settings: sources with the same effective values give the same. -/
theorem load_effective (sources : Sources) (h : sources.Regular) :
    (∀ settings, sources.load = .ok settings ↔ LoadedSettings.TakenFrom .initial sources.effective? settings)
      ∧ ((∃ settings, sources.load = .ok settings) ↔ LoadedSettings.Convertible sources.effective?)
      ∧ (∀ failure, sources.load = .error failure → ∃ key value fault,
          sources.effective? key = some value ∧ LoadedSettings.Refuses key value fault ∧ failure = .invalid fault)
      ∧ ∀ other : Sources, other.Regular → (∀ key ∈ LoadedSettings.keys, other.effective? key = sources.effective? key) →
          ∀ settings, other.load = .ok settings ↔ sources.load = .ok settings := by
  refine ⟨fun settings => h.load_eq_ok_iff, ?_, fun failure hfailure => h.load_eq_error hfailure, ?_⟩
  · simp only [h.load_eq_ok_iff]
    exact LoadedSettings.exists_takenFrom_iff
  · intro other hother hsame settings
    have halike : LoadedSettings.ReadAlike other.effective? sources.effective? :=
      ⟨fun key hkey => congrArg _ (hsame key (List.mem_append_left _ hkey)),
        congrArg _ (hsame _ (List.mem_append_right _ List.mem_cons_self))⟩
    rw [h.load_eq_ok_iff, hother.load_eq_ok_iff, halike.takenFrom_iff]

/-- Files at the default paths: one in the folder of a user, one in the working folder, and none between them. -/
def layeredFiles : FileSystem where
  root := .folder [
    ("home", .folder [("me", .folder [(".config", .folder [("eventquery",
      .ofTexts [("config.yaml", "fuzziness: \x7bx: 1\x7d\nfullname_subfield: name\nother: \x7bx: 1\x7d")])])])]),
    ("work", .ofTexts [("eventquery.yaml", "other: \x7by: [2]\x7d\nfuzziness: two\ncache_name_fields: maybe")])]
  workingFolder := ["work"]

def layered : Sources where
  host := .ofFiles layeredFiles
  environment := [("HOME", "/home/me"), ("EVENTQUERY_CACHE_NAME_FIELDS", "FALSE")]
  paths := none
  listed := [.ofText "/home/me/.config/eventquery/config.yaml", .ofText ".eventquery.yaml", .ofText "eventquery.yaml"]
  configs :=
    [[(.text "fuzziness", .map [(.text "x", .scalar (.int 1))]), (.text "fullname_subfield", .scalar (.text "name")),
        (.text "other", .map [(.text "x", .scalar (.int 1))])],
      [(.text "other", .map [(.text "y", .list [.scalar (.int 2)])]), (.text "fuzziness", .scalar (.text "two")),
        (.text "cache_name_fields", .scalar (.text "maybe"))]]
  lists := by decide +kernel
  holds := by
    refine .ofText 20 "fuzziness: \x7bx: 1\x7d\nfullname_subfield: name\nother: \x7bx: 1\x7d"
      (by decide +kernel) (by decide +kernel) ?_
    refine .absent (by decide +kernel) ?_
    exact .ofText 20 "other: \x7by: [2]\x7d\nfuzziness: two\ncache_name_fields: maybe"
      (by decide +kernel) (by decide +kernel) .nil
  textKeys := by
    unfold Config.KeysAre
    decide +kernel

/-- The later file decides the tolerance, the variable the memo, and the value that it replaces would not do. -/
theorem load_effective_layered :
    layered.Regular
      ∧ layered.load = .ok (.ofSettings { fullnameSubfield := "name", fuzziness := "two", cacheNameFields := false }) := by
  have hregular : layered.Regular := by
    refine ⟨by decide +kernel, by decide +kernel, ?_, ?_⟩
    · simp [layered, Config.HasTextKeys, Config.KeysAre, or_imp, forall_and]
    · refine Config.layersEnd_cons_iff.2 ⟨by decide +kernel, ?_⟩
      exact Config.layersEnd_cons_iff.2 ⟨by decide +kernel, Config.layersEnd_nil⟩
  have hnamespace : layered.effective? "declaration_namespace" = none := by decide +kernel
  have hsubfield : layered.effective? "fullname_subfield" = some (.scalar (.text "name")) := by decide +kernel
  have hfuzziness : layered.effective? "fuzziness" = some (.scalar (.text "two")) := by decide +kernel
  have hcache : layered.effective? "cache_name_fields" = some (.scalar (.text "FALSE")) := by decide +kernel
  refine ⟨hregular, ((load_effective layered hregular).1 _).2 ⟨?_, ?_, ?_, ?_⟩⟩
  · rw [hnamespace]
    rfl
  · rw [hsubfield]
    exact .text "name"
  · rw [hfuzziness]
    exact .text "two"
  · rw [hcache]
    exact .no (by decide +kernel)

/-! ### Where loading stops before the values -/

/-- It cannot be told whether there is a file with a name that is longer than any. -/
theorem exists?_of_long {name : List Char} (hlong : maxPartSize < (Utf8.encode name).length) (hnull : '\x00' ∉ name) :
    FileSystem.exists? ⟨.folder [], []⟩ ⟨"", [String.ofList name]⟩ = .error .nameTooLong := by
  have hname : name ≠ [] := by
    rintro rfl
    exact absurd hlong (by decide)
  have htext : Path.text ⟨"", [String.ofList name]⟩ = String.ofList name := by
    have hjoined : "/".intercalate [String.ofList name] = String.ofList name := rfl
    simp [Path.text, hjoined, hname]
  have hpart : maxPartSize < octetCount (String.ofList name) := by
    rw [octetCount, String.toList_ofList]
    exact hlong
  have hfollow : Place.follow ⟨.folder [], []⟩ maxLinks ⟨.folder [], []⟩ [String.ofList name] = .error .nameTooLong :=
    Place.follow_cons_error (by simp [Place.enter, hpart]) _ _ _
  rw [FileSystem.exists?, FileSystem.find, htext, String.toList_ofList, if_neg hnull]
  by_cases hsize : maxPathSize < octetCount (String.ofList name)
  · rw [if_pos hsize]
    rfl
  · rw [if_neg hsize]
    have hstart : FileSystem.start ⟨.folder [], []⟩ ⟨"", [String.ofList name]⟩ = .ok ⟨.folder [], []⟩ := rfl
    simp only [hstart, hfollow, bind, Except.bind]
    rfl

def longPath : Path :=
  ⟨"", [String.ofList (List.replicate 256 'a')]⟩

theorem exists?_longPath : (Host.ofTexts []).files.exists? longPath = .error .nameTooLong :=
  exists?_of_long (by decide +kernel) (by decide +kernel)

/-- There is no file, and the path of one is too long to tell so. -/
def overlong : Sources where
  host := .ofTexts []
  environment := []
  paths := some [longPath]
  listed := [longPath]
  configs := []
  lists := rfl
  holds := by
    refine .absent ?_ .nil
    rw [exists?_longPath]
    decide
  textKeys := fun config hconfig => absurd hconfig List.not_mem_nil

theorem overlong_load : overlong.load = .error (.uncertain .nameTooLong longPath) :=
  overlong.load_eq_error_of_files (Config.loadFiles_uncertain exists?_longPath [])

/-- There is a folder that may not be searched, and it cannot be told whether there is a file in it. -/
def barred : Sources where
  host := .ofFiles ⟨.folder [("private", .folder [] { maySearch := false })], []⟩
  environment := []
  paths := some [.ofText "/private/a.yaml"]
  listed := [.ofText "/private/a.yaml"]
  configs := []
  lists := rfl
  holds := .absent (by decide +kernel) .nil
  textKeys := fun config hconfig => absurd hconfig List.not_mem_nil

/-- A key holds half of a surrogate pair. -/
def halved : Sources where
  host := .ofTexts [("a.yaml", "\"\\uD800\": 1")]
  environment := []
  paths := some [.ofText "a.yaml"]
  listed := [.ofText "a.yaml"]
  configs := [[(.halves [.half 0xD800], .scalar (.int 1))]]
  lists := rfl
  holds := .ofText 20 "\"\\uD800\": 1" (by decide +kernel) (by decide +kernel) .nil
  textKeys := by
    unfold Config.KeysAre
    decide +kernel

/-- A file with lists in each other, and room for fewer calls than it takes to read them. -/
def deep : Sources where
  host := { Host.ofTexts [("a.yaml", "x: [[[]]]")] with readingRoom := 6 }
  environment := []
  paths := some [.ofText "a.yaml"]
  listed := [.ofText "a.yaml"]
  configs := [[(.text "x", .list [.list [.list []]])]]
  lists := rfl
  holds := .ofText 20 "x: [[[]]]" (by decide +kernel) (by decide +kernel) .nil
  textKeys := by
    unfold Config.KeysAre
    decide +kernel

/-- What a map that contains itself comes to, as deep as it is written out. -/
def circular : Config :=
  match Yaml.document 20 22 "x: &a \x7bx: *a\x7d".toList with
  | .ok (.map entries) => entries
  | _ => []

/-- A file with a map that contains itself, read twice. -/
def endless : Sources where
  host := .ofTexts [("a.yaml", "x: &a \x7bx: *a\x7d")]
  environment := []
  paths := some [.ofText "a.yaml", .ofText "a.yaml"]
  listed := [.ofText "a.yaml", .ofText "a.yaml"]
  configs := [circular, circular]
  lists := rfl
  holds := by
    have hread : (Host.ofTexts [("a.yaml", "x: &a \x7bx: *a\x7d")]).files.read (.ofText "a.yaml")
        = .ok (Utf8.encode "x: &a \x7bx: *a\x7d".toList) := by decide +kernel
    have hvalue : Yaml.document 20 (Config.writtenDepth (Host.ofTexts [("a.yaml", "x: &a \x7bx: *a\x7d")]))
        "x: &a \x7bx: *a\x7d".toList = .ok (.map circular) := by decide +kernel
    exact .ofText 20 _ hread hvalue (.ofText 20 _ hread hvalue .nil)
  textKeys := by
    unfold Config.KeysAre
    decide +kernel

def refused : Sources where
  host := .ofTexts [("b.yaml", "declaration_namespace: 2\nfuzziness: 2")]
  environment := []
  paths := some [.ofText "b.yaml"]
  listed := [.ofText "b.yaml"]
  configs := [[(.text "declaration_namespace", .scalar (.int 2)), (.text "fuzziness", .scalar (.int 2))]]
  lists := rfl
  holds := .ofText 20 "declaration_namespace: 2\nfuzziness: 2" (by decide +kernel) (by decide +kernel) .nil
  textKeys := by
    unfold Config.KeysAre
    decide +kernel

/-- Before that file there is another one with the same keys in another order, whose values it replaces. -/
def reordered : Sources where
  host := .ofTexts [("a.yaml", "fuzziness: a\ndeclaration_namespace: b"),
    ("b.yaml", "declaration_namespace: 2\nfuzziness: 2")]
  environment := []
  paths := some [.ofText "a.yaml", .ofText "b.yaml"]
  listed := [.ofText "a.yaml", .ofText "b.yaml"]
  configs := [[(.text "fuzziness", .scalar (.text "a")), (.text "declaration_namespace", .scalar (.text "b"))],
    [(.text "declaration_namespace", .scalar (.int 2)), (.text "fuzziness", .scalar (.int 2))]]
  lists := rfl
  holds := by
    refine .ofText 20 "fuzziness: a\ndeclaration_namespace: b" (by decide +kernel) (by decide +kernel) ?_
    exact .ofText 20 "declaration_namespace: 2\nfuzziness: 2" (by decide +kernel) (by decide +kernel) .nil
  textKeys := by
    unfold Config.KeysAre
    decide +kernel

/-- Without a value for any setting, loading fails at a path that is too long, in a folder that may not be searched, at a key with half of a pair in it, at a document that is nested too deep and at maps that contain themselves. And values that a later file replaces have an influence on which of several faults is told of. -/
theorem load_stops_early :
    (LoadedSettings.Convertible overlong.effective? ∧ overlong.load = .error (.uncertain .nameTooLong longPath))
      ∧ (LoadedSettings.Convertible barred.effective?
        ∧ barred.load = .error (.uncertain .notAllowed (.ofText "/private/a.yaml")))
      ∧ (LoadedSettings.Convertible halved.effective? ∧ halved.load = .error (.invalid .halves))
      ∧ (LoadedSettings.Convertible deep.effective? ∧ deep.load = .error (.document .tooDeep))
      ∧ (LoadedSettings.Convertible endless.effective? ∧ endless.load = .error .endless)
      ∧ (∀ key ∈ LoadedSettings.keys, reordered.effective? key = refused.effective? key)
      ∧ reordered.load ≠ refused.load := by
  refine ⟨⟨LoadedSettings.convertible_of_none (by decide +kernel), overlong_load⟩,
    ⟨LoadedSettings.convertible_of_none (by decide +kernel), by decide +kernel⟩,
    ⟨LoadedSettings.convertible_of_none (by decide +kernel), by decide +kernel⟩,
    ⟨LoadedSettings.convertible_of_none (by decide +kernel), by decide +kernel⟩,
    ⟨LoadedSettings.convertible_of_none (by decide +kernel), by decide +kernel⟩, by decide +kernel, by decide +kernel⟩

end Sources

end RegistrySearch
