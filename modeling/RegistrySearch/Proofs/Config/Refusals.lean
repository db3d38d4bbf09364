import RegistrySearch.Proofs.Config.Effective

/-!
# Files that stop the loading

A file that exists should hold an empty document or a map. Any other file is refused, with one exception: a document that is blank without being empty, such as an empty list, zero or false, is taken for an empty map before its kind is looked at. So loading stops at every file that is no configuration, or passes over it as if it were not in the list (`Config.refuses_bad_files`).

Which failure it is that loading ends with is decided by the first path that stops it, and that may be another one: a file before it, a path that is too long or leads through a folder that may not be searched, or maps that are merged deeper than calls can be nested. `Config.StopsFirst` says so of a list of paths, with what the files before the stop hold. Not all of these failures are such as loading is said to have.
-/

namespace RegistrySearch

/-! ### Failures -/

/-- The fault is told as one of the document. Some faults of a scalar are not, nor is it told that nodes are nested too deep. -/
def Yaml.DocumentFault.IsExpected : Yaml.DocumentFault → Prop
  | .codePoint number => number ≤ Yaml.maxCode
  | .malformed | .tooManyDigits _ | .notAnInteger .. | .notANumber _ | .date _ => True
  | .notAFlag _ | .emptyNumber | .tooLarge | .notADate | .mappingForDate | .tooDeep => False

/-- The failure is told as one of a file or of a value in it. -/
def ConfigFailure.IsExpected : ConfigFailure → Prop
  | .document fault => fault.IsExpected
  | .unreadable .. | .notUtf8 | .notAMap _ | .invalid _ => True
  | .uncertain .. | .noHome | .endless => False

/-! ### One file -/

namespace Host

variable {host : Host} {path : Path} {config : Config} {failure : ConfigFailure} {value other : ConfigValue}

def ReadAs (host : Host) (path : Path) (value : ConfigValue) : Prop :=
  ∃ octets text, host.files.read path = .ok octets ∧ Utf8.decode? octets = some text
    ∧ Yaml.document host.readingRoom (Config.writtenDepth host) text = .ok value

/-- The document of the file at a path is blank, but neither empty nor a map. -/
def HoldsBlank (host : Host) (path : Path) : Prop :=
  ∃ value, host.ReadAs path value ∧ value.isBlank = true ∧ value ≠ .scalar .null ∧ value.kind ≠ .map

/-- What is told of a file: that it cannot be read, that it is no text or no document that can be read, or that its document is no map. -/
inductive Refused (host : Host) (path : Path) : ConfigFailure → Prop
  | unreadable {fault : ReadFault} (h : host.files.read path = .error fault) : Refused host path (.unreadable fault path)
  | notUtf8 {octets : List UInt8} (hread : host.files.read path = .ok octets) (h : Utf8.decode? octets = none) :
      Refused host path .notUtf8
  | document {octets : List UInt8} {text : List Char} {fault : Yaml.DocumentFault}
      (hread : host.files.read path = .ok octets) (htext : Utf8.decode? octets = some text)
      (h : Yaml.document host.readingRoom (Config.writtenDepth host) text = .error fault) :
      Refused host path (.document fault)
  | notAMap {value : ConfigValue} (hvalue : host.ReadAs path value) (hblank : value.isBlank = false)
      (hkind : value.kind ≠ .map) : Refused host path (.notAMap path)

theorem readAs_of_text (text : String) (hread : host.files.read path = .ok (Utf8.encode text.toList))
    (h : Yaml.document host.readingRoom (Config.writtenDepth host) text.toList = .ok value) : host.ReadAs path value :=
  ⟨_, text.toList, hread, Utf8.decode?_encode text.toList, h⟩

theorem ReadAs.unique (h : host.ReadAs path value) (hother : host.ReadAs path other) : value = other := by
  obtain ⟨octets, text, hread, htext, hvalue⟩ := h
  obtain ⟨_, _, hread', htext', hvalue'⟩ := hother
  cases hread.symm.trans hread'
  cases htext.symm.trans htext'
  exact Except.ok.inj (hvalue.symm.trans hvalue')

theorem ReadAs.holdsConfig (h : host.ReadAs path (.map config)) : host.HoldsConfig path config := by
  obtain ⟨octets, text, hread, htext, hvalue⟩ := h
  exact ⟨octets, text, hread, htext, .inr ⟨_, hvalue⟩⟩

theorem ReadAs.holdsConfig_nil (h : host.ReadAs path (.scalar .null)) : host.HoldsConfig path [] := by
  obtain ⟨octets, text, hread, htext, hvalue⟩ := h
  exact ⟨octets, text, hread, htext, .inl ⟨⟨_, hvalue⟩, rfl⟩⟩

/-- What is read as something else than a configuration does not hold one, whatever the room. -/
theorem ReadAs.not_holdsConfig (h : host.ReadAs path value) (hnull : value ≠ .scalar .null)
    (hmap : value.kind ≠ .map) (config : Config) : ¬ host.HoldsConfig path config := by
  obtain ⟨octets, text, hread, htext, hvalue⟩ := h
  rintro ⟨_, _, hread', htext', hmeans⟩
  cases hread.symm.trans hread'
  cases htext.symm.trans htext'
  rcases hmeans with ⟨⟨room, hnull'⟩, -⟩ | ⟨room, hmap'⟩
  · exact hnull (Yaml.document_unique hvalue hnull')
  · exact hmap (Yaml.document_unique hvalue hmap' ▸ rfl)

theorem Reads.exists_fromFile {paths : List Path} {configs : List Config} (h : host.Reads paths configs)
    (hpath : path ∈ paths) (hexists : host.files.exists? path = .ok true) :
    ∃ config, Config.fromFile host path = .ok config := by
  induction h with
  | nil => exact absurd hpath List.not_mem_nil
  | absent hfirst _ ih =>
      rcases List.mem_cons.1 hpath with rfl | hrest
      · cases hfirst.symm.trans hexists
      · exact ih hrest
  | present _ hfile _ ih =>
      rcases List.mem_cons.1 hpath with rfl | hrest
      · exact ⟨_, hfile⟩
      · exact ih hrest

end Host

namespace Config

variable {host : Host} {environment : Environment} {path : Path} {paths : Option (List Path)} {listed : List Path}
  {base config : Config} {value : ConfigValue} {failure : ConfigFailure}

theorem ofDocument_of_not_map (hblank : value.isBlank = false) (hkind : value.kind ≠ .map) :
    ofDocument path value = .error (.notAMap path) := by
  unfold ofDocument
  rw [if_neg (by simp [hblank])]
  cases value with
  | map entries => exact absurd rfl hkind
  | _ => rfl

theorem fromFile_of_readAs (h : host.ReadAs path value) : fromFile host path = ofDocument path value := by
  obtain ⟨octets, text, hread, htext, hvalue⟩ := h
  rw [fromFile_of_text hread htext, hvalue]
  rfl

theorem fromFile_of_blank (h : host.HoldsBlank path) : fromFile host path = .ok [] := by
  obtain ⟨value, hvalue, hblank, -⟩ := h
  rw [fromFile_of_readAs hvalue]
  exact if_pos hblank

theorem fromFile_of_refused (h : host.Refused path failure) : fromFile host path = .error failure := by
  cases h with
  | unreadable h => exact bind_eq_error.2 (.inl (mapError_eq_error.2 ⟨_, h, rfl⟩))
  | notUtf8 hread h =>
      refine bind_eq_error.2 (.inr ⟨_, mapError_eq_ok.2 hread, ?_⟩)
      rw [h]
      rfl
  | document hread htext h =>
      rw [fromFile_of_text hread htext, h]
      rfl
  | notAMap hvalue hblank hkind => rw [fromFile_of_readAs hvalue, ofDocument_of_not_map hblank hkind]

/-- A file is read as a configuration, or is blank and passes for an empty one, or is refused. -/
theorem file_cases (host : Host) (path : Path) :
    (∃ config, host.HoldsConfig path config ∧ fromFile host path = .ok config)
      ∨ host.HoldsBlank path ∨ ∃ failure, host.Refused path failure := by
  cases hread : host.files.read path with
  | error fault => exact .inr (.inr ⟨_, .unreadable hread⟩)
  | ok octets =>
      cases htext : Utf8.decode? octets with
      | none => exact .inr (.inr ⟨_, .notUtf8 hread htext⟩)
      | some text =>
          cases hdocument : Yaml.document host.readingRoom (writtenDepth host) text with
          | error fault => exact .inr (.inr ⟨_, .document hread htext hdocument⟩)
          | ok value =>
              have hvalue : host.ReadAs path value := ⟨octets, text, hread, htext, hdocument⟩
              by_cases hmap : value.kind = .map
              · obtain ⟨entries, rfl⟩ := ConfigValue.kind_eq_map_iff.1 hmap
                exact .inl ⟨entries, hvalue.holdsConfig, by rw [fromFile_of_readAs hvalue, ofDocument_map]⟩
              · by_cases hnull : value = .scalar .null
                · subst hnull
                  exact .inl ⟨[], hvalue.holdsConfig_nil, fromFile_of_readAs hvalue⟩
                · cases hblank : value.isBlank with
                  | true => exact .inr (.inl ⟨value, hvalue, hblank, hnull, hmap⟩)
                  | false => exact .inr (.inr ⟨_, .notAMap hvalue hblank hmap⟩)

theorem fromFile_eq_error_iff : fromFile host path = .error failure ↔ host.Refused path failure := by
  refine ⟨fun h => ?_, fromFile_of_refused⟩
  rcases file_cases host path with ⟨config, -, hfile⟩ | hblank | ⟨other, hrefused⟩
  · cases h.symm.trans hfile
  · cases h.symm.trans (fromFile_of_blank hblank)
  · cases h.symm.trans (fromFile_of_refused hrefused)
    exact hrefused

/-! ### A list of paths -/

/-- Why loading stops at a path, when something was merged before it. -/
inductive StopsAt (host : Host) (base : Config) (path : Path) : ConfigFailure → Prop
  | tooLong (h : host.files.exists? path = .error .nameTooLong) : StopsAt host base path (.uncertain .nameTooLong path)
  /-- The path leads through a folder that may not be searched. -/
  | barred (h : host.files.exists? path = .error .notAllowed) : StopsAt host base path (.uncertain .notAllowed path)
  | refused {failure : ConfigFailure} (hpath : host.files.exists? path = .ok true) (h : host.Refused path failure) :
      StopsAt host base path failure
  | endless {config : Config} (hpath : host.files.exists? path = .ok true) (hfile : fromFile host path = .ok config)
      (h : Overlap (host.mergingRoom + 1) base config) : StopsAt host base path .endless

/-- Loading stops somewhere in a list of paths: the files before the stop can be read and merged. -/
def StopsFirst (host : Host) (base : Config) (listed : List Path) (failure : ConfigFailure) : Prop :=
  ∃ before path after configs, listed = before ++ path :: after ∧ host.Reads before configs
    ∧ LayersEnd host.mergingRoom base configs ∧ StopsAt host (configs.foldl merge base) path failure

theorem StopsAt.stopsFirst (h : StopsAt host base path failure) (paths : List Path) :
    StopsFirst host base (path :: paths) failure :=
  ⟨[], path, paths, [], rfl, .nil, layersEnd_nil, h⟩

theorem StopsFirst.absent (hpath : host.files.exists? path = .ok false) (h : StopsFirst host base listed failure) :
    StopsFirst host base (path :: listed) failure := by
  obtain ⟨before, stop, after, configs, rfl, hreads, hend, hstops⟩ := h
  exact ⟨path :: before, stop, after, configs, rfl, .absent hpath hreads, hend, hstops⟩

theorem StopsFirst.present (hpath : host.files.exists? path = .ok true) (hfile : fromFile host path = .ok config)
    (hover : ¬ Overlap (host.mergingRoom + 1) base config) (h : StopsFirst host (merge base config) listed failure) :
    StopsFirst host base (path :: listed) failure := by
  obtain ⟨before, stop, after, configs, rfl, hreads, hend, hstops⟩ := h
  exact ⟨path :: before, stop, after, config :: configs, rfl, .present hpath hfile hreads,
    layersEnd_cons_iff.2 ⟨hover, hend⟩, hstops⟩

theorem loadFiles_of_stopsAt (h : StopsAt host base path failure) (paths : List Path) :
    loadFiles host base (path :: paths) = .error failure := by
  cases h with
  | tooLong h => exact loadFiles_uncertain h paths
  | barred h => exact loadFiles_uncertain h paths
  | refused hpath h =>
      rw [loadFiles, hpath, fromFile_of_refused h]
      rfl
  | endless hpath hfile h =>
      rw [loadFiles_present hpath hfile, layer_eq_error_iff.2 ⟨h, rfl⟩]
      rfl

theorem stopsFirst_of_error (h : loadFiles host base listed = .error failure) :
    StopsFirst host base listed failure := by
  induction listed generalizing base with
  | nil => cases h
  | cons path paths ih =>
      rcases bind_eq_error.1 h with huncertain | ⟨answer, hanswer, hrest⟩
      · obtain ⟨fault, hfault, rfl⟩ := mapError_eq_error.1 huncertain
        rcases FileSystem.exists?_eq_error hfault with rfl | rfl
        · exact (StopsAt.tooLong hfault).stopsFirst paths
        · exact (StopsAt.barred hfault).stopsFirst paths
      · rw [mapError_eq_ok] at hanswer
        cases answer with
        | false => exact (ih hrest).absent hanswer
        | true =>
            rcases bind_eq_error.1 hrest with hrefused | ⟨next, hfile, hrest⟩
            · exact (StopsAt.refused hanswer (fromFile_eq_error_iff.1 hrefused)).stopsFirst paths
            · rcases bind_eq_error.1 hrest with hendless | ⟨merged, hlayer, hrest⟩
              · obtain ⟨hover, rfl⟩ := layer_eq_error_iff.1 hendless
                exact (StopsAt.endless hanswer hfile hover).stopsFirst paths
              · obtain ⟨hover, rfl⟩ := layer_eq_ok_iff.1 hlayer
                exact (ih hrest).present hanswer hfile hover

theorem loadFiles_eq_error_iff :
    loadFiles host base listed = .error failure ↔ StopsFirst host base listed failure := by
  refine ⟨stopsFirst_of_error, ?_⟩
  rintro ⟨before, path, after, configs, rfl, hreads, hend, hstops⟩
  rw [loadFiles_append hreads hend, loadFiles_of_stopsAt hstops]

/-- A file that is refused stops the loading, unless something before it does. -/
theorem exists_failure_of_refused (hpath : path ∈ listed) (hexists : host.files.exists? path = .ok true)
    (h : host.Refused path failure) : ∃ first, loadFiles host base listed = .error first := by
  cases hloaded : loadFiles host base listed with
  | error first => exact ⟨first, rfl⟩
  | ok config =>
      obtain ⟨configs, hreads, -⟩ := loadFiles_eq_ok_iff.1 hloaded
      obtain ⟨config, hfile⟩ := hreads.exists_fromFile hpath hexists
      cases hfile.symm.trans (fromFile_of_refused h)

/-- A blank file counts as one that is not in the list. -/
theorem loadFiles_of_blank (hexists : host.files.exists? path = .ok true) (h : host.HoldsBlank path)
    (before after : List Path) :
    loadFiles host base (before ++ path :: after) = loadFiles host base (before ++ after) := by
  induction before generalizing base with
  | nil =>
      rw [List.nil_append, List.nil_append, loadFiles_present hexists (fromFile_of_blank h)]
      rfl
  | cons first before ih => simp only [List.cons_append, loadFiles, ih]

/-! ### Loading -/

theorem load_eq (hlisted : pathsOr host environment paths = .ok listed) :
    load host environment paths
      = loadFiles host [] listed >>= fun merged => .ok (merge merged (ofEnvironment environment)) := by
  rw [load, hlisted]
  rfl

/-- Neither the environment nor the settings stop the loading of a configuration. -/
theorem load_eq_error_iff (hlisted : pathsOr host environment paths = .ok listed) :
    load host environment paths = .error failure ↔ StopsFirst host [] listed failure := by
  rw [load_eq hlisted, ← loadFiles_eq_error_iff, bind_eq_error]
  constructor
  · rintro (h | ⟨merged, -, h⟩)
    · exact h
    · cases h
  · exact .inl

theorem load_settings_of_error (h : load host environment paths = .error failure) :
    LoadedSettings.load host environment paths = .error failure :=
  bind_eq_error.2 (.inl h)

theorem load_settings_congr {others : Option (List Path)}
    (h : load host environment paths = load host environment others) :
    LoadedSettings.load host environment paths = LoadedSettings.load host environment others := by
  rw [LoadedSettings.load, LoadedSettings.load, h]

/-- Let a file exist that holds no configuration. If it is not blank, loading a configuration and loading settings stop there or before, with the same failure. If it is blank, it is ignored, wherever it stands in the list. And both fail as a caller expects exactly if what stops them first is such a failure. -/
theorem refuses_bad_files (host : Host) (environment : Environment) (paths : Option (List Path))
    (listed : List Path) (hlisted : pathsOr host environment paths = .ok listed) (path : Path) (hpath : path ∈ listed)
    (hexists : host.files.exists? path = .ok true) (hbad : ∀ config, ¬ host.HoldsConfig path config) :
    (¬ host.HoldsBlank path → ∃ failure, StopsFirst host [] listed failure
        ∧ load host environment paths = .error failure ∧ LoadedSettings.load host environment paths = .error failure)
    ∧ (host.HoldsBlank path → ∀ before after, listed = before ++ path :: after →
        load host environment paths = load host environment (some (before ++ after))
        ∧ LoadedSettings.load host environment paths = LoadedSettings.load host environment (some (before ++ after)))
    ∧ ((∃ failure, load host environment paths = .error failure ∧ failure.IsExpected)
        ∧ (∃ failure, LoadedSettings.load host environment paths = .error failure ∧ failure.IsExpected)
      ↔ ∃ failure, StopsFirst host [] listed failure ∧ failure.IsExpected) := by
  simp only [← load_eq_error_iff hlisted]
  refine ⟨fun hblank => ?_, fun hblank before after hsplit => ?_, And.left, fun h => ⟨h, ?_⟩⟩
  · obtain ⟨refusal, hrefused⟩ : ∃ refusal, host.Refused path refusal := by
      rcases file_cases host path with ⟨config, hconfig, -⟩ | hholds | hrefused
      · exact absurd hconfig (hbad config)
      · exact absurd hholds hblank
      · exact hrefused
    obtain ⟨first, hfirst⟩ := exists_failure_of_refused hpath hexists hrefused
    have hload := (load_eq_error_iff hlisted).2 (loadFiles_eq_error_iff.1 hfirst)
    exact ⟨first, hload, hload, load_settings_of_error hload⟩
  · have hskip : load host environment paths = load host environment (some (before ++ after)) := by
      rw [load_eq hlisted, hsplit, loadFiles_of_blank hexists hblank before after]
      rfl
    exact ⟨hskip, load_settings_congr hskip⟩
  · obtain ⟨failure, hload, hexpected⟩ := h
    exact ⟨failure, load_settings_of_error hload, hexpected⟩

def mixedFiles : Host :=
  .ofTexts [("a.yaml", "fuzziness: two"), ("b.yaml", "[]"), ("c.yaml", "- fuzziness")]

/-- The list stops the loading behind all other files, and the blank file is ignored. -/
theorem refuses_bad_files_mixedFiles :
    (∃ failure, LoadedSettings.load mixedFiles []
        (some [.ofText "a.yaml", .ofText "b.yaml", .ofText "d.yaml", .ofText "c.yaml"]) = .error failure
        ∧ failure.IsExpected)
      ∧ LoadedSettings.load mixedFiles [] (some [.ofText "a.yaml", .ofText "b.yaml", .ofText "d.yaml"])
        = LoadedSettings.load mixedFiles [] (some [.ofText "a.yaml", .ofText "d.yaml"]) := by
  have hlist : mixedFiles.ReadAs (.ofText "c.yaml") (.list [.scalar (.text "fuzziness")]) :=
    Host.readAs_of_text "- fuzziness" (by decide +kernel) (by decide +kernel)
  have hempty : mixedFiles.ReadAs (.ofText "b.yaml") (.list []) :=
    Host.readAs_of_text "[]" (by decide +kernel) (by decide +kernel)
  obtain ⟨hstops, -, hexpected⟩ := refuses_bad_files mixedFiles []
    (some [.ofText "a.yaml", .ofText "b.yaml", .ofText "d.yaml", .ofText "c.yaml"]) _ rfl (.ofText "c.yaml")
    (by decide) (by decide +kernel) (hlist.not_holdsConfig (by decide) (by decide))
  obtain ⟨-, hignored, -⟩ := refuses_bad_files mixedFiles []
    (some [.ofText "a.yaml", .ofText "b.yaml", .ofText "d.yaml"]) _ rfl (.ofText "b.yaml")
    (by decide) (by decide +kernel) (hempty.not_holdsConfig (by decide) (by decide))
  constructor
  · have hnot : ¬ mixedFiles.HoldsBlank (.ofText "c.yaml") := by
      rintro ⟨value, hvalue, hblank, -⟩
      rw [← hlist.unique hvalue] at hblank
      exact absurd hblank (by decide)
    obtain ⟨failure, hfirst, hload, -⟩ := hstops hnot
    have hfailure : load mixedFiles [] (some [.ofText "a.yaml", .ofText "b.yaml", .ofText "d.yaml", .ofText "c.yaml"])
        = .error (.notAMap (.ofText "c.yaml")) := by decide +kernel
    cases hload.symm.trans hfailure
    exact (hexpected.2 ⟨_, hfirst, trivial⟩).2
  · have hblank : mixedFiles.HoldsBlank (.ofText "b.yaml") := ⟨_, hempty, by decide, by decide, by decide⟩
    exact (hignored hblank [.ofText "a.yaml"] [.ofText "d.yaml"] rfl).2

def listFile : Host :=
  .ofTexts [("a.yaml", "[]")]

/-- A file that holds no word for a flag where its tag wants one. -/
def flagFile : Host :=
  .ofTexts [("a.yaml", "!!bool maybe")]

/-- A file with lists in each other, and room for fewer calls than it takes to read them. -/
def deepFile : Host :=
  { Host.ofTexts [("a.yaml", "[[[[1]]]]")] with readingRoom := 6 }

/-- A file that holds a number, and a folder that may not be searched. -/
def barredFolder : Host :=
  .ofFiles ⟨.folder [("a.yaml", .file [0x31]), ("private", .folder [] { maySearch := false })], []⟩

/-- An empty list is no configuration, and is not refused. Other files are refused, but not as a caller expects: a scalar without a value, lists that are nested too deep, and a number behind a path of which it cannot be told whether there is a file. -/
theorem load_listFile :
    (listFile.files.exists? (.ofText "a.yaml") = .ok true
        ∧ (∀ config, ¬ listFile.HoldsConfig (.ofText "a.yaml") config)
        ∧ load listFile [] (some [.ofText "a.yaml"]) = .ok []
        ∧ LoadedSettings.load listFile [] (some [.ofText "a.yaml"]) = .ok .initial)
      ∧ (∃ failure, load flagFile [] (some [.ofText "a.yaml"]) = .error failure ∧ ¬ failure.IsExpected)
      ∧ (∃ failure, load deepFile [] (some [.ofText "a.yaml"]) = .error failure ∧ ¬ failure.IsExpected)
      ∧ ∃ failure, load barredFolder [] (some [.ofText "private/b.yaml", .ofText "a.yaml"]) = .error failure
        ∧ ¬ failure.IsExpected := by
  have hempty : listFile.ReadAs (.ofText "a.yaml") (.list []) :=
    Host.readAs_of_text "[]" (by decide +kernel) (by decide +kernel)
  refine ⟨⟨by decide +kernel, hempty.not_holdsConfig (by decide) (by decide), by decide +kernel, by decide +kernel⟩,
    ?_, ?_, ?_⟩
  · exact ⟨.document (.notAFlag ("maybe".toList.map .char)), by decide +kernel, id⟩
  · exact ⟨.document .tooDeep, by decide +kernel, id⟩
  · exact ⟨.uncertain .notAllowed (.ofText "private/b.yaml"), by decide +kernel, id⟩

end Config

end RegistrySearch
