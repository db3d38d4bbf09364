import RegistrySearch.Proofs.Config.Overlap

/-!
# What is loaded

The files of a list of paths are looked at one after the other, and those that exist are laid over what was there before. `Host.Reads` says what is read of them. Loading ends well exactly if all of them can be read and merged, and then it comes to what the files hold and the environment, all merged (`Config.load_eq_ok_iff`).
-/

namespace RegistrySearch

/-- What is read from the existing files of a list of paths. -/
inductive Host.Reads (host : Host) : List Path → List Config → Prop
  | nil : Reads host [] []
  | absent {path : Path} {paths : List Path} {configs : List Config} (hpath : host.files.exists? path = .ok false)
      (hrest : Reads host paths configs) : Reads host (path :: paths) configs
  | present {path : Path} {paths : List Path} {config : Config} {configs : List Config}
      (hpath : host.files.exists? path = .ok true) (hfile : Config.fromFile host path = .ok config)
      (hrest : Reads host paths configs) : Reads host (path :: paths) (config :: configs)

namespace Config

variable {host : Host} {environment : Environment} {path : Path} {paths : List Path} {configs : List Config}
  {base config : Config}

theorem loadFiles_absent (hpath : host.files.exists? path = .ok false) (paths : List Path) :
    loadFiles host base (path :: paths) = loadFiles host base paths := by
  rw [loadFiles, hpath]
  rfl

theorem loadFiles_uncertain {fault : ReadFault} (hpath : host.files.exists? path = .error fault) (paths : List Path) :
    loadFiles host base (path :: paths) = .error (.uncertain fault path) := by
  rw [loadFiles, hpath]
  rfl

theorem loadFiles_present (hpath : host.files.exists? path = .ok true) (hfile : fromFile host path = .ok config)
    (paths : List Path) :
    loadFiles host base (path :: paths)
      = layer host.mergingRoom base config >>= fun merged => loadFiles host merged paths := by
  rw [loadFiles, hpath, hfile]
  rfl

/-- What the first files of a list hold is merged before the others are looked at. -/
theorem loadFiles_append {before after : List Path} (hreads : host.Reads before configs)
    (hend : LayersEnd host.mergingRoom base configs) :
    loadFiles host base (before ++ after) = loadFiles host (configs.foldl merge base) after := by
  induction hreads generalizing base with
  | nil => rfl
  | absent hpath _ ih =>
      rw [List.cons_append, loadFiles_absent hpath]
      exact ih hend
  | present hpath hfile _ ih =>
      obtain ⟨hover, hend⟩ := layersEnd_cons_iff.1 hend
      rw [List.cons_append, loadFiles_present hpath hfile, layer_eq_ok_iff.2 ⟨hover, rfl⟩]
      exact ih hend

theorem exists_reads_of_loadFiles (h : loadFiles host base paths = .ok config) :
    ∃ configs, host.Reads paths configs ∧ LayersEnd host.mergingRoom base configs ∧ config = configs.foldl merge base := by
  induction paths generalizing base with
  | nil =>
      cases h
      exact ⟨[], .nil, layersEnd_nil, rfl⟩
  | cons path paths ih =>
      obtain ⟨answer, hanswer, hrest⟩ := bind_eq_ok.1 h
      rw [mapError_eq_ok] at hanswer
      cases answer with
      | false =>
          obtain ⟨configs, hreads, hend, hconfig⟩ := ih hrest
          exact ⟨configs, .absent hanswer hreads, hend, hconfig⟩
      | true =>
          obtain ⟨next, hfile, hrest⟩ := bind_eq_ok.1 hrest
          obtain ⟨merged, hlayer, hrest⟩ := bind_eq_ok.1 hrest
          obtain ⟨hover, rfl⟩ := layer_eq_ok_iff.1 hlayer
          obtain ⟨configs, hreads, hend, hconfig⟩ := ih hrest
          exact ⟨next :: configs, .present hanswer hfile hreads, layersEnd_cons_iff.2 ⟨hover, hend⟩, hconfig⟩

theorem loadFiles_eq_ok_iff :
    loadFiles host base paths = .ok config
      ↔ ∃ configs, host.Reads paths configs ∧ LayersEnd host.mergingRoom base configs
        ∧ config = configs.foldl merge base := by
  refine ⟨exists_reads_of_loadFiles, ?_⟩
  rintro ⟨configs, hreads, hend, rfl⟩
  rw [← List.append_nil paths, loadFiles_append hreads hend]
  rfl

/-- What is loaded is what the files hold and then the environment, all merged at once. -/
theorem load_eq_ok_iff {paths : Option (List Path)} :
    load host environment paths = .ok config
      ↔ ∃ listed configs, pathsOr host environment paths = .ok listed ∧ host.Reads listed configs
        ∧ LayersEnd host.mergingRoom [] configs ∧ config = mergeAll (configs ++ [ofEnvironment environment]) := by
  simp only [load, bind_eq_ok, loadFiles_eq_ok_iff, mergeAll_append, pure_eq_ok]
  constructor
  · rintro ⟨listed, hlisted, merged, ⟨configs, hreads, hend, rfl⟩, rfl⟩
    exact ⟨listed, configs, hlisted, hreads, hend, rfl⟩
  · rintro ⟨listed, configs, hlisted, hreads, hend, rfl⟩
    exact ⟨listed, hlisted, _, ⟨configs, hreads, hend, rfl⟩, rfl⟩

end Config

end RegistrySearch
