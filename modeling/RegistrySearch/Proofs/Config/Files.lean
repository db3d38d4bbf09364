import RegistrySearch.Config.Files
import RegistrySearch.Proofs.Except

/-!
# Where paths lead

Following a path fails at the first part that leads nowhere, and the fault says why. For most faults nothing lies at the path. There are two after which something may: the path is too long, or it leads through a folder that may not be searched (`FileSystem.exists?_eq_error`). Whatever can be read exists.
-/

namespace RegistrySearch

namespace Place

/-- The faults of following a path are not those of reading what lies there. -/
abbrev FailsOnTheWay {α : Type} (outcome : Except ReadFault α) : Prop :=
  FailsOnly (fun fault => fault ≠ .isAFolder) outcome

theorem failsOnTheWay_enter (place : Place) (part : String) : FailsOnTheWay (place.enter part) := by
  unfold enter
  split
  · split_ifs
    · exact failsOnly_error (by decide)
    · exact failsOnly_error (by decide)
    · exact failsOnly_ok _
    · split
      · exact failsOnly_ok _
      · exact failsOnly_error (by decide)
  · exact failsOnly_error (by decide)

theorem failsOnTheWay_walk {jump : Place → Path → List String → Except ReadFault Place}
    (hjump : ∀ folder target rest, FailsOnTheWay (jump folder target rest)) (place : Place) (parts : List String) :
    FailsOnTheWay (walk jump place parts) := by
  induction parts generalizing place with
  | nil => exact failsOnly_ok _
  | cons part rest ih =>
      refine (failsOnTheWay_enter place part).bind fun next => ?_
      split
      · exact hjump _ _ _
      · exact ih next

theorem failsOnTheWay_follow (root : Place) (links : Nat) (place : Place) (parts : List String) :
    FailsOnTheWay (follow root links place parts) := by
  induction links generalizing place parts with
  | zero => exact failsOnTheWay_walk (fun _ _ _ => failsOnly_error (by decide)) place parts
  | succ links ih => exact failsOnTheWay_walk (fun _ _ _ => ih _ _) place parts

/-- Where the first part of a path cannot be followed, the path cannot. -/
theorem follow_cons_error {place : Place} {part : String} {fault : ReadFault} (h : place.enter part = .error fault)
    (root : Place) (links : Nat) (rest : List String) : follow root links place (part :: rest) = .error fault := by
  cases links with
  | zero => simp only [follow, walk, h, bind, Except.bind]
  | succ links => simp only [follow, walk, h, bind, Except.bind]

end Place

namespace FileSystem

variable {files : FileSystem} {path : Path} {fault : ReadFault} {octets : List UInt8}

theorem failsOnTheWay_start (files : FileSystem) (path : Path) : Place.FailsOnTheWay (files.start path) := by
  simp only [start]
  split
  · exact failsOnly_ok _
  · split
    · exact failsOnly_ok _
    · exact failsOnly_error (by decide)

theorem failsOnTheWay_find (files : FileSystem) (path : Path) : Place.FailsOnTheWay (files.find path) := by
  unfold find
  split_ifs
  · exact failsOnly_error (by decide)
  · exact failsOnly_error (by decide)
  · refine (failsOnTheWay_start files path).bind fun place => ?_
    exact (Place.failsOnTheWay_follow _ _ _ _).bind fun _ => failsOnly_ok _

theorem exists?_eq_error_iff :
    files.exists? path = .error fault ↔ files.find path = .error fault ∧ fault.isAbsence = false := by
  unfold exists?
  cases files.find path with
  | ok tree => simp
  | error other =>
      cases habsence : other.isAbsence with
      | true =>
          refine iff_of_false (by simp [habsence]) ?_
          rintro ⟨hfault, hpresent⟩
          cases hfault
          cases habsence.symm.trans hpresent
      | false =>
          simp only [habsence, Bool.false_eq_true, if_false, Except.error.injEq]
          exact ⟨fun h => ⟨h, h ▸ habsence⟩, And.left⟩

/-- It cannot be told whether something lies at a path only if the path is too long, or leads through a folder that may not be searched. -/
theorem exists?_eq_error (h : files.exists? path = .error fault) : fault = .nameTooLong ∨ fault = .notAllowed := by
  obtain ⟨hfind, hpresent⟩ := exists?_eq_error_iff.1 h
  have hway : fault ≠ .isAFolder := failsOnTheWay_find files path fault hfind
  cases fault with
  | nameTooLong => exact .inl rfl
  | notAllowed => exact .inr rfl
  | isAFolder => exact absurd rfl hway
  | _ => cases hpresent

/-- What can be read exists. -/
theorem exists?_of_read (h : files.read path = .ok octets) : files.exists? path = .ok true := by
  obtain ⟨tree, htree, -⟩ := bind_eq_ok.1 h
  rw [exists?, htree]

end FileSystem

end RegistrySearch
