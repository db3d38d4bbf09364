/-!
# Texts with separators
-/

namespace RegistrySearch

/-- The parts of a text between separators; a text without any is its only part. -/
def splitAtEach {α : Type} [DecidableEq α] (separator : α) : List α → List (List α)
  | [] => [[]]
  | c :: rest =>
    if c = separator then [] :: splitAtEach separator rest
    else match splitAtEach separator rest with
      | part :: parts => (c :: part) :: parts
      | [] => [[c]]

end RegistrySearch
