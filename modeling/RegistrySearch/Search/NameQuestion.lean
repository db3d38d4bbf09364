import RegistrySearch.Search.Compile

/-!
# Questions about name fields

Which declaration fields hold a name can be asked without compiling a search: all of them, or whether one id is among them. A compiler answers such questions from its memo as it does while compiling, one after the other, each with the memo that the one before left.
-/

namespace RegistrySearch

inductive NameQuestion where
  | nameFields (catalog : Catalog)
  | isNameField (id : String) (catalog : Catalog)
  /-- What was found out about catalogs is to be dropped. -/
  | forget
deriving DecidableEq

inductive NameAnswer where
  | nameFields (ids : List String)
  | isNameField (holds : Bool)
  | forgotten
deriving DecidableEq

namespace Compiler

def isNameField (compiler : Compiler) (id : String) (catalog : Catalog) : Compilation Bool := do
  let ids ← compiler.nameFields catalog
  return ids.contains id

def answer (compiler : Compiler) : NameQuestion → Compilation NameAnswer
  | .nameFields catalog => do return .nameFields (← compiler.nameFields catalog)
  | .isNameField id catalog => do return .isNameField (← compiler.isNameField id catalog)
  | .forget => fun _ => ⟨.ok .forgotten, Memo.empty, []⟩

/-- The memo after some questions, of which the first one finds it empty. -/
def memoAfter (compiler : Compiler) (questions : List NameQuestion) : Memo :=
  questions.foldl (fun memo question => ((compiler.answer question).run memo).memo) Memo.empty

end Compiler

end RegistrySearch
