import RegistrySearch.Search.Compile

/-!
# Searches in a row

A search can bring settings and an encoding of field ids of its own. It is then compiled by a compiler that starts with an empty memo. A search without choices of its own goes through one shared compiler with the usual choices, so what that compiler finds out about a catalog is there for later searches.

A compiler with any choices can be kept as well. It then answers one request after the other, each with the memo that the one before left.
-/

namespace RegistrySearch

/-- A query to be compiled against a catalog, with the choices that it brings. -/
structure Search where
  query : Query
  catalog : Catalog
  settings : Option Settings := none
  encodeId : Option (String → String) := none

namespace Search

def compiler (search : Search) : Compiler where
  settings := search.settings.getD {}
  encodeId := search.encodeId.getD FieldId.encode

def isPlain (search : Search) : Bool :=
  search.settings.isNone && search.encodeId.isNone

/-- The compilation of a search. It is given the memo of the shared compiler, and leaves it as it is unless the search is plain. -/
def compiled (search : Search) : Compilation Document := fun shared =>
  if search.isPlain then search.compiler.compile search.query search.catalog shared
  else { search.compiler.compile search.query search.catalog Memo.empty with memo := shared }

/-- The memo of the shared compiler after some searches. -/
def sharedAfter (earlier : List Search) : Memo :=
  earlier.foldl (fun shared search => (search.compiled shared).memo) Memo.empty

end Search

/-! ### A compiler that is kept -/

inductive Request where
  | compile (query : Query) (catalog : Catalog)
  | forget

namespace Compiler

def respond (compiler : Compiler) : Request → Compilation (Option Document)
  | .compile query catalog => do return some (← compiler.compile query catalog)
  | .forget => fun _ => ⟨.ok none, Memo.empty, []⟩

/-- The outcomes of requests in a row. Each starts from the memo that the one before left, also if that one failed. -/
def session (compiler : Compiler) : Memo → List Request → List (Outcome (Option Document))
  | _, [] => []
  | memo, request :: rest =>
    let outcome := (compiler.respond request).run memo
    outcome :: compiler.session outcome.memo rest

end Compiler

end RegistrySearch
