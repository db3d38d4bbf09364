import RegistrySearch.Proofs.Search.Direct

/-!
# Answers do not depend on the history

A compiler that is kept answers many requests, and its memo changes with every one of them: an answer is found in it, put into it, pushed out of it or dropped. None of this shows in what a request comes to. The reason is the invariant of `Memo.Faithful`. A single request keeps it and comes to what the direct compilation gives (`Compiler.yields_respond`); so do all requests of a session, whatever they are and whether they fail or not (`Compiler.session_results`).

The direct compilation neither has a memo nor looks at the choice of having one. So the answers of a session are those of a new compiler for each request, and those of a compiler that remembers nothing.
-/

namespace RegistrySearch

open Compilation

namespace Compiler

variable (compiler : Compiler)

/-- The compiler that looks for the name fields of a catalog anew each time. -/
def withoutMemo : Compiler :=
  { compiler with settings := { compiler.settings with cacheNameFields := false } }

/-- What a request comes to, without a memo. -/
def directResponse : Request → Except CompileFailure (Option Document)
  | .compile query catalog => some <$> compiler.direct (nameFieldIds compiler.lookup catalog.events) query
  | .forget => .ok none

theorem directResponse_withoutMemo (request : Request) :
    compiler.withoutMemo.directResponse request = compiler.directResponse request := by
  cases request with
  | compile query catalog => rfl
  | forget => rfl

/-! ### One request and a session of them -/

theorem yields_respond (request : Request) :
    (compiler.respond request).Yields compiler.lookup (compiler.directResponse request) := by
  cases request with
  | compile query catalog =>
      have hdocument := (compiler.yields_compile catalog query).bind fun document =>
        @yields_pure _ compiler.lookup (some document)
      rw [directResponse, map_eq_pure_bind]
      exact hdocument
  | forget =>
      intro memo _
      exact ⟨rfl, Memo.faithful_empty⟩

theorem respond_result {memo : Memo} (h : memo.Faithful compiler.lookup) (request : Request) :
    ((compiler.respond request).run memo).result = compiler.directResponse request :=
  (compiler.yields_respond request memo h).1

theorem session_results {memo : Memo} (h : memo.Faithful compiler.lookup) (requests : List Request) :
    (compiler.session memo requests).map Outcome.result = requests.map compiler.directResponse := by
  -- The memo changes from request to request; that it is faithful is all that is needed of it, and that stays.
  induction requests generalizing memo with
  | nil => rfl
  | cons request requests ih =>
      have hfirst := compiler.respond_result h request
      have hafter : ((compiler.respond request).run memo).memo.Faithful compiler.lookup :=
        (compiler.yields_respond request memo h).2
      rw [session, List.map_cons, List.map_cons, hfirst, ih hafter]

end Compiler

/-- In a session every request comes to what it comes to on its own, with a memo or without one. So a search without choices of its own is compiled by the shared compiler, after any searches, as by a new compiler with the usual settings. -/
theorem history_changes_no_answer :
    (∀ (compiler : Compiler) (requests : List Request),
      (compiler.session Memo.empty requests).map Outcome.result
          = requests.map (fun request => ((compiler.respond request).run Memo.empty).result)
        ∧ (compiler.session Memo.empty requests).map Outcome.result
          = requests.map fun request => ((compiler.withoutMemo.respond request).run Memo.empty).result)
    ∧ ∀ (query : Query) (catalog : Catalog) (earlier : List Search),
      ((Search.compiled { query, catalog }).run (Search.sharedAfter earlier)).result
        = ((Search.compiled { query, catalog, settings := some {} }).run (Search.sharedAfter earlier)).result := by
  constructor
  · intro compiler requests
    have hsession := compiler.session_results Memo.faithful_empty requests
    have halone : ∀ request, ((compiler.respond request).run Memo.empty).result = compiler.directResponse request :=
      compiler.respond_result Memo.faithful_empty
    have hwithout : ∀ request, ((compiler.withoutMemo.respond request).run Memo.empty).result
        = compiler.directResponse request := by
      intro request
      rw [compiler.withoutMemo.respond_result Memo.faithful_empty, compiler.directResponse_withoutMemo]
    simp only [hsession, halone, hwithout, and_self]
  · intro query catalog earlier
    rw [Search.compiled_result, Search.compiled_result]
    rfl

end RegistrySearch
