/-!
# Room for nested calls

Calls can be nested only so deep, however deep the data are nested that they work on. A computation in `Nesting m` is told how many of its calls may lie in each other, and fails where it would need one more.
-/

namespace RegistrySearch

abbrev Nesting (m : Type → Type) := ReaderT Nat m

/-- A call inside of others, which fails if there is no room for it. -/
def nested {ε α : Type} {m : Type → Type} [MonadExceptOf ε m] (failure : ε) (call : Nesting m α) : Nesting m α
  | 0 => throw failure
  | room + 1 => call room

end RegistrySearch
