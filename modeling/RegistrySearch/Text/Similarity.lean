/-!
# Similarity of words

How alike two words are is twice the length of their longest common subsequence over the sum of their lengths. Scores are compared as fractions, so that a score of exactly three fifths is at least three fifths. `closest?` finds the word of a list that is most like a given one, if any is similar enough to be what was meant.
-/

namespace RegistrySearch

namespace Similarity

/-- One more row of the table of common lengths: `row` holds an entry for each suffix of `bs`, longest first, and the result holds the entries for the word with `a` before it. -/
def nextRow (a : Char) : (bs : List Char) → (row : List Nat) → List Nat
  | [], _ => [0]
  | b :: bs, row =>
    let next := nextRow a bs row.tail
    (if a = b then row.tail.headD 0 + 1 else max (row.headD 0) (next.headD 0)) :: next

/-- The lengths of the longest common subsequences of `as` with each suffix of `bs`. -/
def commonRow : (as bs : List Char) → List Nat
  | [], bs => List.replicate (bs.length + 1) 0
  | a :: as, bs => nextRow a bs (commonRow as bs)

/-- How alike two words are, as the numerator and the denominator of a fraction between zero and one. -/
structure Score where
  shared : Nat
  total : Nat
deriving DecidableEq, Repr

def score (a b : String) : Score where
  shared := 2 * (commonRow a.toList b.toList).headD 0
  total := a.length + b.length

def Score.exceeds (x y : Score) : Bool :=
  y.shared * x.total < x.shared * y.total

def Score.suffices (x : Score) : Bool :=
  3 * x.total ≤ 5 * x.shared

def best (word : String) : String → List String → String
  | found, [] => found
  | found, candidate :: rest =>
    if (score word candidate).exceeds (score word found) then best word candidate rest else best word found rest

/-- The word of a list that is most like a given word and similar enough to it; of several, the first. A word that is in the list is like no other. -/
def closest? (word : String) (known : List String) : Option String :=
  if word ∈ known then none
  else match known with
    | [] => none
    | first :: rest =>
      let found := best word first rest
      if (score word found).suffices then some found else none

end Similarity

end RegistrySearch
