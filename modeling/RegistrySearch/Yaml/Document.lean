import RegistrySearch.Yaml.Value

/-!
# YAML documents

The value of a YAML text that holds one document: its characters are checked, then it is read as tokens and nodes, and the node of the document is valued. The first of these steps that fails decides what is reported.
-/

namespace RegistrySearch

namespace Yaml

def isAllowed (c : Char) : Bool :=
  let n := c.toNat
  c = '\t' || c = '\n' || (0x20 ≤ n && n ≤ 0x7E) || n = 0x85 || (0xA0 ≤ n && n ≤ 0xFFFD) || 0x10000 ≤ n

/-- A text with every line feed, carriage return, or pair of them as one line feed. -/
def withLineFeeds : List Char → List Char
  | [] => []
  | '\r' :: '\n' :: rest => '\n' :: withLineFeeds rest
  | '\r' :: rest => '\n' :: withLineFeeds rest
  | c :: rest => c :: withLineFeeds rest

/-- The value of a text that holds one document, read with room for so many nested calls. A text without any holds nothing, and a value that contains itself is written out to a depth. -/
def document (room depth : Nat) (text : List Char) : Outcome ConfigValue :=
  let text := withLineFeeds text
  if text.all isAllowed then do
    let graph ← Graph.ofTokens room (.ofText text)
    graph.value room depth
  else .error .malformed

end Yaml

end RegistrySearch
