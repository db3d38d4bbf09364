/-!
# Field ids in index paths

A field id may contain dots, which the search engine would read as nesting. In an index path every dot of an id is written as a separator of four underscores. Decoding replaces separators by dots from left to right, so it gives an id back unless the id held a separator of its own, or an underscore right before a dot.
-/

namespace RegistrySearch

namespace FieldId

def separator : List Char := ['_', '_', '_', '_']

def encodeChars (id : List Char) : List Char :=
  id.flatMap fun c => if c = '.' then separator else [c]

def decodeChars : List Char → List Char
  | '_' :: '_' :: '_' :: '_' :: rest => '.' :: decodeChars rest
  | c :: rest => c :: decodeChars rest
  | [] => []

/-- The segment of an index path that stands for a field id. -/
def encode (id : String) : String :=
  String.ofList (encodeChars id.toList)

/-- The field id that a segment of an index path stands for. -/
def decode (segment : String) : String :=
  String.ofList (decodeChars segment.toList)

end FieldId

end RegistrySearch
