import RegistrySearch.Json.Basic

/-!
# Compiler settings

How searches are compiled. The defaults fit the layout that the indexing service writes.
-/

namespace RegistrySearch

structure Settings where
  /-- The path below which the fields of the declaration form are indexed. -/
  declarationNamespace : String := "declaration"
  /-- The subfield of a name field that holds the full name. -/
  fullnameSubfield : String := "__fullname"
  fuzziness : String := "AUTO"
  cacheNameFields : Bool := true
deriving DecidableEq, Repr, Inhabited

namespace Settings

def toJson (settings : Settings) : Json :=
  .obj [("declaration_namespace", .str settings.declarationNamespace),
    ("fullname_subfield", .str settings.fullnameSubfield), ("fuzziness", .str settings.fuzziness),
    ("cache_name_fields", .bool settings.cacheNameFields)]

end Settings

end RegistrySearch
