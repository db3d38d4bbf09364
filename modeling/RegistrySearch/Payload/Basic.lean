import RegistrySearch.Json.Reader

/-!
# Payloads

What a query or an event catalog is read from.
-/

namespace RegistrySearch

inductive Payload where
  /-- A decoded value. A string among these is JSON text. -/
  | value (value : Json)
  | text (text : String)
  | octets (octets : List UInt8)

namespace Payload

def decoded : Payload → Except TextFault Json
  | value (.str s) => Json.ofText s
  | value v => .ok v
  | text s => Json.ofText s
  | octets o => Json.ofOctets o

end Payload

end RegistrySearch
