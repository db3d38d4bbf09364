import RegistrySearch.Proofs.Json.RoundTrip

/-!
# The grammar of JSON text

Which texts are JSON, said without the reader and the writer: each rule of the grammar is an inductive predicate on characters. White space may stand around every value and every key. The text that is written for a value without numbers obeys the grammar (`Json.NumberFree.isJson_write`), whatever the characters of its strings are.
-/

namespace RegistrySearch

namespace Json

namespace Grammar

def Space (s : List Char) : Prop :=
  ∀ c ∈ s, c ∈ [' ', '\t', '\n', '\r']

/-! ### Strings and numbers -/

def HexDigit (c : Char) : Prop :=
  c ∈ "0123456789abcdefABCDEF".toList

/-- What stands for one character of a string, or for half of one. -/
inductive Unit : List Char → Prop
  | unescaped {c : Char} (hcontrol : 0x20 ≤ c.toNat) (hquote : c ≠ '"') (hslash : c ≠ '\\') : Unit [c]
  | short {c : Char} (h : c ∈ ['"', '\\', '/', 'b', 'f', 'n', 'r', 't']) : Unit ['\\', c]
  | hex {a b c d : Char} (ha : HexDigit a) (hb : HexDigit b) (hc : HexDigit c) (hd : HexDigit d) :
    Unit ['\\', 'u', a, b, c, d]

inductive Content : List Char → Prop
  | nil : Content []
  | cons {first rest : List Char} (hfirst : Unit first) (hrest : Content rest) : Content (first ++ rest)

inductive Quoted : List Char → Prop
  | mk {content : List Char} (h : Content content) : Quoted ('"' :: (content ++ ['"']))

def Digits (s : List Char) : Prop :=
  s ≠ [] ∧ ∀ c ∈ s, c ∈ "0123456789".toList

inductive Fraction : List Char → Prop
  | nil : Fraction []
  | point {digits : List Char} (h : Digits digits) : Fraction ('.' :: digits)

inductive Exponent : List Char → Prop
  | nil : Exponent []
  | mk {mark : Char} {sign digits : List Char} (hmark : mark ∈ ['e', 'E']) (hsign : sign ∈ [[], ['-'], ['+']])
    (h : Digits digits) : Exponent (mark :: (sign ++ digits))

/-- A number. Its whole part has no leading zeros. -/
inductive Number : List Char → Prop
  | mk {sign whole fraction exponent : List Char} (hsign : sign ∈ [[], ['-']]) (hwhole : Digits whole)
    (hzero : whole.head? = some '0' → whole = ['0']) (hfraction : Fraction fraction) (hexponent : Exponent exponent) :
    Number (sign ++ whole ++ fraction ++ exponent)

/-! ### Values -/

/-- A part with white space around it. -/
inductive Padded (P : List Char → Prop) : List Char → Prop
  | mk {before part after : List Char} (hbefore : Space before) (hpart : P part) (hafter : Space after) :
    Padded P (before ++ part ++ after)

/-- One or more parts with commas between them. -/
inductive Separated (P : List Char → Prop) : List Char → Prop
  | last {part : List Char} (hpart : P part) : Separated P part
  | more {part rest : List Char} (hpart : P part) (hrest : Separated P rest) : Separated P (part ++ ',' :: rest)

/-- Two parts with a colon between them. -/
inductive Paired (P Q : List Char → Prop) : List Char → Prop
  | mk {key value : List Char} (hkey : P key) (hvalue : Q value) : Paired P Q (key ++ ':' :: value)

inductive Value : List Char → Prop
  | keyword {s : List Char} (h : s ∈ ["null".toList, "true".toList, "false".toList]) : Value s
  | number {s : List Char} (h : Number s) : Value s
  | string {s : List Char} (h : Quoted s) : Value s
  | emptyArray {s : List Char} (h : Space s) : Value ('[' :: (s ++ [']']))
  | array {s : List Char} (h : Separated (Padded Value) s) : Value ('[' :: (s ++ [']']))
  | emptyObject {s : List Char} (h : Space s) : Value ('{' :: (s ++ ['}']))
  | object {s : List Char} (h : Separated (Paired (Padded Quoted) (Padded Value)) s) : Value ('{' :: (s ++ ['}']))

end Grammar

/-- The text is JSON. -/
def IsJson (text : List Char) : Prop :=
  Grammar.Padded Grammar.Value text

/-! ### Written text -/

namespace Grammar

theorem space_nil : Space [] := by
  intro c hc
  cases hc

theorem Padded.bare {P : List Char → Prop} {s : List Char} (h : P s) : Padded P s := by
  have hpadded := Padded.mk space_nil h space_nil
  rwa [List.nil_append, List.append_nil] at hpadded

theorem hexDigit_digitChar : ∀ n < 16, HexDigit (Nat.digitChar n) := by
  unfold HexDigit
  decide

theorem unit_writeChar (c : Char) : Unit (writeChar c) := by
  unfold writeChar
  split
  · exact .short (by decide)
  split
  · exact .short (by decide)
  split
  · exact .short (by decide)
  split
  · exact .short (by decide)
  split
  · exact .short (by decide)
  split
  · exact .short (by decide)
  split
  · exact .short (by decide)
  split
  · have hzero : HexDigit '0' := hexDigit_digitChar 0 (by decide)
    exact .hex hzero hzero (hexDigit_digitChar _ (by omega)) (hexDigit_digitChar _ (by omega))
  · rename_i hquote hslash _ _ _ _ _ hcontrol
    exact .unescaped (by omega) hquote hslash

theorem quoted_writeString (s : String) : Quoted (writeString s) := by
  have hcontent : ∀ cs : List Char, Content (cs.flatMap writeChar) := by
    intro cs
    induction cs with
    | nil => exact .nil
    | cons c cs ih => exact .cons (unit_writeChar c) ih
  exact .mk (hcontent s.toList)

mutual

theorem value_write : (v : Json) → v.NumberFree → Value v.write
  | null, _ => .keyword (by decide)
  | bool true, _ => .keyword (by decide)
  | bool false, _ => .keyword (by decide)
  | str s, _ => .string (quoted_writeString s)
  | arr [], _ => .emptyArray space_nil
  | arr (item :: items), h => .array (separated_writeItems (item :: items) (List.cons_ne_nil _ _) h)
  | obj [], _ => .emptyObject space_nil
  | obj (member :: members), h => .object (separated_writeMembers (member :: members) (List.cons_ne_nil _ _) h)

theorem separated_writeItems : (items : List Json) → items ≠ [] → NumberFreeItems items →
    Separated (Padded Value) (writeItems items)
  | [item], _, h => .last (.bare (value_write item h.1))
  | item :: second :: items, _, h => by
      have hitem := Padded.bare (value_write item h.1)
      exact .more hitem (separated_writeItems (second :: items) (List.cons_ne_nil _ _) h.2)

theorem separated_writeMembers : (members : List (String × Json)) → members ≠ [] → NumberFreeMembers members →
    Separated (Paired (Padded Quoted) (Padded Value)) (writeMembers members)
  | [(key, value)], _, h => .last (.mk (.bare (quoted_writeString key)) (.bare (value_write value h.1)))
  | (key, value) :: second :: members, _, h => by
      have hmember := Paired.mk (Padded.bare (quoted_writeString key)) (Padded.bare (value_write value h.1))
      have hmembers := separated_writeMembers (second :: members) (List.cons_ne_nil _ _) h.2
      have htext := Separated.more hmember hmembers
      rw [List.append_assoc, List.cons_append] at htext
      exact htext

end

end Grammar

theorem NumberFree.isJson_write {v : Json} (h : v.NumberFree) : IsJson v.write :=
  .bare (Grammar.value_write v h)

end Json

end RegistrySearch
