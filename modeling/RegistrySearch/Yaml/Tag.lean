import RegistrySearch.Text.CodePoint
import RegistrySearch.Text.Pattern

/-!
# Tags

The tag of a node says what the node stands for. A scalar without quotes and without a tag has the tag whose form its text has: nothing, a flag, a number, a date or a point in time; a text without any of these forms stands for itself. Two tags have a meaning as keys of mappings only: `<<` says that the entries of other mappings are to be merged in, and `=` names a default value.

Numbers may have underscores between their digits. An integer is decimal, octal with a leading zero, binary after `0b`, hexadecimal after `0x`, or in base sixty with colons between the places. A number with a fraction has a point; its exponent has a sign.
-/

namespace RegistrySearch

namespace Yaml

inductive Tag where
  | null
  | bool
  | int
  | float
  | binary
  | timestamp
  | str
  | seq
  | map
  | set
  /-- A sequence of mappings with one entry each. -/
  | pairs
  | merge
  | value
  /-- No value has this tag. -/
  | other
deriving DecidableEq, Repr, Inhabited

namespace Tag

/-- What the tags that have values start with. -/
def standard : String := "tag:yaml.org,2002:"

def names : List (String × Tag) :=
  [("null", null), ("bool", bool), ("int", int), ("float", float), ("binary", binary), ("timestamp", timestamp),
    ("str", str), ("seq", seq), ("map", map), ("set", set), ("pairs", pairs), ("omap", pairs), ("merge", merge),
    ("value", value)]

def ofText (text : String) : Tag :=
  match names.find? fun (name, _) => standard ++ name = text with
  | some (_, tag) => tag
  | none => other

/-! ### Forms -/

open Pattern

def sign : Pattern := optional (charOf ['+', '-'])

def digit : Pattern := range '0' '9'

/-- Digits, or the underscores that may stand between them. -/
def places : Pattern := many (either digit (char '_'))

def numeral : Pattern := inOrder [digit, places]

/-- Places below sixty, each after a colon. -/
def sixtieths : Pattern := atLeastOne (inOrder [char ':', optional (range '0' '5'), digit])

def exponent : Pattern := optional (inOrder [charOf ['e', 'E'], charOf ['+', '-'], atLeastOne digit])

def nullForm : Pattern := oneOf ["", "~", "null", "Null", "NULL"]

def boolForm : Pattern :=
  oneOf ["yes", "Yes", "YES", "no", "No", "NO", "true", "True", "TRUE", "false", "False", "FALSE", "on", "On", "ON",
    "off", "Off", "OFF"]

def intForm : Pattern :=
  inOrder [sign, anyOf [
    inOrder [word "0b", atLeastOne (charOf ['0', '1', '_'])],
    inOrder [char '0', atLeastOne (either (range '0' '7') (char '_'))],
    char '0',
    inOrder [range '1' '9', places, optional sixtieths],
    inOrder [word "0x", atLeastOne (anyOf [digit, range 'a' 'f', range 'A' 'F', char '_'])]]]

def floatForm : Pattern :=
  anyOf [
    inOrder [sign, numeral, char '.', places, exponent],
    inOrder [char '.', numeral, exponent],
    inOrder [sign, numeral, sixtieths, char '.', places],
    inOrder [sign, oneOf [".inf", ".Inf", ".INF"]],
    oneOf [".nan", ".NaN", ".NAN"]]

def digits (count : Nat) : Pattern := inOrder (List.replicate count digit)

def oneOrTwoDigits : Pattern := inOrder [digit, optional digit]

def blank : Pattern := charOf [' ', '\t']

def offset : Pattern :=
  either (char 'Z')
    (inOrder [charOf ['+', '-'], oneOrTwoDigits, optional (inOrder [char ':', digits 2])])

def timeOfDay : Pattern :=
  inOrder [either (charOf ['T', 't']) (atLeastOne blank), oneOrTwoDigits, char ':', digits 2, char ':', digits 2,
    optional (inOrder [char '.', many digit]), optional (inOrder [many blank, offset])]

/-- A date with two digits for the month and the day, or a date with a time of day. -/
def timestampForm : Pattern :=
  either (inOrder [digits 4, char '-', digits 2, char '-', digits 2])
    (inOrder [digits 4, char '-', oneOrTwoDigits, char '-', oneOrTwoDigits, timeOfDay])

/-- The forms that a text is compared with, with their tags. The marks of tags, anchors and aliases mean nothing as texts. -/
def forms : List (Tag × Pattern) :=
  [(bool, boolForm), (float, floatForm), (int, intForm), (merge, word "<<"), (null, nullForm),
    (timestamp, timestampForm), (value, word "="), (other, oneOf ["!", "&", "*"])]

/-- A text without the line feed at its end, which no form looks at. A lone line feed is a text of its own. -/
def withoutLineFeed (text : List Char) : List Char :=
  if text.length > 1 ∧ text.getLast? = some '\n' then text.dropLast else text

def ofForm (text : List CodePoint) : Tag :=
  match CodePoint.chars? text with
  | some text =>
    match forms.find? fun (_, form) => form.accepts (withoutLineFeed text) with
    | some (tag, _) => tag
    | none => str
  | none => str

end Tag

end Yaml

end RegistrySearch
