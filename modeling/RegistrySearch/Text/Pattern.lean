/-!
# Patterns

Forms of texts, as regular expressions over tests of single characters. A text is matched character by character: `after` is the pattern of what may follow a character, and a text has the form if nothing more has to follow at its end.
-/

namespace RegistrySearch

inductive Pattern where
  | never
  | nothing
  | one (test : Char → Bool)
  | either (a b : Pattern)
  | seq (a b : Pattern)
  | many (a : Pattern)
deriving Inhabited

namespace Pattern

def acceptsNothing : Pattern → Bool
  | never => false
  | nothing => true
  | one _ => false
  | either a b => a.acceptsNothing || b.acceptsNothing
  | seq a b => a.acceptsNothing && b.acceptsNothing
  | many _ => true

/-- One form or the other, in short. -/
def or : Pattern → Pattern → Pattern
  | never, b => b
  | a, never => a
  | a, b => either a b

/-- One form and then the other, in short. -/
def andThen : Pattern → Pattern → Pattern
  | never, _ => never
  | nothing, b => b
  | a, b => seq a b

/-- The form of what may follow a character. -/
def after (c : Char) : Pattern → Pattern
  | never => never
  | nothing => never
  | one test => if test c then nothing else never
  | either a b => or (after c a) (after c b)
  | seq a b =>
    let rest := andThen (after c a) b
    if a.acceptsNothing then or rest (after c b) else rest
  | many a => andThen (after c a) (many a)

def accepts : Pattern → List Char → Bool
  | p, [] => p.acceptsNothing
  | p, c :: rest => accepts (after c p) rest

/-! ### Forms -/

def char (c : Char) : Pattern := one (· = c)

def charOf (cs : List Char) : Pattern := one (· ∈ cs)

def range (first last : Char) : Pattern := one fun c => first ≤ c && c ≤ last

def word (text : String) : Pattern :=
  text.toList.foldr (fun c rest => andThen (char c) rest) nothing

def oneOf (texts : List String) : Pattern :=
  texts.foldr (fun text others => or (word text) others) never

def anyOf (ps : List Pattern) : Pattern := ps.foldr or never

def inOrder (ps : List Pattern) : Pattern := ps.foldr andThen nothing

def optional (p : Pattern) : Pattern := either p nothing

def atLeastOne (p : Pattern) : Pattern := seq p (many p)

end Pattern

end RegistrySearch
