/-!
# The environment

The variables that a user sets. A name is not empty and has no equals sign in it, and neither a name nor a value holds the character that ends them.
-/

namespace RegistrySearch

/-- The variables of the environment with their values. -/
abbrev Environment := List (String × String)

inductive EnvironmentFault where
  | nullInText
  | equalsInName
  | emptyName
deriving DecidableEq, Repr

def EnvironmentFault.message : EnvironmentFault → String
  | nullInText => "embedded null byte"
  | equalsInName => "illegal environment variable name"
  | emptyName => "[Errno 22] Invalid argument"

namespace Environment

def get? (environment : Environment) (name : String) : Option String :=
  environment.lookup name

def unset (environment : Environment) (name : String) : Environment :=
  environment.filter fun entry => entry.1 ≠ name

def set (environment : Environment) (name value : String) : Except EnvironmentFault Environment :=
  if '\x00' ∈ name.toList ∨ '\x00' ∈ value.toList then .error .nullInText
  else if '=' ∈ name.toList then .error .equalsInName
  else if name.isEmpty then .error .emptyName
  else .ok ((name, value) :: environment.unset name)

end Environment

end RegistrySearch
