import RegistrySearch.Config.Environment
import RegistrySearch.Config.Files
import RegistrySearch.Config.Settings
import RegistrySearch.Config.Value
import RegistrySearch.Payload.Fault
import RegistrySearch.Room
import RegistrySearch.Text.Utf8
import RegistrySearch.Yaml.Document

/-!
# Loading settings

The configuration is what the existing files of a list of paths say, later ones laid over earlier ones, and over all of them the environment variables. Each setting is then taken from the configuration, or has its default.

A blank document counts as an empty map; any other document has to be a map. A file that exists and cannot be read as such a document is an error, and the first such file is the one reported.
-/

namespace RegistrySearch

/-- What loading finds beside the environment. How many calls can be nested where a document is read, and in one that merges configurations, depends on the interpreter and on the calls that loading itself lies in. -/
structure Host where
  files : FileSystem
  accountHome : Option String
  readingRoom : Nat
  mergingRoom : Nat

inductive SettingsFault where
  | misplaced (fault : Fault)
  /-- A text that has to be encoded holds halves of surrogate pairs. -/
  | halves
deriving DecidableEq

inductive ConfigFailure where
  | unreadable (fault : ReadFault) (path : Path)
  | notUtf8
  | document (fault : Yaml.DocumentFault)
  | notAMap (path : Path)
  /-- Whether there is a file at a path cannot be told. -/
  | uncertain (fault : ReadFault) (path : Path)
  | noHome
  /-- Maps are merged deeper than calls can be nested. -/
  | endless
  | invalid (fault : SettingsFault)
deriving DecidableEq

def ConfigFailure.message? : ConfigFailure → Option String
  | unreadable .nullInName _ => some ReadFault.nullInName.message
  | unreadable fault path =>
    some ("Error reading config file: " ++ fault.message ++ ": " ++ Quoted.text path.text)
  | notUtf8 => none
  | document fault => some fault.message
  | notAMap path => some ("Config file " ++ path.text ++ " must contain a mapping")
  | uncertain fault path => some (fault.message ++ ": " ++ Quoted.text path.text)
  | noHome => some "Could not determine home directory."
  | endless => some "maximum recursion depth exceeded"
  | invalid (.misplaced fault) => some ("Invalid compiler settings: " ++ fault.message)
  | invalid .halves => none

namespace Config

def ofDocument (path : Path) (value : ConfigValue) : Except ConfigFailure Config :=
  if value.isBlank then .ok []
  else match value with
    | .map entries => .ok entries
    | _ => .error (.notAMap path)

/-- A value that contains itself is written out deeper than it can be merged. -/
def writtenDepth (host : Host) : Nat :=
  host.mergingRoom + 2

def fromFile (host : Host) (path : Path) : Except ConfigFailure Config := do
  let octets ← (host.files.read path).mapError fun fault => .unreadable fault path
  match Utf8.decode? octets with
  | none => throw .notUtf8
  | some text =>
    let value ← (Yaml.document host.readingRoom (writtenDepth host) text).mapError .document
    ofDocument path value

/-- The home folder of a user. It has to be known even where it is not needed. -/
def home (host : Host) (environment : Environment) : Except ConfigFailure Path :=
  match (environment.get? "HOME").or host.accountHome with
  | none => .error .noHome
  | some folder =>
    let trimmed := String.ofList (folder.toList.reverse.dropWhile (· = '/')).reverse
    if trimmed.toList.head? = some '~' then .error .noHome
    else .ok (Path.ofText (if trimmed.isEmpty then "/" else trimmed))

def userFolder (host : Host) (environment : Environment) : Except ConfigFailure Path := do
  let home ← home host environment
  match environment.get? "XDG_CONFIG_HOME" with
  | some folder => return .ofText folder
  | none => return home.join (.ofText ".config")

/-- The paths that are looked at by default, lowest precedence first. -/
def defaultPaths (host : Host) (environment : Environment) : Except ConfigFailure (List Path) := do
  let folder ← userFolder host environment
  return [folder.join (.ofText "eventquery/config.yaml"), .ofText ".eventquery.yaml", .ofText "eventquery.yaml"]

def pathsOr (host : Host) (environment : Environment) (paths : Option (List Path)) :
    Except ConfigFailure (List Path) :=
  paths.elim (defaultPaths host environment) .ok

def overrides : List (String × String) :=
  [("EVENTQUERY_DECLARATION_NAMESPACE", "declaration_namespace"),
    ("EVENTQUERY_FULLNAME_SUBFIELD", "fullname_subfield"), ("EVENTQUERY_FUZZINESS", "fuzziness"),
    ("EVENTQUERY_CACHE_NAME_FIELDS", "cache_name_fields")]

def ofEnvironment (environment : Environment) : Config :=
  overrides.filterMap fun (name, key) =>
    (environment.get? name).map fun value => (.text key, .scalar (.text value))

def mergeCall (call : Nesting (Except ConfigFailure) Config) : Nesting (Except ConfigFailure) Config :=
  nested ConfigFailure.endless call

/-- A configuration with another one laid over it, with room for so many calls in the first one. -/
def layer (room : Nat) (base next : Config) : Except ConfigFailure Config :=
  (mergeBy mergeCall base next).run room

def loadFiles (host : Host) (base : Config) : List Path → Except ConfigFailure Config
  | [] => .ok base
  | path :: rest => do
    if ← (host.files.exists? path).mapError fun fault => .uncertain fault path then
      let next ← fromFile host path
      loadFiles host (← layer host.mergingRoom base next) rest
    else loadFiles host base rest

def load (host : Host) (environment : Environment) (paths : Option (List Path)) : Except ConfigFailure Config := do
  let listed ← pathsOr host environment paths
  let base ← loadFiles host [] listed
  return merge base (ofEnvironment environment)

end Config

namespace ConfigValue

def asText : ConfigValue → Except SettingsFault (List CodePoint)
  | scalar (.text s) => .ok (CodePoint.ofChars s.toList)
  | scalar (.halves s) => .ok s
  | v => .error (.misplaced (Fault.here (.unexpected .text v.kind)))

/-- The flag that a setting is given: a boolean, zero or one, or one of the words for them in letters of any case. -/
def asFlag : ConfigValue → Except SettingsFault Bool
  | scalar (.bool b) => .ok b
  | scalar (.int 0) => .ok false
  | scalar (.int 1) => .ok true
  | scalar (.text s) =>
    if s.toLower = "true" ∨ s = "1" then .ok true
    else if s.toLower = "false" ∨ s = "0" then .ok false
    else .error (.misplaced (Fault.here (.unexpected .flag .text)))
  | scalar (.halves _) => .error .halves
  | v => .error (.misplaced (Fault.here (.unexpected .flag v.kind)))

end ConfigValue

/-- Settings as they are loaded. Texts from files may hold halves of surrogate pairs. -/
structure LoadedSettings where
  declarationNamespace : List CodePoint
  fullnameSubfield : List CodePoint
  fuzziness : List CodePoint
  cacheNameFields : Bool
deriving DecidableEq, Repr

namespace LoadedSettings

def ofSettings (settings : Settings) : LoadedSettings where
  declarationNamespace := CodePoint.ofChars settings.declarationNamespace.toList
  fullnameSubfield := CodePoint.ofChars settings.fullnameSubfield.toList
  fuzziness := CodePoint.ofChars settings.fuzziness.toList
  cacheNameFields := settings.cacheNameFields

def initial : LoadedSettings := ofSettings {}

def under {α : Type} (key : String) (outcome : Except SettingsFault α) : Except SettingsFault α :=
  outcome.mapError fun
    | .misplaced fault => .misplaced (fault.within (.member key))
    | fault => fault

/-- Settings after one entry of a configuration; keys that name no setting are passed over. -/
def set (settings : LoadedSettings) (key : Scalar) (value : ConfigValue) : Except SettingsFault LoadedSettings :=
  match key with
  | .text "declaration_namespace" =>
    under "declaration_namespace" (value.asText.map fun s => { settings with declarationNamespace := s })
  | .text "fullname_subfield" =>
    under "fullname_subfield" (value.asText.map fun s => { settings with fullnameSubfield := s })
  | .text "fuzziness" => under "fuzziness" (value.asText.map fun s => { settings with fuzziness := s })
  | .text "cache_name_fields" =>
    under "cache_name_fields" (value.asFlag.map fun b => { settings with cacheNameFields := b })
  | .text _ => .ok settings
  | .halves _ => .error .halves
  | _ => .error (.misplaced (Fault.here .keyNotText))

def setAll (settings : LoadedSettings) : Config → Except SettingsFault LoadedSettings
  | [] => .ok settings
  | (key, value) :: rest => do
    let settings ← settings.set key value
    settings.setAll rest

def ofConfig (config : Config) : Except SettingsFault LoadedSettings :=
  initial.setAll config

def load (host : Host) (environment : Environment) (paths : Option (List Path)) :
    Except ConfigFailure LoadedSettings := do
  let config ← Config.load host environment paths
  (ofConfig config).mapError .invalid

end LoadedSettings

end RegistrySearch
