import SessionTokens.Settings.FileTree
import SessionTokens.Settings.Place
import SessionTokens.Settings.Source

/-! # Loading settings

Settings come from files, with the variables over them. An environment has a file of its own, over
the one that all environments share, and neither has to be there; a file that is asked for by its
path must be. A path may leave out what its name ends in.
-/

namespace SessionTokens

/-- What a program finds around it when it starts. -/
structure Surroundings where
  /-- The text of the file at a path. -/
  text? : String → Option String
  /-- The variables of the environment in the order in which they are visited, which may be any. -/
  environment : List (String × String)

/-- The format of a file, by what its name ends in. -/
def SettingsFormat.ofPath? (path : String) : Option SettingsFormat :=
  let name := (pathParts path).getLast?.getD ""
  all.find? fun f =>
    let ending := "." ++ f.extension
    name.endsWith ending && name ≠ ending

/-- The path with an ending. Where the path ends with a slash the file has a stand-in for its
name. -/
def SettingsFormat.extend (f : SettingsFormat) (path : String) : String :=
  let named := if (pathParts path).getLast? = some "" then path ++ ".placeholder" else path
  named ++ "." ++ f.extension

/-- The paths at which a settings file is looked for. -/
def settingsPaths (path : String) : List String :=
  path :: SettingsFormat.all.map fun f => f.extend path

namespace Surroundings

variable (s : Surroundings)

/-- The settings file that a path means: the file itself, or else the first with a format's ending.
A file of no known format is none. -/
def find? (path : String) : Option (SettingsFormat × String) :=
  match s.text? path with
  | some text => (SettingsFormat.ofPath? path).map fun f => (f, text)
  | none => SettingsFormat.all.findSome? fun f =>
      (s.text? (f.extend path)).map fun text => (f, text)

/-- Lays a file over what is given so far. A file that is not there changes nothing, unless it is
required. -/
def addFile (path : String) (required : Bool) (below : Given) : Except ServiceError Given :=
  match s.find? path with
  | none => if required then .error .configNotBuilt else .ok below
  | some (format, text) =>
    match Given.ofText? text format with
    | none => .error .configNotBuilt
    | some source => .ok (below.addSource source)

/-- Lays the variables over what the files give, and reads the settings. -/
def finish (files : Given) : Except ServiceError Settings :=
  match Settings.read? Given.shape (files.addSource (Given.ofVariables s.environment)) with
  | none => .error .configNotReadable
  | some settings =>
    match settings.validate with
    | .error e => .error e
    | .ok () => .ok settings

end Surroundings

namespace Settings

/-- The file that all environments share, and the file of one of them. -/
def environmentPaths (name : String) : String × String := ("config/default", "config/" ++ name)

/-- The settings of an environment. -/
def load (s : Surroundings) (environment : String) : Except ServiceError Settings := do
  let paths := environmentPaths environment
  let shared ← s.addFile paths.1 false (.table [])
  let files ← s.addFile paths.2 false shared
  s.finish files

/-- The settings in the file at a path. -/
def loadFrom (s : Surroundings) (path : String) : Except ServiceError Settings := do
  let files ← s.addFile path true (.table [])
  s.finish files

/-- The names of all settings, with points between their levels. -/
def keys : List String :=
  TokenSettings.names.map ("tokens." ++ ·) ++
    ["store.provider", "store.command_timeout_ms", "store.scan_batch_size", "store.redis.url",
      "store.redis.key_prefix", "password.min_length", "logging.level", "logging.format"]

/-- The name of the variable for a setting, in its usual spelling. -/
def variableOf (key : String) : String :=
  ("SESSIONGUARD__" ++ "__".intercalate (key.splitOn ".")).toUpper

end Settings

end SessionTokens
