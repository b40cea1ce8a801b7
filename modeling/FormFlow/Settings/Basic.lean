import FormFlow.Sandbox.Basic
import FormFlow.Settings.Json
import FormFlow.Settings.Layer
import FormFlow.Text.Search
import FormFlow.Wire.Record

/-!
# Settings

The limits of the sandbox and the manner of logging, taken from defaults, a file and the
environment, later layers over earlier ones.
-/

namespace FormFlow

structure LoggingSettings where
  /-- Which messages are logged. -/
  level : String
  /-- Are messages written as JSON? -/
  json : Bool
deriving DecidableEq

structure Settings where
  sandbox : SandboxSettings
  logging : LoggingSettings
deriving DecidableEq

/-- Why settings cannot be used. -/
inductive SettingsFault where
  /-- A file cannot be read, or a setting has no sensible value. -/
  | unreadable
  | noConcurrency
  | noTimeout
deriving DecidableEq

def SettingsFault.message? : SettingsFault → Option String
  | .unreadable => none
  | .noConcurrency => some "sandbox.max_concurrency must be at least 1"
  | .noTimeout => some "sandbox.timeout_ms must be positive"

def LoggingSettings.standard : LoggingSettings :=
  { level := "info"
    json := false }

namespace Settings

def standard : Settings :=
  { sandbox := .standard
    logging := .standard }

/-- Settings as the tree that layers are written over. -/
def toTree (settings : Settings) : Setting :=
  .table [
    ("logging", .table [
      ("json", .flag settings.logging.json),
      ("level", .text settings.logging.level)]),
    ("sandbox", .table [
      ("fuel", .integer settings.sandbox.fuel),
      ("max_concurrency", .integer settings.sandbox.maxConcurrency),
      ("timeout_ms", .integer settings.sandbox.timeout)])]

def readSandbox? (s : Setting) : Option SandboxSettings := do
  if !s.isSection then none
  let standard := SandboxSettings.standard
  return {
    maxConcurrency := ← s.read 0 "max_concurrency" Setting.natural? standard.maxConcurrency
    timeout := ← s.read 1 "timeout_ms" Setting.natural? standard.timeout
    fuel := ← s.read 2 "fuel" Setting.natural? standard.fuel }

def readLogging? (s : Setting) : Option LoggingSettings := do
  if !s.isSection then none
  let standard := LoggingSettings.standard
  return {
    level := ← s.read 0 "level" Setting.text? standard.level
    json := ← s.read 1 "json" Setting.flag? standard.json }

/-- The settings in a tree. -/
def ofTree? (s : Setting) : Option Settings := do
  return {
    sandbox := ← s.read 0 "sandbox" readSandbox? .standard
    logging := ← s.read 1 "logging" readLogging? .standard }

/-- A tree of settings reads back as the settings it was made from. -/
theorem ofTree?_toTree (settings : Settings) : ofTree? settings.toTree = some settings := by
  obtain ⟨⟨concurrency, timeout, fuel⟩, ⟨level, json⟩⟩ := settings
  simp [ofTree?, toTree, readSandbox?, readLogging?, Setting.read, Setting.entry?,
    Setting.isSection, Setting.natural?, Setting.text?, Setting.flag?, Fields.get?]

/-- Is `json` what follows the last dot of a file name that does not begin with that dot? -/
def isJsonName (name : String) : Bool :=
  let (first, others) := Text.pieces '.' name.toList
  others.getLast? = some "json".toList && (others.length > 1 || !first.isEmpty)

/-- A path to a file, as far as it stays in one directory: the name at its end, and whether the path
says that the name is a directory. -/
def localName? (path : String) : Option (String × Bool) :=
  let (first, others) := Text.pieces '/' path.toList
  let parts := first :: others
  match parts.filter fun part => part ≠ [] && part ≠ ['.'] with
  | [name] =>
      if first = [] || name = ['.', '.'] then none
      else some (String.ofList name, parts.getLast? ≠ some name)
  | _ => none

/-- The text of the settings file that a path finds from a directory: the file it names, which must
be a JSON file, or the JSON file whose name its last name begins. -/
def findFile? (directory : List (String × String)) (path : String) : Option String :=
  match localName? path with
  | none => none
  | some (name, isDirectory) =>
      match if isDirectory then none else directory.lookup name with
      | some text => if isJsonName name then some text else none
      | none => directory.lookup (name ++ ".json")

/-- The layer of a file. A missing file has no entries. -/
def fileLayer? (directory : List (String × String)) (path : Option String) :
    Option (List (String × Setting)) :=
  match path.bind (findFile? directory) with
  | none => some []
  | some text => (Json.ofText? text.toList).bind Setting.table?

/-- Settings that the runtime can work with. -/
def check (settings : Settings) : Except SettingsFault Settings :=
  if settings.sandbox.maxConcurrency = 0 then .error .noConcurrency
  else if settings.sandbox.timeout = 0 then .error .noTimeout
  else .ok settings

/-- The settings from a file that may be named and from the environment. -/
def load (directory : List (String × String)) (path : Option String)
    (environment : List (String × String)) : Except SettingsFault Settings :=
  match fileLayer? directory path with
  | none => .error .unreadable
  | some file =>
      let tree := writeLayer (writeLayer standard.toTree file) (environmentLayer environment)
      match ofTree? tree with
      | none => .error .unreadable
      | some settings => check settings

end Settings

namespace Codec

def sandboxSettings : Codec SandboxSettings where
  encode settings := Record.write [
    ("fuel", some ((natural 64).encode settings.fuel)),
    ("max_concurrency", some ((natural 64).encode settings.maxConcurrency)),
    ("timeout_ms", some ((natural 64).encode settings.timeout))]
  decode? v := do
    let record ← Record.ofValue? 3 v
    let standard := SandboxSettings.standard
    return {
      maxConcurrency := ← record.defaulted 0 "max_concurrency" (natural 64) standard.maxConcurrency
      timeout := ← record.defaulted 1 "timeout_ms" (natural 64) standard.timeout
      fuel := ← record.defaulted 2 "fuel" (natural 64) standard.fuel }

def loggingSettings : Codec LoggingSettings where
  encode settings := Record.write [
    ("json", some (bool.encode settings.json)),
    ("level", some (text.encode settings.level))]
  decode? v := do
    let record ← Record.ofValue? 2 v
    let standard := LoggingSettings.standard
    return {
      level := ← record.defaulted 0 "level" text standard.level
      json := ← record.defaulted 1 "json" bool standard.json }

def settings : Codec Settings where
  encode settings := Record.write [
    ("logging", some (loggingSettings.encode settings.logging)),
    ("sandbox", some (sandboxSettings.encode settings.sandbox))]
  decode? v := do
    let record ← Record.ofValue? 2 v
    return {
      sandbox := ← record.defaulted 0 "sandbox" sandboxSettings .standard
      logging := ← record.defaulted 1 "logging" loggingSettings .standard }

end Codec

end FormFlow
