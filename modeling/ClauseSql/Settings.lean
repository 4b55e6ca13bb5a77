import ClauseSql.Compiler
import ClauseSql.Files
import ClauseSql.Json.Reader.Record

/-!
# Settings

The limits of compilation and the place of the catalog come from the command line, then from a
settings file, then from defaults.

## What is here

* `FileSettings` and `FileSettings.reader` — the settings that a file gives.
* `Overrides` — the settings that a command line gives.
* `Settings.load` — the settings in force.  The file is the one that the command line names, or the
  one called `filterql.json` in the working directory, if it is there.
-/

set_option autoImplicit false

namespace ClauseSql

open Reader (Field RecordShape)

/-! ## Settings files -/

/-- The limits that a file sets. -/
structure FileLimits where
  maxBytes : Option Nat := none
  maxDepth : Option Nat := none
deriving Repr

namespace FileLimits

/-- The members of the limits as they are read: each can be given as null. -/
structure Draft where
  maxBytes : Option (Option Nat) := none
  maxDepth : Option (Option Nat) := none

/-- The members of the limits. -/
def shape : RecordShape Draft where
  name := "struct CompilerFileConfig"
  fields := [
    .kept ["max_filter_json_bytes"] Draft.maxBytes
      (fun draft limit => { draft with maxBytes := some limit })
      (Reader.optional (Reader.count "usize")),
    .kept ["max_inclusion_depth"] Draft.maxDepth
      (fun draft limit => { draft with maxDepth := some limit })
      (Reader.optional (Reader.count "usize"))]

/-- The limits that were read. -/
def ofDraft (draft : Draft) : FileLimits := ⟨draft.maxBytes.join, draft.maxDepth.join⟩

/-- Reads the limits. -/
def reader : Reader FileLimits := (shape.reader {}).map ofDraft

end FileLimits

/-- The settings that a file gives, and the members of it that mean nothing. -/
structure FileSettings where
  catalog : Option String := none
  limits : Option FileLimits := none
  unknown : Members := []
deriving Repr

namespace FileSettings

/-- The members of the settings as they are read: each can be given as null. -/
structure Draft where
  catalog : Option (Option String) := none
  limits : Option (Option FileLimits) := none
  unknown : Members := []

/-- The members of the settings.  Others are kept. -/
def shape : RecordShape Draft where
  name := "struct FileConfig"
  fields := [
    .kept ["catalog"] Draft.catalog (fun draft path => { draft with catalog := some path })
      (Reader.optional (Reader.textNamed "path string")),
    .kept ["compiler"] Draft.limits (fun draft limits => { draft with limits := some limits })
      (Reader.optional FileLimits.reader)]
  unknown := .read fun draft name =>
    (Reader.value (Reader.deepest - 1)).map fun value =>
      { draft with unknown := Members.insert name value draft.unknown }
  arrayForm := false

/-- The settings that were read. -/
def ofDraft (draft : Draft) : FileSettings :=
  ⟨draft.catalog.join, draft.limits.join, draft.unknown⟩

/-- Reads the settings. -/
def reader : Reader FileSettings := (shape.reader {}).map ofDraft

/-- The warning about members that mean nothing. -/
def warnings (settings : FileSettings) : List Warning :=
  if settings.unknown.isEmpty then [] else [.unknownSettings (Members.names settings.unknown)]

/-- The settings of the file at `path`, with the path of the catalog followed from the directory of
that file. -/
def rebase (path : String) (settings : FileSettings) : FileSettings :=
  { settings with
    catalog := settings.catalog.map fun catalog =>
      if FilePath.isAbsolute catalog then catalog
      else FilePath.join (FilePath.directory path) catalog }

end FileSettings

/-! ## Settings in force -/

/-- The settings that a command line gives. -/
structure Overrides where
  /-- The path of the settings file. -/
  file : Option String := none
  /-- The path of the catalog. -/
  catalog : Option String := none
  maxBytes : Option Nat := none
  maxDepth : Option Nat := none
deriving DecidableEq, Repr

/-- Why there are no settings. -/
inductive SettingsError where
  | absent (path : String)
  | unreadable (path : String)
  | malformed (path : String)
  | noBytes
deriving DecidableEq, Repr

/-- The wording of an error. -/
def SettingsError.message : SettingsError → String
  | .absent path => "Config file not found: " ++ path
  | .unreadable path => "Failed to read config file: " ++ path
  | .malformed path => "Failed to parse config file: " ++ path
  | .noBytes => "Configuration error: compiler.max_filter_json_bytes must be greater than 0"

/-- The settings in force. -/
structure Settings where
  limits : Limits := {}
  /-- The path of the catalog. -/
  catalog : Option String := none
deriving DecidableEq, Repr

/-- A computation that can fail and that warns either way. -/
abbrev WarnT (m : Type → Type) (ε : Type) := ExceptT ε (StateT (List Warning) m)

namespace Settings

variable {m : Type → Type} [Monad m]

/-- Adds warnings. -/
def warn {ε : Type} (warnings : List Warning) : WarnT m ε Unit :=
  modify fun earlier => earlier ++ warnings

/-- The name of the settings file that is looked for when none is given. -/
def defaultFile : String := "filterql.json"

/-- The path of the settings file, if there is one. -/
def locate (files : Files m) (overrides : Overrides) : WarnT m SettingsError (Option String) := do
  match overrides.file with
  | some path =>
    if ← files.isPresent path then return some path else throw (.absent path)
  | none =>
    if ← files.isPresent defaultFile then return some defaultFile else return none

/-- The settings of a file, none of them without a file. -/
def read (files : Files m) : Option String → WarnT m SettingsError FileSettings
  | none => pure {}
  | some path => do
    match ← files.read? path with
    | none => throw (.unreadable path)
    | some text =>
      match FileSettings.reader.parse text with
      | .error _ => throw (.malformed path)
      | .ok settings =>
        warn settings.warnings
        return settings.rebase path

/-- The settings that a command line and a file give together.  The command line comes first. -/
def merge (overrides : Overrides) (file : FileSettings) : Settings :=
  let limits := file.limits.getD {}
  let defaults : Limits := {}
  { limits :=
      { maxBytes := (overrides.maxBytes.or limits.maxBytes).getD defaults.maxBytes
        maxDepth := (overrides.maxDepth.or limits.maxDepth).or defaults.maxDepth }
    catalog := overrides.catalog.or file.catalog }

/-- Settings that make sense: some text must be short enough. -/
def check (settings : Settings) : WarnT m SettingsError Settings := do
  if settings.limits.maxBytes = 0 then throw .noBytes
  if settings.limits.maxDepth = some 0 then warn [.noInclusions]
  return settings

/-- The settings in force. -/
def load (files : Files m) (overrides : Overrides) : WarnT m SettingsError Settings := do
  let path ← locate files overrides
  let file ← read files path
  check (merge overrides file)

end Settings
end ClauseSql
