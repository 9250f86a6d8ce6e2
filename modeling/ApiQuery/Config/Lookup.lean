/-
  ApiQuery.Config.Lookup — finding the configuration.

  The variables of the nearest `.env` file are set first; that file may be missing, but not
  be faulty, and no value that is set may hold a NUL. Then the variable that names the
  configuration decides, and without it the default file. What is found there is read, and
  no other candidate replaces it.
-/

import ApiQuery.Config.Document
import ApiQuery.Config.Files
import ApiQuery.EnvFile.Entry
import ApiQuery.Text.Utf8

namespace ApiQuery

def configVariable : String := "QUERYWIRE_CONFIG"

def defaultConfigPath : String := "./querywire.toml"

def envFileName : String := ".env"

namespace AppConfig

/-- Reads the configuration at a path. -/
def ofFile (fs : Files) (path : String) : Except ConfigError AppConfig :=
  match fs.read path with
  | .error e => .error (.file e)
  | .ok bytes =>
    match Utf8.decode? bytes with
    | none => .error (.file .notUtf8)
    | some s => ofText s

/-- The variables with those of the environment file. -/
def environment (env : EnvFile.Env) (fs : Files) : Except EnvError EnvFile.Env :=
  match fs.nearest? envFileName with
  | none => .ok env
  | some file =>
    match file.read with
    | .error e => .error (.file e)
    | .ok bytes => EnvFile.load env bytes

/-- The path of the configuration. -/
def pathIn? (env : EnvFile.Env) (fs : Files) : Option String :=
  match env.get? configVariable with
  | some p => some p
  | none => if fs.exists? defaultConfigPath then some defaultConfigPath else none

def load (env : EnvFile.Env) (fs : Files) : Except ConfigError AppConfig :=
  match environment env fs with
  | .error e => .error (.env e)
  | .ok env =>
    match pathIn? env fs with
    | some path => ofFile fs path
    | none => .error .noPath

end AppConfig

end ApiQuery
