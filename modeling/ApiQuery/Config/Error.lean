/-
  ApiQuery.Config.Error — why a configuration cannot be had.
-/

import ApiQuery.Config.Basic

namespace ApiQuery

/-- Why a file cannot be read. -/
inductive FileError where
  | notFound | denied | notDirectory | isDirectory | nameTooLong | nulInPath | notUtf8
deriving DecidableEq

def FileError.message : FileError → String
  | notFound => "No such file or directory (os error 2)"
  | denied => "Permission denied (os error 13)"
  | notDirectory => "Not a directory (os error 20)"
  | isDirectory => "Is a directory (os error 21)"
  | nameTooLong => "File name too long (os error 36)"
  | nulInPath => "file name contained an unexpected NUL byte"
  | notUtf8 => "stream did not contain valid UTF-8"

/-- Why the variables of an environment file cannot be had. -/
inductive EnvError where
  | file (e : FileError)
  | line (text : String) (position : Nat)
  /-- Not an error that a caller gets to see: the program panics, since it sets a variable to a
      value that no variable can hold. -/
  | panic
deriving DecidableEq

def EnvError.message? : EnvError → Option String
  | file e => some e.message
  | line text position => some s!"Error parsing line: '{text}', error at line index: {position}"
  | panic => none

inductive ConfigError where
  | file (e : FileError)
  | env (e : EnvError)
  /-- Not a document of the configuration's form. -/
  | document
  | invalid (fault : ConfigFault)
  /-- No path is configured and the default file is not there. -/
  | noPath
deriving DecidableEq

/-- A malformed document has no text of its own, and a panic none at all. -/
def ConfigError.message? : ConfigError → Option String
  | file e => some s!"IO error: {e.message}"
  | env e => e.message?.map fun message => s!"Dotenv error: {message}"
  | document => none
  | invalid fault => some s!"Invalid configuration: {fault.message}"
  | noPath => some
    "Invalid configuration: Config path must be specified as QUERYWIRE_CONFIG or in ./querywire.toml file"

end ApiQuery
