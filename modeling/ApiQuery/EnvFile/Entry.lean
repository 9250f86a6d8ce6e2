/-
  ApiQuery.EnvFile.Entry — what a line of an environment file sets.

  A line is `NAME=VALUE`, perhaps after `export`. Values may be quoted in parts; outside
  single quotes `$NAME` and `${NAME}` stand for a variable, nothing if it is not set, and a
  backslash escapes a few characters. After a blank only a comment may follow. An error
  names the text at fault and a position in it.
-/

import ApiQuery.EnvFile.Lines
import ApiQuery.Text.Alphanumeric

namespace ApiQuery.EnvFile

/-! ## Values -/

/-- Where in a value a character stands. -/
inductive Part where
  | text
  | single
  | escaped
  /-- After a blank. -/
  | ended
  /-- After `$`, in a name. -/
  | name (rev : List Char)
  /-- In a name between braces. -/
  | braced (rev : List Char)
deriving DecidableEq

/-- What variables stand for. -/
abbrev Vars := String → Option String

def expand (vars : Vars) (rev : List Char) : List Char := ((vars (String.ofList rev.reverse)).getD "").toList

/-- What a character after a backslash stands for. -/
def unescape? (c : Char) : Option Char :=
  if c = 'n' then some '\n' else if ['\\', '\x27', '"', '$', ' '].contains c then some c else none

/-- The value of a text, or the position of the fault. `double` says whether double quotes are
    open, `rev` is the value so far, `i` the number of characters read, `last` the position
    for a text that ends too soon. -/
def valueFrom (vars : Vars) (last : Nat) :
    Part → Bool → List Char → Nat → List Char → Except Nat (List Char)
  | p, double, rev, _, [] =>
    match p with
    | .single | .braced _ => .error last
    | .name n => if double then .error last else .ok (rev.reverse ++ expand vars n)
    | _ => if double then .error last else .ok rev.reverse
  | .ended, double, rev, i, c :: r =>
    if c = ' ' ∨ c = '\t' then valueFrom vars last .ended double rev (i + 1) r
    else if c = '#' then .ok rev.reverse
    else .error i
  | .escaped, double, rev, i, c :: r =>
    match unescape? c with
    | some e => valueFrom vars last .text double (e :: rev) (i + 1) r
    | none => .error i
  | .single, double, rev, i, c :: r =>
    if c = '\x27' then valueFrom vars last .text double rev (i + 1) r
    else valueFrom vars last .single double (c :: rev) (i + 1) r
  | .name n, double, rev, i, c :: r =>
    if Text.isAlphanumeric c then valueFrom vars last (.name (c :: n)) double rev (i + 1) r
    else if c = '\x7b' ∧ n = [] then valueFrom vars last (.braced []) double rev (i + 1) r
    else
      let rev := (expand vars n).reverse ++ rev
      if c = '$' then valueFrom vars last (.name []) double rev (i + 1) r
      else valueFrom vars last .text double (c :: rev) (i + 1) r
  | .braced n, double, rev, i, c :: r =>
    if c = '\x7d' then valueFrom vars last .text double ((expand vars n).reverse ++ rev) (i + 1) r
    else valueFrom vars last (.braced (c :: n)) double rev (i + 1) r
  | .text, double, rev, i, c :: r =>
    if c = '$' then valueFrom vars last (.name []) double rev (i + 1) r
    else if c = '\\' then valueFrom vars last .escaped double rev (i + 1) r
    else if c = '"' then valueFrom vars last .text (!double) rev (i + 1) r
    else if double then valueFrom vars last .text double (c :: rev) (i + 1) r
    else if c = '\x27' then valueFrom vars last .single double rev (i + 1) r
    else if c = ' ' ∨ c = '\t' then valueFrom vars last .ended double rev (i + 1) r
    else valueFrom vars last .text double (c :: rev) (i + 1) r

def value (vars : Vars) (cs : List Char) : Except EnvError String :=
  match valueFrom vars (utf8Length cs - 1) .text false [] 0 cs with
  | .ok v => .ok (String.ofList v)
  | .error i => .error (.line (String.ofList cs) i)

/-! ## Lines -/

def isNameStart (c : Char) : Bool := c.isAlpha || c == '_'

def isNameChar (c : Char) : Bool := c.isAlphanum || c == '_' || c == '.'

/-- A name and the blanks after it, with what follows; none where there is no name. -/
def name? (cs : List Char) : Option (List Char × List Char) :=
  match cs with
  | c :: _ =>
    if isNameStart c then some (cs.takeWhile isNameChar, Text.trimLeft (cs.dropWhile isNameChar)) else none
  | [] => none

/-- The fault of a line where `rest` of it begins. -/
def fault (line rest : List Char) : EnvError :=
  .line (String.ofList line) (utf8Length (Text.trimRight line) - utf8Length rest)

/-- A name and its value; `rest` is what follows the name. -/
def binding (vars : Vars) (line name rest : List Char) : Except EnvError (Option (String × String)) :=
  match rest with
  | '=' :: r =>
    let r := Text.trimLeft r
    if r.head?.getD '#' = '#' then .ok (some (String.ofList name, ""))
    else (value vars r).map fun v => some (String.ofList name, v)
  | r => .error (fault line r)

/-- The variable that a line sets, if any. -/
def entry (vars : Vars) (line : List Char) : Except EnvError (Option (String × String)) :=
  let start := Text.trimLeft (Text.trimRight line)
  if start.head?.getD '#' = '#' then .ok none
  else
    match name? start with
    | none => .error (fault line start)
    | some (name, rest) =>
      if name = "export".toList ∧ rest.head? ≠ some '=' then
        match name? rest with
        | none => .error (fault line rest)
        | some (name, rest) => binding vars line name rest
      else binding vars line name rest

/-! ## Files -/

/-- The variables of a process. -/
abbrev Env := OrderedMap String

/-- Sets a variable that is not set yet. A NUL ends the value of a variable, so with one in the
    value the program panics. -/
def assign (env : Env) (name value : String) : Except EnvError Env :=
  if (env.get? name).isSome then .ok env
  else if value.toList.contains '\x00' then .error .panic
  else .ok (env.insert name value)

/-- Sets the variables of the lines one after the other. -/
def loadLines (env : Env) : List (Except EnvError (List Char)) → Except EnvError Env
  | [] => .ok env
  | .error e :: _ => .error e
  | .ok l :: ls =>
    match entry env.get? l with
    | .error e => .error e
    | .ok none => loadLines env ls
    | .ok (some (name, value)) =>
      match assign env name value with
      | .error e => .error e
      | .ok env => loadLines env ls

def load (env : Env) (bytes : List UInt8) : Except EnvError Env := loadLines env (lines bytes)

end ApiQuery.EnvFile
