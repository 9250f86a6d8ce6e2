/-
  ApiQuery.Proofs.Lookup — which configuration is taken.

  The environment file is the nearest one (`nearest?_eq_some_iff`), and its fault ends the
  lookup (`Ends`). Else one path is chosen: the process names it before the file does, and
  the default path comes last (`chosen?`). What is answered is what the file at that path is
  (`FileAnswer`), good or bad; no other candidate takes its place (`load_law`).

  A file that can be read and parsed may end the lookup all the same, without an answer: a
  value with a NUL makes the program panic (`nul_in_value_panics`).
-/

import ApiQuery.Config.Lookup
import ApiQuery.Proofs.BaseUrl
import ApiQuery.Proofs.DefaultHeaders
import ApiQuery.Proofs.Panics
import ApiQuery.Proofs.PlainLines

namespace ApiQuery

/-! ## Valid configurations -/

/-- A web address and two timeouts. -/
structure ClientConfig.Valid (c : ClientConfig) : Prop where
  web : ∃ scheme rest, Url.IsWebScheme scheme ∧ c.baseUrl.toList = scheme ++ ':' :: '/' :: '/' :: rest
  timeout : c.timeoutSeconds ≠ 0
  connectTimeout : c.connectTimeoutSeconds ≠ 0

theorem ClientConfig.validate_eq_ok_iff (c : ClientConfig) : c.validate = .ok () ↔ c.Valid := by
  constructor
  · intro h
    have hweb := isWebUrl_of_validate h
    unfold validate at h
    split at h
    · cases h
    · split at h
      · cases h
      · split at h
        · cases h
        · next ht =>
          split at h
          · cases h
          · next hc => exact ⟨isWebUrl_iff.1 hweb, ht, hc⟩
  · rintro ⟨hweb, ht, hc⟩
    have hw := isWebUrl_iff.2 hweb
    have hne : c.baseUrl ≠ "" := by
      intro he
      rw [he] at hw
      exact absurd hw (by decide)
    rw [validate, if_neg hne, hw, if_neg ht, if_neg hc]
    rfl

/-! ## The nearest file -/

namespace Files

/-- The first answer from a number downwards is that of the last number that has one. -/
theorem findSome?_downwards {α : Type} (f : Nat → Option α) (n : Nat) (a : α) :
    (List.range (n + 1)).reverse.findSome? f = some a ↔ ∃ i ≤ n, f i = some a ∧ ∀ j, i < j → j ≤ n → f j = none := by
  induction n with
  | zero =>
    show ([0] : List Nat).findSome? f = some a ↔ _
    rw [List.findSome?_singleton]
    constructor
    · exact fun h => ⟨0, Nat.le_refl 0, h, fun j hj hle => absurd hle (Nat.not_le.2 hj)⟩
    · rintro ⟨i, hi, h, -⟩
      exact Nat.le_zero.1 hi ▸ h
  | succ n ih =>
    rw [List.range_succ, List.reverse_concat, List.findSome?_cons]
    cases hf : f (n + 1) with
    | some b =>
      constructor
      · intro h
        exact ⟨n + 1, Nat.le_refl _, hf.trans h, fun j hj hle => absurd hle (Nat.not_le.2 hj)⟩
      · rintro ⟨i, hi, h, hlast⟩
        rcases Nat.lt_or_eq_of_le hi with hlt | rfl
        · cases hf.symm.trans (hlast _ hlt (Nat.le_refl _))
        · exact hf.symm.trans h
    | none =>
      refine ih.trans ⟨?_, ?_⟩
      · rintro ⟨i, hi, h, hlast⟩
        refine ⟨i, Nat.le_succ_of_le hi, h, fun j hj hle => ?_⟩
        rcases Nat.lt_or_eq_of_le hle with hlt | rfl
        · exact hlast j hj (Nat.le_of_lt_succ hlt)
        · exact hf
      · rintro ⟨i, hi, h, hlast⟩
        rcases Nat.lt_or_eq_of_le hi with hlt | rfl
        · exact ⟨i, Nat.le_of_lt_succ hlt, h, fun j hj hle => hlast j hj (Nat.le_succ_of_le hle)⟩
        · cases hf.symm.trans h

/-- The nearest file stands in the working directory or above it, and in no directory between. -/
theorem nearest?_eq_some_iff (fs : Files) (name : String) (t : FileTree) :
    fs.nearest? name = some t ↔ ∃ n ≤ fs.cwd.length, fs.fileIn? (fs.cwd.take n) name = some t ∧
      ∀ m, n < m → m ≤ fs.cwd.length → fs.fileIn? (fs.cwd.take m) name = none := by
  rw [nearest?, ancestors, List.findSome?_map]
  exact findSome?_downwards _ _ _

end Files

/-! ## The file at a path -/

namespace AppConfig

/-- What the text of a document says. -/
def inText? (s : String) : Option AppConfig := Toml.parse s >>= ofToml?

/-- What an answer says of the file at a path. -/
def FileAnswer (fs : Files) (path : String) : Except ConfigError AppConfig → Prop
  | .error (.file e) =>
    fs.read path = .error e ∨ e = .notUtf8 ∧ ∃ bytes, fs.read path = .ok bytes ∧ ∀ s, bytes ≠ Utf8.encode s
  | .error .document => ∃ s, fs.read path = .ok (Utf8.encode s) ∧ inText? s = none
  | .error (.invalid fault) =>
    ∃ s c, fs.read path = .ok (Utf8.encode s) ∧ inText? s = some c ∧ c.validate = .error fault
  | .error (.env _) | .error .noPath => False
  | .ok c => ∃ s, fs.read path = .ok (Utf8.encode s) ∧ inText? s = some c ∧ c.client.Valid

theorem ofText_eq (s : String) : ofText s =
    match inText? s with
    | none => .error .document
    | some c =>
      match c.validate with
      | .ok () => .ok c
      | .error fault => .error (.invalid fault) := rfl

theorem ofText_eq_ok_iff (s : String) (c : AppConfig) : ofText s = .ok c ↔ inText? s = some c ∧ c.client.Valid := by
  rw [ofText_eq]
  constructor
  · intro h
    cases ht : inText? s with
    | none => rw [ht] at h; cases h
    | some d =>
      cases hv : d.validate with
      | error fault => simp only [ht, hv] at h; cases h
      | ok _ =>
        simp only [ht, hv] at h
        cases h
        exact ⟨rfl, c.client.validate_eq_ok_iff.1 hv⟩
  · rintro ⟨ht, hv⟩
    have hok : c.validate = .ok () := c.client.validate_eq_ok_iff.2 hv
    simp only [ht, hok]

theorem ofFile_of_read {fs : Files} {path s : String} (h : fs.read path = .ok (Utf8.encode s)) :
    ofFile fs path = ofText s := by
  rw [ofFile, h]
  simp only [Utf8.decode?_encode]

theorem fileAnswer_ofFile (fs : Files) (path : String) : FileAnswer fs path (ofFile fs path) := by
  cases hr : fs.read path with
  | error e =>
    rw [ofFile, hr]
    exact .inl hr
  | ok bytes =>
    cases hd : Utf8.decode? bytes with
    | none =>
      rw [ofFile, hr]
      simp only [hd]
      refine .inr ⟨rfl, bytes, hr, fun s hs => ?_⟩
      cases hd.symm.trans (Utf8.decode?_eq_some_iff.2 hs)
    | some s =>
      cases Utf8.decode?_eq_some_iff.1 hd
      rw [ofFile_of_read hr, ofText_eq]
      cases ht : inText? s with
      | none => exact ⟨s, hr, ht⟩
      | some c =>
        cases hv : c.validate with
        | error fault =>
          simp only [hv]
          exact ⟨s, c, hr, ht, hv⟩
        | ok _ =>
          simp only [hv]
          exact ⟨s, hr, ht, c.client.validate_eq_ok_iff.1 hv⟩

/-- The answer is the one that the file bears out, and there is no other. -/
theorem ofFile_eq_iff (fs : Files) (path : String) (r : Except ConfigError AppConfig) :
    ofFile fs path = r ↔ FileAnswer fs path r := by
  refine ⟨fun h => h ▸ fileAnswer_ofFile fs path, fun h => ?_⟩
  match r with
  | .ok c =>
    obtain ⟨s, hr, hc⟩ := h
    rw [ofFile_of_read hr]
    exact (ofText_eq_ok_iff s c).2 hc
  | .error (.file e) =>
    rcases h with hr | ⟨rfl, bytes, hr, hn⟩
    · rw [ofFile, hr]
    · rw [ofFile, hr]
      cases hd : Utf8.decode? bytes with
      | none => simp only [hd]
      | some s => exact absurd (Utf8.decode?_eq_some_iff.1 hd) (hn s)
  | .error .document =>
    obtain ⟨s, hr, ht⟩ := h
    rw [ofFile_of_read hr, ofText_eq, ht]
  | .error (.invalid fault) =>
    obtain ⟨s, c, hr, ht, hv⟩ := h
    rw [ofFile_of_read hr, ofText_eq, ht]
    simp only [hv]
  | .error (.env _) => exact h.elim
  | .error .noPath => exact h.elim

theorem valid_of_ofText {s : String} {c : AppConfig} (h : ofText s = .ok c) : c.client.Valid :=
  ((ofText_eq_ok_iff s c).1 h).2

theorem valid_of_ofFile {fs : Files} {path : String} {c : AppConfig} (h : ofFile fs path = .ok c) :
    c.client.Valid := by
  obtain ⟨s, -, -, hv⟩ := (ofFile_eq_iff fs path _).1 h
  exact hv

/-! ## The path -/

/-- What the environment file assigns, nothing if there is none; or why it cannot be had. -/
def assigned (env : EnvFile.Env) (fs : Files) : Except EnvError (List (String × String)) :=
  match fs.nearest? envFileName with
  | none => .ok []
  | some file =>
    match file.read with
    | .error e => .error (.file e)
    | .ok bytes => EnvFile.assignments env bytes

/-- The path that the process names, else the one that the environment file names first, else
    the default path if something is there. -/
def chosen? (env : EnvFile.Env) (fs : Files) (es : List (String × String)) : Option String :=
  match env.get? configVariable, es.lookup configVariable with
  | some p, _ => some p
  | none, some p => some p
  | none, none => if fs.exists? defaultConfigPath then some defaultConfigPath else none

theorem environment_sets (env : EnvFile.Env) (fs : Files) :
    EnvFile.Sets env (assigned env fs) (environment env fs) := by
  rw [assigned, environment]
  cases fs.nearest? envFileName with
  | none => exact .done fun _ => Option.or_none.symm
  | some file =>
    cases hr : file.read with
    | error e => simp only [hr]; exact .fault (.file e)
    | ok bytes => simp only [hr]; exact EnvFile.load_sets env bytes

theorem pathIn?_eq_chosen? {env now : EnvFile.Env} {fs : Files} {es : List (String × String)}
    (h : now.get? configVariable = EnvFile.valueOf env es configVariable) : pathIn? now fs = chosen? env fs es := by
  rw [pathIn?, h, EnvFile.valueOf, chosen?]
  cases env.get? configVariable <;> cases es.lookup configVariable <;> rfl

/-- A fault of the environment file is the answer; else the file at the chosen path is, if one
    is chosen. -/
theorem load_eq (env : EnvFile.Env) (fs : Files) : load env fs =
    match assigned env fs with
    | .error e => .error (.env e)
    | .ok es =>
      match chosen? env fs es with
      | some path => ofFile fs path
      | none => .error .noPath := by
  rw [load]
  have hs := environment_sets env fs
  revert hs
  generalize assigned env fs = given
  generalize environment env fs = result
  intro hs
  cases hs with
  | fault e => rfl
  | @done es now h =>
    have hp : pathIn? now fs = chosen? env fs es := pathIn?_eq_chosen? (h configVariable)
    cases hc : chosen? env fs es <;> simp only [hp, hc]

/-- A locked environment file, though the process names a path. -/
example : load (.ofList [(configVariable, "a.toml")]) ⟨.dir [(envFileName, .locked)], []⟩ =
    .error (.env (.file .denied)) := rfl

/-! ## What the environment file does -/

/-- How the environment file ends a lookup: it cannot be read, or a line stops its run. -/
inductive Ends (env : EnvFile.Env) (fs : Files) : EnvError → Prop where
  | unreadable {file : FileTree} {e : FileError} : fs.nearest? envFileName = some file → file.read = .error e →
      Ends env fs (.file e)
  | stopped {file : FileTree} {bytes : List UInt8} {before after : List (Except EnvError (List Char))}
      {line : Except EnvError (List Char)} {done : List (String × String)} {x : EnvError} :
      fs.nearest? envFileName = some file → file.read = .ok bytes →
      EnvFile.lines bytes = before ++ line :: after → EnvFile.assignmentsOf env before = .ok done →
      EnvFile.Stops env done line x → Ends env fs x

theorem assigned_of_file {env : EnvFile.Env} {fs : Files} {bytes : List UInt8}
    (h : fs.nearest? envFileName = some (.file bytes)) : assigned env fs = EnvFile.assignments env bytes := by
  rw [assigned, h]
  rfl

theorem assigned_eq_error_iff {env : EnvFile.Env} {fs : Files} {x : EnvError} :
    assigned env fs = .error x ↔ Ends env fs x := by
  constructor
  · intro h
    unfold assigned at h
    split at h
    · cases h
    · next file hfile =>
      split at h
      · next e he =>
        cases h
        exact .unreadable hfile he
      · next bytes hbytes =>
        obtain ⟨before, line, after, done, hl, hb, hs⟩ := EnvFile.assignmentsOf_eq_error_iff.1 h
        exact .stopped hfile hbytes hl hb hs
  · intro h
    cases h with
    | unreadable hfile he => simp only [assigned, hfile, he]
    | stopped hfile hbytes hl hb hs =>
      simp only [assigned, hfile, hbytes]
      exact EnvFile.assignmentsOf_eq_error_iff.2 ⟨_, _, _, _, hl, hb, hs⟩

theorem assigned_eq_panic_iff {env : EnvFile.Env} {fs : Files} :
    assigned env fs = .error .panic ↔ ∃ bytes, fs.nearest? envFileName = some (.file bytes) ∧
      ∃ before l after done e, EnvFile.lines bytes = before ++ .ok l :: after ∧
        EnvFile.assignmentsOf env before = .ok done ∧ EnvFile.entry (EnvFile.valueOf env done) l = .ok (some e) ∧
        EnvFile.Unsettable env done e := by
  simp only [← EnvFile.assignments_eq_panic_iff]
  constructor
  · intro h
    cases assigned_eq_error_iff.1 h with
    | @stopped file bytes _ _ _ _ _ hfile hbytes _ _ _ =>
      cases file with
      | file content => exact ⟨content, hfile, assigned_of_file hfile ▸ h⟩
      | locked => cases hbytes
      | dir entries => cases hbytes
  · intro h
    obtain ⟨bytes, hfile, hpanic⟩ := h
    exact (assigned_of_file hfile).trans hpanic

/-- Only the environment file gives an error of its kind, or a panic. -/
theorem load_eq_env_iff {env : EnvFile.Env} {fs : Files} {x : EnvError} :
    load env fs = .error (.env x) ↔ assigned env fs = .error x := by
  rw [load_eq]
  constructor
  · intro h
    split at h
    · next e he =>
      cases h
      exact he
    · split at h
      · exact absurd ((ofFile_eq_iff fs _ _).1 h) id
      · cases h
  · intro h
    rw [h]

theorem load_of_named {env : EnvFile.Env} {fs : Files} {es : List (String × String)} {path : String}
    (hes : ∀ e ∈ es, EnvFile.Plain e) (hfile : fs.nearest? envFileName = some (.file (EnvFile.fileOf es)))
    (hset : env.get? configVariable = none) (hpath : es.lookup configVariable = some path) :
    load env fs = ofFile fs path := by
  have hchosen : chosen? env fs es = some path := by
    unfold chosen?
    rw [hset, hpath]
  rw [load_eq, assigned_of_file hfile, EnvFile.assignments_plain env hes]
  simp only [hchosen]

/-- A locked file, though the default file is there. -/
example : load .empty ⟨.dir [(envFileName, .file (EnvFile.fileOf [(configVariable, "a.toml")])),
    ("a.toml", .locked), ("querywire.toml", .file [])], []⟩ = .error (.file .denied) := rfl

/-- What a lookup owes to the environment file. -/
structure HeedsEnvFile (env : EnvFile.Env) (fs : Files) : Prop where
  /-- It is the nearest file of its name. -/
  nearest : ∀ t, fs.nearest? envFileName = some t ↔ ∃ n ≤ fs.cwd.length,
    fs.fileIn? (fs.cwd.take n) envFileName = some t ∧
      ∀ m, n < m → m ≤ fs.cwd.length → fs.fileIn? (fs.cwd.take m) envFileName = none
  /-- It ends the lookup, whatever else is there, just if it cannot be read or a line stops its
      run: one at fault, or one that makes the program panic. -/
  ends : ∀ x, load env fs = .error (.env x) ↔ Ends env fs x
  /-- There is a panic just if a line, with nothing at fault before it, assigns a value with a
      NUL to a variable that is not set. -/
  panics : load env fs = .error (.env .panic) ↔ ∃ bytes, fs.nearest? envFileName = some (.file bytes) ∧
    ∃ before l after done e, EnvFile.lines bytes = before ++ .ok l :: after ∧
      EnvFile.assignmentsOf env before = .ok done ∧ EnvFile.entry (EnvFile.valueOf env done) l = .ok (some e) ∧
      EnvFile.Unsettable env done e
  /-- Without a NUL there is no panic. -/
  calm : EnvFile.Clean env.get? → (∀ bytes, fs.nearest? envFileName = some (.file bytes) → 0 ∉ bytes) →
    load env fs ≠ .error (.env .panic)
  /-- Plain lines name the path, where the process does not. -/
  names : ∀ es path, (∀ e ∈ es, EnvFile.Plain e) → fs.nearest? envFileName = some (.file (EnvFile.fileOf es)) →
    env.get? configVariable = none → es.lookup configVariable = some path → load env fs = ofFile fs path
  /-- A quote that is not closed is a fault. -/
  quotes : ∀ es name q rest, (∀ e ∈ es, EnvFile.Plain e) → EnvFile.IsName name → q = '"' ∨ q = '\x27' →
    (∀ c ∈ rest, c ≠ '\\' ∧ c ≠ q) →
    fs.nearest? envFileName =
      some (.file (EnvFile.fileOf es ++ Utf8.encode (String.ofList (name ++ ['=', q] ++ rest)))) →
    load env fs = .error (.env (.line (String.ofList (name ++ ['=', q] ++ rest))
      (EnvFile.utf8Length (name ++ ['=', q] ++ rest))))

theorem heedsEnvFile (env : EnvFile.Env) (fs : Files) : HeedsEnvFile env fs where
  nearest := fs.nearest?_eq_some_iff envFileName
  ends _ := load_eq_env_iff.trans assigned_eq_error_iff
  panics := load_eq_env_iff.trans assigned_eq_panic_iff
  calm hclean hnul hpanic := by
    obtain ⟨bytes, hfile, hstops⟩ := assigned_eq_panic_iff.1 (load_eq_env_iff.1 hpanic)
    exact EnvFile.assignments_ne_panic hclean (hnul bytes hfile) ((EnvFile.assignments_eq_panic_iff env bytes).2 hstops)
  names _ _ hes hfile hset hpath := load_of_named hes hfile hset hpath
  quotes es name q rest hes hname hquote hrest hfile := by
    rw [load_eq_env_iff, assigned_of_file hfile, EnvFile.assignments_open env hes hname hquote hrest]

theorem valid_of_load {env : EnvFile.Env} {fs : Files} {c : AppConfig} (h : load env fs = .ok c) : c.client.Valid := by
  rw [load_eq] at h
  split at h
  · cases h
  · split at h
    · exact valid_of_ofFile h
    · cases h

end AppConfig

theorem WebClient.config_of_ofConfig {config : ClientConfig} {c : WebClient} (h : ofConfig config = .ok c) :
    c.config = config :=
  (get?_defaults h "").1

theorem Api.loaded_of_ofLoaded {r : Except ConfigError AppConfig} {w : WebClient} (h : ofLoaded r = .ok w) :
    ∃ c, r = .ok c ∧ c.client.Valid ∧ w.config = c.client := by
  cases r with
  | error e => cases h
  | ok c =>
    rw [ofLoaded, clientOf] at h
    cases hv : c.validate with
    | error fault => rw [hv] at h; cases h
    | ok _ =>
      cases hw : WebClient.ofConfig c.client with
      | error e => rw [hv, hw] at h; cases h
      | ok client =>
        rw [hv, hw] at h
        cases h
        exact ⟨c, rfl, c.client.validate_eq_ok_iff.1 hv, WebClient.config_of_ofConfig hw⟩

namespace AppConfig

end AppConfig

end ApiQuery
