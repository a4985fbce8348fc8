import LineShell.Action
import LineShell.Config
import LineShell.Text.Quoted
import LineShell.Toml.Document
import LineShell.Toml.Excerpt

/-!
Reading the settings of a session. Each setting is the value of its own key at the top of a TOML
document, or the default if the key is absent; other keys mean nothing. A key with a value of the wrong
type spoils the whole document, and the first such key is the one that is complained about.
-/

namespace LineShell

/-- The environment variable that names the file of the settings. -/
def configVariable : String := "MYSH_CONFIG"

/-- The environment variable that names the directory for what is passing. -/
def temporaryVariable : String := "TMPDIR"

/-- Why a text gives no settings: it is no document, or a key has a value of the wrong type. -/
inductive SettingFault where
  | notToml
  | wrongType (span : Toml.Span) (what wanted : String)
  deriving DecidableEq, Repr

/-- Why there are no settings. -/
inductive ConfigError where
  | unreadable (path : Path) (source : Fault)
  | malformed (path : Path) (text : String) (source : SettingFault)
  deriving DecidableEq, Repr

/-- The text of a fault. -/
def SettingFault.message (text : String) : SettingFault → String
  | .notToml => "TOML parse error\n"
  | .wrongType span what wanted => Toml.excerpt text span s!"{what}, expected {wanted}"

/-- The text of an error. -/
def ConfigError.message : ConfigError → String
  | .unreadable path source => s!"failed to read config file {path.display}: {source.message}"
  | .malformed path text source =>
    s!"failed to parse config file {path.display}: {source.message text}"

namespace Config

/-- The settings where nothing is said about them. -/
def standard (temporary : Path) : Config := { logDirectory := temporary }

/-! ### Values of keys -/

/-- What a value is, in a complaint about its type. -/
def describe : Toml.Item → String
  | .value (.string s) _ => "string " ++ Text.quoted s
  | .value (.integer n) _ => s!"integer `{n}`"
  | .value (.float x) _ => s!"floating point `{x.text}`"
  | .value (.boolean b) _ => s!"boolean `{b}`"
  | .value (.array _) _ => "sequence"
  | .value (.datetime _) _ => "map"
  | .value (.table _) _ => "map"
  | .table _ _ _ => "map"
  | .tables _ => "sequence"

/-- Where an item stands, if it stands in one place. An array of tables goes from its first element to
its last. -/
def spanOf : Toml.Item → Option Toml.Span
  | .value _ span => some span
  | .table _ _ span => span
  | .tables elements => do
    let first ← (← elements.head?).2
    let last ← (← elements.getLast?).2
    pure ⟨first.start, last.stop⟩

/-- The complaint about an item of another type than the wanted one. An item that stands in no one place
is looked for in the whole document. -/
def wrongType (whole : Toml.Span) (item : Toml.Item) (wanted : String) : SettingFault :=
  .wrongType ((spanOf item).getD whole) ("invalid type: " ++ describe item) wanted

/-- A text. -/
def textOf (whole : Toml.Span) (wanted : String) : Toml.Item → Except SettingFault String
  | .value (.string s) _ => .ok s
  | item => .error (wrongType whole item wanted)

/-- A number that is not negative. -/
def countOf (whole : Toml.Span) : Toml.Item → Except SettingFault Nat
  | .value (.integer n) span =>
    if 0 ≤ n then .ok n.toNat
    else .error (.wrongType span s!"invalid value: integer `{n}`" "usize")
  | item => .error (wrongType whole item "usize")

/-- Takes over the setting that a key of a document names, if it names one. -/
def assign (whole : Toml.Span) (c : Config) (key : String) (item : Toml.Item) :
    Except SettingFault Config :=
  match key with
  | "prompt" => do pure { c with prompt := ← textOf whole "a string" item }
  | "max_line_length" => do
    pure { c with limits := { c.limits with maxLineLength := ← countOf whole item } }
  | "max_args" => do
    pure { c with limits := { c.limits with maxArgs := ← countOf whole item } }
  | "log_dir" => do
    pure { c with logDirectory := .ofString (← textOf whole "path string" item) }
  | _ => .ok c

/-- The settings that a document gives, in place of some that there are. -/
def ofDocument (c : Config) (document : Toml.Document) : Except SettingFault Config :=
  document.entries.foldlM (fun c e => c.assign document.span e.1 e.2) c

/-- The settings that a text gives. -/
def ofText (temporary : Path) (text : String) : Except SettingFault Config :=
  match Toml.read text with
  | none => .error .notToml
  | some document => ofDocument (standard temporary) document

/-! ### Files -/

/-- The directory for what is passing. -/
def temporaryDirectory : Action Path := do
  let value : Option Bytes ← Action.request (.getVariable temporaryVariable)
  pure (value.elim (.ofString "/tmp") Path.mk)

/-- Reads a file that must be a text. -/
def readText (path : Path) : Action (Except Fault String) := do
  match ← Action.request (.openInput path) with
  | .error e => pure (.error e)
  | .ok d =>
    let reading ← Action.request (.readAll (some d))
    Action.request (.close d)
    match reading.failure, Utf8.decode? reading.bytes with
    | some e, _ => pure (.error e)
    | none, none => pure (.error .notUtf8)
    | none, some text => pure (.ok text)

/-- Reads the settings in a file. -/
def ofFile (path : Path) : Action (Except ConfigError Config) := do
  match ← readText path with
  | .error e => pure (.error (.unreadable path e))
  | .ok text =>
    match ofText (← temporaryDirectory) text with
    | .error e => pure (.error (.malformed path text e))
    | .ok c => pure (.ok c)

/-- Reads the settings in the file that the environment names; without one the defaults hold. -/
def load : Action (Except ConfigError Config) := do
  match ← Action.request (.getVariable configVariable) with
  | some path => ofFile ⟨path⟩
  | none => pure (.ok (standard (← temporaryDirectory)))

end Config
end LineShell
