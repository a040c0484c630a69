import PanelBoard.Config.Decode
import PanelBoard.Config.Validation
import PanelBoard.Text.Utf8
import PanelBoard.Toml.Document

/-!
# Loading configurations

From the bytes of a file to a configuration that was found valid. Each stage
only sees what the stage before accepted.
-/

namespace PanelBoard.Config

open PanelBoard.Text

/-- Why a file could not be read. -/
inductive ReadError where
  | notFound
  | isDirectory
  | notUtf8
  deriving Repr, DecidableEq

/-- The wording of each cause. -/
def ReadError.message : ReadError → String
  | .notFound => "No such file or directory (os error 2)"
  | .isDirectory => "Is a directory (os error 21)"
  | .notUtf8 => "stream did not contain valid UTF-8"

/-- What stands at the path of a configuration file. -/
inductive File where
  | missing
  | directory
  | regular (bytes : List UInt8)

/-- The text of a file. -/
def File.read : File → Except ReadError String
  | .missing => .error .notFound
  | .directory => .error .isDirectory
  | .regular bytes =>
    match Utf8.decode? bytes with
    | some cs => .ok (String.ofList cs)
    | none => .error .notUtf8

/-- Why no configuration was loaded. -/
inductive LoadError where
  | unreadable (cause : ReadError)
  | notToml
  | mismatch (cause : Mismatch)
  | invalid (problems : List Problem)

/-- Messages with a comma between them. -/
def joinMessages (messages : List String) : String :=
  String.intercalate ", " messages

/-- The wording of the causes that have one of their own. -/
def LoadError.message : LoadError → String
  | .unreadable cause => "IO error: " ++ cause.message
  | .notToml => "Parse error"
  | .mismatch cause => cause.message
  | .invalid problems =>
    "Validation failed: " ++ joinMessages (problems.map Problem.message)

/-- A valid configuration from the text of a document. -/
def parse (text : String) : Except LoadError Config :=
  match Toml.parse? text with
  | none => .error .notToml
  | some document =>
    match decode document with
    | .error cause => .error (.mismatch cause)
    | .ok config =>
      match config.validate with
      | .error problems => .error (.invalid problems)
      | .ok () => .ok config

/-- A valid configuration from a file. -/
def load (file : File) : Except LoadError Config :=
  match file.read with
  | .error cause => .error (.unreadable cause)
  | .ok text => parse text

end PanelBoard.Config
