import Tftp.Config.Read
import Tftp.Text.Whitespace

/-!
# Settings from the environment

Four variables override settings: `TFTP_SERVER_ROOT` and `TFTP_CLIENT_ROOT` replace the root
when they are not empty, `TFTP_TIMEOUT_MS` replaces the timeout, and `TFTP_MAX_RETRIES` the
retry budget, raised to at least one. A number is read from the variable's text with white space
trimmed: decimal digits, possibly after a `+`, and within the field's range; any other text
leaves the setting alone.

Loading reads a settings file, if there is one and it is well formed, over the defaults, and
then applies the variables.
-/

namespace Tftp.Config

/-- The variable naming the server's root. -/
def serverRootVar : String := "TFTP_SERVER_ROOT"

/-- The variable naming the client's root. -/
def clientRootVar : String := "TFTP_CLIENT_ROOT"

/-- The variable giving the timeout in milliseconds. -/
def timeoutVar : String := "TFTP_TIMEOUT_MS"

/-- The variable giving the retry budget. -/
def maxRetriesVar : String := "TFTP_MAX_RETRIES"

/-- The environment, as a lookup of variables. -/
abbrev Env := String → Option String

/-- An unsigned decimal number of at most `max`, possibly after a `+`. -/
def parseUnsigned (max : Nat) (text : String) : Option Nat :=
  let digits := match text.toList with
    | '+' :: rest => rest
    | cs => cs
  if digits.isEmpty || !digits.all Char.isDigit then none
  else
    let n := digits.foldl (fun acc c => acc * 10 + (c.toNat - '0'.toNat)) 0
    if n ≤ max then some n else none

/-- The number a variable holds, if it is set to one. -/
def numberVar (env : Env) (max : Nat) (key : String) : Option Nat :=
  (env key).bind fun raw => parseUnsigned max (Text.trim raw)

/-- A variable's value when it is set and not empty. -/
def nonEmptyVar (env : Env) (key : String) : Option String :=
  (env key).filter (!·.isEmpty)

/-- Applies the timeout and retry variables. -/
def TransferSettings.applyEnv (env : Env) (t : TransferSettings) : TransferSettings :=
  let t := match numberVar env Json.u64Max timeoutVar with
    | some ms => { t with timeoutMs := ms }
    | none => t
  match numberVar env u32Max maxRetriesVar with
  | some n => { t with maxRetries := max n 1 }
  | none => t

/-- Applies the variables to server settings. -/
def ServerSettings.applyEnv (env : Env) (s : ServerSettings) : ServerSettings :=
  let s := match nonEmptyVar env serverRootVar with
    | some root => { s with rootDir := root }
    | none => s
  { s with transfer := s.transfer.applyEnv env }

/-- Applies the variables to client settings. -/
def ClientSettings.applyEnv (env : Env) (c : ClientSettings) : ClientSettings :=
  let c := match nonEmptyVar env clientRootVar with
    | some root => { c with rootDir := root }
    | none => c
  { c with transfer := c.transfer.applyEnv env }

/-- Server settings from an optional file's text and the environment. -/
def ServerSettings.load (file : Option String) (env : Env) : ServerSettings :=
  let base := match file.map ServerSettings.ofJson with
    | some (.ok s) => s
    | _ => .default
  base.applyEnv env

/-- Client settings from an optional file's text and the environment. -/
def ClientSettings.load (file : Option String) (env : Env) : ClientSettings :=
  let base := match file.map ClientSettings.ofJson with
    | some (.ok c) => c
    | _ => .default
  base.applyEnv env

end Tftp.Config
