import Tftp.Config.Settings
import Tftp.Operation
import Tftp.Text.Whitespace

/-!
# Command lines

The arguments of the two programs. The server takes
`BIND_IP [-p PORT] [-r ROOT] [--max-sessions N]`, the client
`OPERATION FILE SERVER_IP [-p PORT] [-r ROOT] [--raw]`; what they give overrides the settings
loaded before.

A command line is read left to right. An argument that starts with `-` names an option, and an
option that takes a value takes the next argument whatever it is; `--` ends the options, and
`--help` or `help` asks for the usage text. Every other argument fills the next positional slot.
The first argument that does not fit stops the reading with its message, so a bad value is
reported before anything after it is looked at; a slot left empty is reported at the end.
-/

namespace Tftp.Command

open Tftp.Net Tftp.Config

/-- What an option does to the arguments read so far. -/
inductive OptionKind (α : Type) where
  /-- A switch, set by its mere presence. -/
  | switch (set : α → α)
  /-- An option with a value, which it reads or rejects with a reason. -/
  | value (set : String → α → Except String α)

/-- An option: its long name, its one-letter name if any, its help line and what it does. -/
structure OptionSpec (α : Type) where
  long : String
  short : Option Char := none
  help : String
  kind : OptionKind α

/-- A positional argument: its name, its help line, and how its text is read. -/
structure PositionalSpec (α : Type) where
  name : String
  help : String
  set : String → α → Except String α

/-- A command: how it is invoked, what it is, its options and positional arguments, and examples
of its use (a title and a command line each). -/
structure Spec (α : Type) where
  command : String
  description : String
  options : List (OptionSpec α)
  positionals : List (PositionalSpec α)
  examples : List (String × String) := []

/-- What reading a command line gives: arguments to run with, a usage text to print, or an error
message. -/
inductive Parsed (α : Type) where
  | run (args : α)
  | help (text : String)
  | error (text : String)

/-- An unsigned decimal number in `0 ..= max`, possibly after a `+`, or what is wrong with the
text: that it is empty, that it holds a character other than a digit, or that the number is too
large. -/
def readUnsigned (max : Nat) (text : String) : Except String Nat :=
  let digits := match text.toList with
    | '+' :: rest => rest
    | cs => cs
  if text.isEmpty then .error "cannot parse integer from empty string"
  else if digits.isEmpty || !digits.all Char.isDigit then .error "invalid digit found in string"
  else
    let n := digits.foldl (fun acc c => acc * 10 + (c.toNat - '0'.toNat)) 0
    if n ≤ max then .ok n else .error "number too large to fit in target type"

/-- An IPv4 address in dotted decimal. -/
def readIpv4 (text : String) : Except String IpAddr :=
  match parseAll ipv4 text with
  | some (a, b, c, d) => .ok (.v4 a b c d)
  | none => .error "invalid IPv4 address syntax"

/-- Fills an optional slot once; a second value is refused. -/
def fillOnce {β : Type} (slot : Option β) (v : β) : Except String β :=
  match slot with
  | some _ => .error "duplicate values provided"
  | none => .ok v

/-- How an option is shown in the usage line. -/
def OptionSpec.usage {α : Type} (o : OptionSpec α) : String :=
  let name := match o.short with
    | some c => String.ofList ['-', c]
    | none => "--" ++ o.long
  match o.kind with
  | .switch _ => "[" ++ name ++ "]"
  | .value _ => "[" ++ name ++ " <" ++ o.long ++ ">]"

namespace Spec

variable {α : Type}

/-- The option an argument names, by `--long` or `-s`. -/
def find? (spec : Spec α) (arg : String) : Option (OptionSpec α) :=
  spec.options.find? fun o =>
    arg == "--" ++ o.long || o.short.any (fun c => arg == String.ofList ['-', c])

/-- A line of a table: a name, then its help from the twentieth column, or on the next line
when the name is too long. -/
def tableLine (name help : String) : String :=
  let head := "  " ++ name
  if head.length < 20 then head ++ String.ofList (List.replicate (20 - head.length) ' ') ++ help
  else head ++ "\n" ++ String.ofList (List.replicate 20 ' ') ++ help

/-- The usage text. -/
def helpText (spec : Spec α) : String :=
  let usage := " ".intercalate
    ("Usage:" :: spec.command :: spec.positionals.map (fun p => "<" ++ p.name ++ ">") ++
      spec.options.map OptionSpec.usage)
  let positionals := spec.positionals.map fun p => tableLine p.name p.help
  let options := spec.options.map (fun o =>
      let names := match o.short with
        | some c => String.ofList ['-', c] ++ ", --" ++ o.long
        | none => "--" ++ o.long
      tableLine names o.help) ++
    [tableLine "--help, help" "display usage information"]
  let examples := spec.examples.map fun (title, line) => "  " ++ title ++ "\n    " ++ line
  let sections :=
    [usage, spec.description, "Positional Arguments:\n" ++ "\n".intercalate positionals,
      "Options:\n" ++ "\n".intercalate options] ++
    (if examples.isEmpty then [] else ["Examples:\n" ++ "\n\n".intercalate examples])
  "\n\n".intercalate sections

/-- The message for slots left empty. -/
def missingText (names : List String) : String :=
  "Required positional arguments not provided:" ++
    String.join (names.map fun n => "\n    " ++ n) ++ "\n"

/-- Reads the arguments after the command, starting from `init`: the arguments read, how many
positional slots they filled, and whether help was asked for. -/
def scan (spec : Spec α) :
    List String → α → Nat → Bool → Bool → Except String (α × Nat × Bool)
  | [], a, filled, _, help => .ok (a, filled, help)
  | arg :: rest, a, filled, ended, help =>
    if !ended && (arg == "--help" || arg == "help") then spec.scan rest a filled ended true
    else if !ended && arg.startsWith "-" then
      if arg == "--" then spec.scan rest a filled true help
      else if help then .error "Trailing arguments are not allowed after `help`."
      else match spec.find? arg with
        | none => .error ("Unrecognized argument: " ++ arg ++ "\n")
        | some o => match o.kind with
          | .switch set => spec.scan rest (set a) filled ended help
          | .value set => match rest with
            | [] => .error ("No value provided for option '" ++ arg ++ "'.\n")
            | v :: more => match set v a with
              | .ok a => spec.scan more a filled ended help
              | .error why =>
                .error ("Error parsing option '" ++ arg ++ "' with value '" ++ v ++ "': " ++
                  why ++ "\n")
    else match spec.positionals[filled]? with
      | none => .error ("Unrecognized argument: " ++ arg ++ "\n")
      | some p => match p.set arg a with
        | .ok a => spec.scan rest a (filled + 1) ended help
        | .error why =>
          .error ("Error parsing positional argument '" ++ p.name ++ "' with value '" ++ arg ++
            "': " ++ why ++ "\n")

/-- Reads a command line. -/
def parse (spec : Spec α) (init : α) (args : List String) : Parsed α :=
  match spec.scan args init 0 false false with
  | .error text => .error text
  | .ok (_, _, true) => .help spec.helpText
  | .ok (a, filled, false) =>
    if filled < spec.positionals.length then
      .error (missingText ((spec.positionals.drop filled).map (·.name)))
    else .run a

end Spec

/-! ## The server -/

/-- The console line that stops a server. -/
def endCommand : String := "END_SERVER"

/-- Whether a console line asks the server to stop: `END_SERVER` with white space around it. -/
def isEndCommand (line : String) : Bool := Text.trim line == endCommand

/-- The server's arguments. -/
structure ServerArgs where
  bindIp : IpAddr := .unspecified
  port : Option UInt16 := none
  root : Option String := none
  maxSessions : Option Nat := none

/-- The server's command line. -/
def serverSpec : Spec ServerArgs where
  command := "tftp server"
  description := "TFTP server with delete support"
  positionals := [
    { name := "bind_ip", help := "IPv4 address to listen on"
      set := fun v a => return { a with bindIp := ← readIpv4 v } }]
  options := [
    { long := "port", short := some 'p', help := "request port (default 69)"
      kind := .value fun v a => do
        let n ← readUnsigned 65535 v
        return { a with port := some (← fillOnce a.port n.toUInt16) } },
    { long := "root", short := some 'r', help := "name of the store of served files"
      kind := .value fun v a => do return { a with root := some (← fillOnce a.root v) } },
    { long := "max-sessions", help := "maximum concurrent transfers"
      kind := .value fun v a => do
        let n ← readUnsigned (UInt64.size - 1) v
        return { a with maxSessions := some (← fillOnce a.maxSessions n) } }]
  examples := [
    ("Serve on all interfaces:", "tftp server 0.0.0.0"),
    ("Unprivileged port and a named store:", "tftp server 127.0.0.1 --port 6969 --root store")]

/-- Settings with the server's arguments applied. -/
def ServerArgs.apply (a : ServerArgs) (s : ServerSettings) : ServerSettings :=
  { s with
    bindIp := a.bindIp
    port := a.port.getD s.port
    rootDir := a.root.getD s.rootDir
    maxSessions := a.maxSessions.getD s.maxSessions }

/-! ## The client -/

/-- The client's arguments. -/
structure ClientArgs where
  operation : Operation := .read
  file : String := ""
  serverIp : IpAddr := .localhost
  port : Option UInt16 := none
  root : Option String := none
  raw : Bool := false

/-- The client's command line. -/
def clientSpec : Spec ClientArgs where
  command := "tftp client"
  description := "TFTP client with delete and compression support"
  positionals := [
    { name := "operation", help := "operation: read, write or delete"
      set := fun v a => match Operation.parse v with
        | .ok op => .ok { a with operation := op }
        | .error e => .error e.message },
    { name := "file", help := "file name"
      set := fun v a => .ok { a with file := v } },
    { name := "server_ip", help := "server IPv4 address"
      set := fun v a => return { a with serverIp := ← readIpv4 v } }]
  options := [
    { long := "port", short := some 'p', help := "server request port (default 69)"
      kind := .value fun v a => do
        let n ← readUnsigned 65535 v
        return { a with port := some (← fillOnce a.port n.toUInt16) } },
    { long := "root", short := some 'r', help := "name of the local store"
      kind := .value fun v a => do return { a with root := some (← fillOnce a.root v) } },
    { long := "raw", help := "transfer files without compression"
      kind := .switch fun a => { a with raw := true } }]
  examples := [
    ("Upload notes.txt from standard input:", "tftp client write notes.txt 192.168.1.10"),
    ("Download without compression:", "tftp client read image.bin 192.168.1.10 --raw")]

/-- Settings with the client's arguments applied: the server's port stays unless one is given. -/
def ClientArgs.apply (a : ClientArgs) (c : ClientSettings) : ClientSettings :=
  { c with
    server := .ofIp a.serverIp (a.port.getD c.server.port)
    rootDir := a.root.getD c.rootDir
    compress := c.compress && !a.raw }

end Tftp.Command
