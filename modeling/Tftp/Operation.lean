/-!
# Operations

What a request asks for: reading a file from the server, writing one to it, or deleting one on
it. An operation is named in text by `read`/`get`, `write`/`put` or `delete`/`del`, in any ASCII
case.
-/

namespace Tftp

/-- What a request asks for. -/
inductive Operation where
  | read
  | write
  | delete
  deriving DecidableEq, Repr, Inhabited

namespace Operation

/-- The canonical lowercase name. -/
def name : Operation → String
  | read => "read"
  | write => "write"
  | delete => "delete"

instance : ToString Operation := ⟨name⟩

/-- Why a text names no operation: the text itself. -/
structure ParseError where
  text : String
  deriving DecidableEq, Repr

/-- The message of a text that names no operation. -/
def ParseError.message (e : ParseError) : String :=
  "unknown operation '" ++ e.text ++ "' (expected read, write or delete)"

/-- The operation named by `text`, compared after ASCII lowercasing. -/
def parse (text : String) : Except ParseError Operation :=
  match String.ofList (text.toList.map Char.toLower) with
  | "read" | "get" => .ok read
  | "write" | "put" => .ok write
  | "delete" | "del" => .ok delete
  | _ => .error ⟨text⟩

theorem parse_name (op : Operation) : parse op.name = .ok op := by
  cases op <;> rfl

end Operation

end Tftp
