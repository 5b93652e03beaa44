/-
# Printing values

`Store.render` writes a value much as a script would: texts in double quotes,
lists in brackets, objects as `key: value` in braces, functions by their
parameters or their name.  `Store.display` is the same without the quotes
around a text.

Keys of objects and the items of tuples are written by `Store.inspect`, whose
style is that of messages: `None`, `True`, texts in single quotes, and `...`
where a container stands inside itself.
-/
import Scriptlet.Value.Compare
import Scriptlet.Numeric.Decimal
import Scriptlet.Text.Quoted

namespace Scriptlet

/-- An integer in decimal, unless that takes too many digits. -/
def integerText (n : Int) : Except Obstacle String :=
  if Decimal.tenTo digitLimit ≤ n.natAbs then .error .integerTooLong
  else .ok (toString n)

def Closure.summary (c : Closure) : String := "<fn (" ++ ", ".intercalate c.params ++ ")>"

/-- The name under which a function of the host is printed: its own name, or else the
word for its type, without underscores in front. -/
def HostFunction.title (f : HostFunction) : String :=
  let name := if f.name == "" then f.type else f.name
  String.ofList (name.toList.dropWhile (· == '_'))

/-- The name of a function that no script made. -/
def Callable.name : Callable → String
  | closure c => c.summary
  | library _ f => f.name
  | host f => f.title

/-- A function by its parameters or its name. -/
def Callable.summary : Callable → String
  | closure c => c.summary
  | f => "<builtin " ++ f.name ++ ">"

namespace Frame

/-- A frame by its names, in the order of the alphabet. -/
def summary (frame : Frame) : String :=
  let names := frame.names.mergeSort fun a b => a ≤ b
  "<Environment [" ++ ", ".intercalate (names.map Text.quoted) ++ "]>"

end Frame

namespace Store

/-- Texts with commas between them. -/
def commas (parts : List String) : String := ", ".intercalate parts

/-- A value in the style of messages; `outer` are the containers it stands in. -/
def inspectUpTo (s : Store) : Nat → List Value → Value → Except Obstacle String
  | 0, _, _ => .error .tooDeep
  | depth + 1, outer, v =>
    match v with
    | .nothing => .ok "None"
    | .bool b => .ok (if b then "True" else "False")
    | .int n => integerText n
    | .big n => return "BigInt(" ++ (← integerText n) ++ ")"
    | .float x => .ok (Decimal.text x)
    | .notANumber _ => .ok "nan"
    | .text t => .ok (Text.quoted t)
    | .function f => .ok f.summary
    | .frame ref => .ok (s.frame ref).summary
    | .list ref =>
      if outer.any v.identical then .ok "[...]"
      else do
        let parts ← (s.list ref).toList.mapM (s.inspectUpTo depth (v :: outer))
        return "[" ++ commas parts ++ "]"
    | .object ref =>
      if outer.any v.identical then .ok "\x7b...\x7d"
      else do
        let parts ← (s.object ref).entries.mapM fun (k, w) => do
          let key ← s.inspectUpTo depth (v :: outer) k
          let value ← s.inspectUpTo depth (v :: outer) w
          return key ++ ": " ++ value
        return "\x7b" ++ commas parts ++ "\x7d"
    | .tuple _ items =>
      if outer.any v.identical then .ok "(...)"
      else do
        let parts ← items.mapM (s.inspectUpTo depth (v :: outer))
        match parts with
        | [only] => return "(" ++ only ++ ",)"
        | parts => return "(" ++ commas parts ++ ")"

/-- A value in the style of messages. -/
def inspect (s : Store) (v : Value) : Except Obstacle String :=
  s.inspectUpTo s.world.limits.depth [] v

/-- A value in the style of messages, a text without quotes. -/
def inspectBare (s : Store) : Value → Except Obstacle String
  | .text t => .ok t
  | v => s.inspect v

/-- One character of a text in double quotes. -/
def quoteChar (c : Char) : List Char :=
  if c == '\\' then ['\\', '\\']
  else if c == '"' then ['\\', '"']
  else if c == '\n' then ['\\', 'n']
  else if c == '\t' then ['\\', 't']
  else [c]

def quoteText (t : String) : String :=
  "\"" ++ String.ofList (t.toList.flatMap quoteChar) ++ "\""

/-- A value as a script would write it, looking at most `depth` containers deep. -/
def renderUpTo (s : Store) : Nat → Value → Except Obstacle String
  | 0, _ => .error .tooDeep
  | depth + 1, v =>
    match s.entries? v with
    | some entries => do
      let parts ← entries.mapM fun (k, w) => do
        let key ← s.inspectBare k
        let value ← s.renderUpTo depth w
        return key ++ ": " ++ value
      return "\x7b" ++ commas parts ++ "\x7d"
    | none =>
      match v with
      | .nothing => .ok "none"
      | .bool b => .ok (if b then "true" else "false")
      | .int n | .big n => integerText n
      | .float x => .ok (Decimal.text x)
      | .notANumber _ => .ok "nan"
      | .text t => .ok (quoteText t)
      | .function f => .ok f.summary
      | .list ref => do
        let parts ← (s.list ref).toList.mapM (s.renderUpTo depth)
        return "[" ++ commas parts ++ "]"
      | v => s.inspect v

/-- A value as a script would write it. -/
def render (s : Store) (v : Value) : Except Obstacle String :=
  s.renderUpTo s.world.limits.depth v

/-- A value as it is printed. -/
def display (s : Store) : Value → Except Obstacle String
  | .text t => .ok t
  | v => s.render v

end Store

end Scriptlet
