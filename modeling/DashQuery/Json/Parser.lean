import DashQuery.Json.Token
import DashQuery.Value

/-!
# Reading JSON

The tokens are read by a machine that keeps the lists and tables that are open.  The fields of a
table are kept as they are written, also those with one key, and nothing is nested more than
`maxDepth` deep.
-/

namespace DashQuery.Json

/-- An open list with the items before the current one, or an open table with the fields before the
current one and its key; what was read last comes first. -/
inductive Frame where
  | list (before : List Value)
  | table (before : List (String × Value)) (key : String)

/-- What the machine expects next; `stack` holds what is open, from the inside out. -/
inductive State where
  /-- A value, or the end of the innermost list if nothing is in it yet. -/
  | value (stack : List Frame) (canClose : Bool)
  /-- A key of the innermost table, or its end if nothing is in it yet. -/
  | key (stack : List Frame) (before : List (String × Value)) (canClose : Bool)
  /-- The colon behind a key. -/
  | colon (stack : List Frame) (before : List (String × Value)) (key : String)
  /-- What may follow a complete value. -/
  | complete (stack : List Frame) (v : Value)

/-- How deep lists and tables may be nested. -/
def maxDepth : Nat := 127

namespace State

/-- The state before the first token. -/
def start : State := .value [] false

/-- The state after one more token, if the token can stand there. -/
def step? : State → Token → Option State
  | .value stack _, .null => some (.complete stack .null)
  | .value stack _, .bool b => some (.complete stack (.bool b))
  | .value stack _, .number literal => some (.complete stack (.number literal))
  | .value stack _, .text s => some (.complete stack (.text s))
  | .value stack _, .openList =>
    if stack.length < maxDepth then some (.value (.list [] :: stack) true) else none
  | .value stack _, .openTable =>
    if stack.length < maxDepth then some (.key stack [] true) else none
  | .value (.list [] :: stack) true, .closeList => some (.complete stack (.list []))
  | .key stack before _, .text k => some (.colon stack before k)
  | .key stack _ true, .closeTable => some (.complete stack (.table []))
  | .colon stack before k, .colon => some (.value (.table before k :: stack) false)
  | .complete (.list before :: stack) v, .comma =>
    some (.value (.list (v :: before) :: stack) false)
  | .complete (.list before :: stack) v, .closeList =>
    some (.complete stack (.list (v :: before).reverse))
  | .complete (.table before k :: stack) v, .comma =>
    some (.key stack ((k, v) :: before) false)
  | .complete (.table before k :: stack) v, .closeTable =>
    some (.complete stack (.table ((k, v) :: before).reverse))
  | _, _ => none

/-- The value that has been read, if nothing is open. -/
def finish? : State → Option Value
  | .complete [] v => some v
  | _ => none

end State

/-- The state after a list of tokens. -/
def run (s : State) (tokens : List Token) : Option State := tokens.foldlM State.step? s

/-- The value that a text stands for. -/
def parse? (cs : List Char) : Option Value := do
  let tokens ← tokens? cs
  let s ← run .start tokens
  s.finish?

end DashQuery.Json
