import ThreatWatch.Event.Basic

/-! Nested mappings as flat metadata. The name of a value is the path of the
keys that lead to it, joined by dots; only scalars are kept. -/

namespace ThreatWatch.Metadata

mutual

def flattenInto (table : Table Scalar) (start : String) :
    List (Value × Value) → Except Fault (Table Scalar)
  | [] => .ok table
  | (key, value) :: rest => do
      let name := start ++ (← key.shown)
      let table ← flattenValue table name value
      flattenInto table start rest

def flattenValue (table : Table Scalar) (name : String) :
    Value → Except Fault (Table Scalar)
  | .map entries => do return table.putAll (← flattenInto [] (name ++ ".") entries)
  | .bool flag => .ok (table.put name (.bool flag))
  | .int number => .ok (table.put name (.int number))
  | .float number => .ok (table.put name (.float number))
  | .text content => .ok (table.put name (.text content))
  | _ => .ok table

end

/-- The scalars in the entries of a mapping, by their names after a start. A
name that occurs again keeps its place and takes the later scalar. -/
def flatten (start : String) (entries : List (Value × Value)) : Except Fault (Table Scalar) :=
  flattenInto [] start entries

end ThreatWatch.Metadata

namespace ThreatWatch.Value

/-! ## Paths -/

/-- What a path of keys leads to. Where more than one key is left, a single key
that is all of them joined by dots comes first. -/
def follow (value : Value) : List String → Value
  | [] => value
  | [key] =>
      match value with
      | .map entries => entry entries key
      | _ => .null
  | key :: rest =>
      match value with
      | .map entries =>
          match lookup? entries (.text (Text.join "." (key :: rest))) with
          | some found => found
          | none => follow (entry entries key) rest
      | _ => .null

/-- What a path with dots between its keys leads to; nothing where it leads
nowhere. -/
def atPath (value : Value) (path : String) : Value :=
  value.follow (Text.splitOn '.' path)

end ThreatWatch.Value
