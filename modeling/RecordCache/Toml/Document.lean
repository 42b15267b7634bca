import RecordCache.Toml.Grammar
/-! TOML documents. A document is a run of lines; a header opens a table, and the bindings after it
go into that table, which is put in its place when the next header or the end is reached.

The modules below `Toml` stand in for the external reader of documents, so that settings files can
be run; no theorem reaches them. -/
namespace RecordCache.Toml

inductive Place where
  | root
  | table (path : List String) (key : String)
  | item (path : List String) (key : String)
  deriving DecidableEq, Repr

structure Draft where
  closed : Entries := []
  place : Place := .root
  opened : Entries := []

namespace Draft

def bind? (d : Draft) (path : List String) (key : String) (value : Value) : Option Draft := do
  return { d with opened := ← insertDotted? .header value key path d.opened }

def close? (d : Draft) : Option Entries :=
  match d.place with
  | .root => some d.opened
  | .table path key =>
    alterAt? (fun es => es.addNew? key (.table .header d.opened)) path d.closed
  | .item path key =>
    alterAt? (fun es => match es.get? key with
      | some (.tables items) => some (es.put key (.tables (items ++ [.table .header d.opened])))
      | _ => none) path d.closed

def reopened? (es : Entries) (key : String) : Option Entries :=
  match es.get? key with
  | none => some []
  | some (.table .implied entries) => some entries
  | some _ => none

def entriesAt? (path : List String) (es : Entries) : Option Entries :=
  match path with
  | [] => some es
  | key :: path =>
    match es.get? key with
    | none => some []
    | some (.table .inline _) => none
    | some (.table _ inner) => entriesAt? path inner
    | some (.tables items) =>
      match items.getLast? with
      | some (.table _ inner) => entriesAt? path inner
      | _ => none
    | some _ => none

/-- Opens the table of a header. One that other headers imply is taken from its place, to be put
back after the tables that came before it. -/
def openTable? (d : Draft) (path : List String) (key : String) : Option Draft := do
  let closed ← d.close?
  let opened ← reopened? (← entriesAt? path closed) key
  let closed ← alterAt? (fun es => some (es.erase key)) path closed
  return { closed, place := .table path key, opened }

def openItem? (d : Draft) (path : List String) (key : String) : Option Draft := do
  let closed ← d.close?
  let closed ← alterAt? (fun es => match es.get? key with
    | none => some (es.put key (.tables []))
    | some (.tables _) => some es
    | some _ => none) path closed
  return { closed, place := .item path key, opened := [] }

end Draft

def statement? (d : Draft) : List Char → Option (Draft × List Char)
  | '[' :: '[' :: cs => do
    let ((path, key), r) ← key? cs
    let r ← endOfLine? (← skip? ']' (← skip? ']' r))
    return (← d.openItem? path key, r)
  | '[' :: cs => do
    let ((path, key), r) ← key? cs
    let r ← endOfLine? (← skip? ']' r)
    return (← d.openTable? path key, r)
  | cs => do
    let (((path, key), v), r) ← binding? value? cs
    let r ← endOfLine? r
    return (← d.bind? path key v, r)

def statements? (d : Draft) (cs : List Char) : Option Draft :=
  let start := skipLines false cs
  if start.isEmpty then some d
  else
    match statement? d start with
    | none => none
    | some (d, r) => if r.length < cs.length then statements? d r else none
termination_by cs.length

def document? (text : String) : Option Entries := do
  let cs := match text.toList with
    | '\uFEFF' :: r => r
    | cs => cs
  (← statements? {} cs).close?

end RecordCache.Toml
