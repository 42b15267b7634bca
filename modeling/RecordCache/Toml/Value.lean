/-! TOML values. Tables keep their entries in order, and remember how they came to be, since that
decides who may still add to them. Part of the stand-in for the external reader of documents, which
no theorem reaches. -/
namespace RecordCache.Toml

inductive TableKind where
  /-- Named by a header, or the document itself. -/
  | header
  /-- On the way to a table named by a header. -/
  | implied
  /-- On the way to a key with dots. -/
  | dotted
  | inline
  deriving DecidableEq, Repr

inductive Value where
  | text (s : String)
  | integer (n : Int)
  | float (x : Float)
  | boolean (b : Bool)
  | dateTime
  | array (items : List Value)
  | table (kind : TableKind) (entries : List (String × Value))
  | tables (items : List Value)

abbrev Entries := List (String × Value)

namespace Entries

def get? (es : Entries) (key : String) : Option Value := es.lookup key

def put (es : Entries) (key : String) (value : Value) : Entries :=
  if (es.get? key).isSome then es.map fun (k, v) => if k = key then (k, value) else (k, v)
  else es ++ [(key, value)]

def erase (es : Entries) (key : String) : Entries := es.filter (·.1 != key)

def addNew? (es : Entries) (key : String) (value : Value) : Option Entries :=
  if (es.get? key).isSome then none else some (es ++ [(key, value)])

end Entries

def modifyLast? (f : Value → Option Value) : List Value → Option (List Value)
  | [] => none
  | [v] => (f v).map ([·])
  | v :: vs => (modifyLast? f vs).map (v :: ·)

/-- Changes the entries of the table that a path of headers leads to. Tables that are missing are
implied; a list of tables stands for its last one; any other value is in the way. -/
def alterAt? (f : Entries → Option Entries) : List String → Entries → Option Entries
  | [], es => f es
  | key :: path, es =>
    match es.get? key with
    | none => (alterAt? f path []).map fun inner => es.put key (.table .implied inner)
    | some (.table .inline _) => none
    | some (.table kind inner) =>
      (alterAt? f path inner).map fun inner => es.put key (.table kind inner)
    | some (.tables items) => do
      let items ← modifyLast? (fun
        | .table kind inner => (alterAt? f path inner).map (.table kind)
        | _ => none) items
      return es.put key (.tables items)
    | some _ => none

/-- Adds a value under a key with dots to the entries of a table of the given kind. The tables on
the way are made by dots too: a table named by a header is closed to dots, and so is one in braces;
one that a header implies may be passed through but not added to. -/
def insertDotted? (kind : TableKind) (value : Value) (key : String) :
    List String → Entries → Option Entries
  | [], es => if kind = .implied then none else es.addNew? key value
  | step :: path, es =>
    match es.get? step with
    | none => (insertDotted? .dotted value key path []).map fun inner =>
        es.put step (.table .dotted inner)
    | some (.table inner entries) =>
      if inner = .header ∨ inner = .inline then none
      else (insertDotted? inner value key path entries).map fun entries =>
        es.put step (.table inner entries)
    | some (.tables items) =>
      -- the tables of a list are closed to the key itself and open to the tables below
      if path.isEmpty then none
      else do
        let items ← modifyLast? (fun
          | .table inner entries => (insertDotted? inner value key path entries).map (.table inner)
          | _ => none) items
        return es.put step (.tables items)
    | some _ => none

end RecordCache.Toml
