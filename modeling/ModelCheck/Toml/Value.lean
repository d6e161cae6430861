/-!
# TOML values

A document is a table. Tables come from headers, from dotted keys or from braces,
and where they come from decides what may be added to them later: a table that a
longer header implied may still get a header of its own, one that dotted keys made
may get more dotted keys, and all others are closed.
-/

namespace ModelCheck.Toml

/-- What a table was made by. -/
inductive TableKind where
  /-- A header of its own, or the document. -/
  | header
  /-- A header of a table below it. -/
  | implied
  /-- Dotted keys. -/
  | dotted
  /-- Braces. -/
  | inline
deriving DecidableEq, Repr

/-- A value. Floats and times are kept as they are written. -/
inductive Value where
  | string (s : String)
  | integer (i : Int)
  | float (text : String)
  | boolean (b : Bool)
  | time (text : String)
  | array (elements : List Value)
  /-- An array made by headers in double brackets. -/
  | tables (elements : List Value)
  | table (kind : TableKind) (entries : List (String × Value))

/-- The entries of a table. -/
abbrev Entries := List (String × Value)

namespace Entries

/-- The value of a key. -/
def get? (key : String) (t : Entries) : Option Value := (t.find? (·.1 = key)).map (·.2)

/-- Gives a key a value, in its place if it has one. -/
def set (key : String) (v : Value) (t : Entries) : Entries :=
  if t.any (·.1 = key) then t.map fun e => if e.1 = key then (key, v) else e
  else t ++ [(key, v)]

/-- Adds a key that must be new. -/
def addNew? (key : String) (v : Value) (t : Entries) : Option Entries :=
  if t.any (·.1 = key) then none else some (t ++ [(key, v)])

/-- Follows keys from a table downwards and changes the table at the end. Missing tables are made:
by dotted keys, or as implied by a header. An array of tables stands for its last table. Dotted
keys cannot enter a table that has a header. -/
def descend? (dotted : Bool) (change : TableKind → Entries → Option Entries) :
    List String → TableKind → Entries → Option Entries
  | [], kind, t => change kind t
  | key :: path, _, t =>
    match get? key t with
    | none => do
      let kind := if dotted then TableKind.dotted else .implied
      pure (set key (.table kind (← descend? dotted change path kind [])) t)
    | some (.table kind inner) =>
      if kind = .inline || (dotted && kind = .header) then none
      else do pure (set key (.table kind (← descend? dotted change path kind inner)) t)
    | some (.tables elements) =>
      match elements.getLast? with
      | some (.table kind inner) => do
        let inner ← descend? dotted change path kind inner
        pure (set key (.tables (elements.dropLast ++ [.table kind inner])) t)
      | _ => none
    | some _ => none

/-- Adds a key, dotted or not, to a table. Keys in front of the last one lead through tables that
dotted keys have made. -/
def add? (path : List String) (key : String) (v : Value) (kind : TableKind) (t : Entries) :
    Option Entries :=
  descend? true
    (fun kind t => if !path.isEmpty && kind ≠ .dotted then none else addNew? key v t) path kind t

/-- Adds the table of a header to the table above it. -/
def openTable? (key : String) (t : Entries) : Option Entries :=
  match get? key t with
  | none => some (set key (.table .header []) t)
  | some (.table .implied inner) => some (set key (.table .header inner) t)
  | some _ => none

/-- Adds a table to the array of a header in double brackets. -/
def openElement? (key : String) (t : Entries) : Option Entries :=
  match get? key t with
  | none => some (set key (.tables [.table .header []]) t)
  | some (.tables elements) => some (set key (.tables (elements ++ [.table .header []])) t)
  | some _ => none

end Entries

end ModelCheck.Toml
