import OperatorPanel.Toml.Scalar

/-!
# Values and tables

The tables of a document grow while it is read: by headers, which open tables and rows of tables,
and by keys with dots, which make the tables on their way. What was made one way cannot be made
again another way: `within` finds or makes the tables on a way, `openTable`, `openRow` and
`assign` are the three things that a document does to them.
-/

namespace OperatorPanel.Toml

/-- How a table came to be. -/
inductive Origin where
  /-- By a header of its own. -/
  | header
  /-- On the way to a table with a header. -/
  | path
  /-- On the way to a key. -/
  | dotted
  /-- Between braces, where it is complete. -/
  | braces
  deriving DecidableEq, Repr

/-- A value of a document. -/
inductive Value where
  | boolean (b : Bool)
  | integer (n : Int)
  | float (x : Number)
  /-- A number that is too great for its kind. -/
  | excess
  | moment
  | text (s : String)
  | array (items : List Value)
  | table (origin : Origin) (entries : List (String × Value))
  /-- Tables with headers of their own, the newest first. -/
  | rows (tables : List (List (String × Value)))

/-- The value that an unquoted value is. -/
def Value.ofScalar : Scalar → Value
  | .boolean b => .boolean b
  | .integer n => .integer n
  | .float x => .float x
  | .excess => .excess
  | .moment => .moment

/-! ### Readable values -/

mutual

/-- Whether a value holds no number that is too great. -/
def Value.isReadable : Value → Bool
  | .excess => false
  | .array items => readableItems items
  | .table _ entries => readableEntries entries
  | .rows tables => readableRows tables
  | _ => true

def readableItems : List Value → Bool
  | [] => true
  | v :: items => v.isReadable && readableItems items

def readableEntries : List (String × Value) → Bool
  | [] => true
  | (_, v) :: entries => v.isReadable && readableEntries entries

def readableRows : List (List (String × Value)) → Bool
  | [] => true
  | entries :: tables => readableEntries entries && readableRows tables

end

/-! ### Tables -/

/-- The entries of a table. -/
abbrev Entries := List (String × Value)

namespace Entries

/-- Put an entry into a table in place of the one that is there. -/
def put : Entries → String → Value → Entries
  | [], key, value => [(key, value)]
  | (k, v) :: entries, key, value =>
    if k = key then (key, value) :: entries else (k, v) :: put entries key value

/-- Change the table at the end of a way, and make what is missing on it. The way of a header may
lead through tables of every origin but braces, and through the newest of some rows; the way of a
key with dots not through tables that have a header. -/
def within (dotted : Bool) (change : Origin → Entries → Option Entries) :
    (way : List String) → Origin → Entries → Option Entries
  | [], origin, entries => change origin entries
  | key :: way, _, entries =>
    match entries.lookup key with
    | none => -- what is missing on the way is made, and remembers how
      let origin : Origin := if dotted then .dotted else .path
      (within dotted change way origin []).map fun t => entries.put key (.table origin t)
    | some (.table origin t) =>
      -- a table between braces is complete; dots do not reopen one with a header
      if origin = .braces || (dotted && origin = .header) then none
      else (within dotted change way origin t).map fun t => entries.put key (.table origin t)
    | some (.rows (t :: older)) =>
      (within dotted change way .header t).map fun t => entries.put key (.rows (t :: older))
    | some _ => none

/-- Give a value to a new key. A table that dots lead to must be one that dots have made. -/
def assign (way : List String) (key : String) (value : Value) (entries : Entries) :
    Option Entries :=
  within true
    (fun origin t =>
      if (!way.isEmpty && origin ≠ .dotted) || (t.lookup key).isSome then none
      else some (t ++ [(key, value)]))
    way .header entries

/-- Open a table by its header. It may be there already if it was made on the way to another. -/
def openTable (way : List String) (key : String) (entries : Entries) : Option Entries :=
  within false
    (fun _ t =>
      match t.lookup key with
      | none => some (t ++ [(key, .table .header [])])
      | some (.table .path u) => some (t.put key (.table .header u))
      | some _ => none)
    way .header entries

/-- Open a new row of tables by its header. -/
def openRow (way : List String) (key : String) (entries : Entries) : Option Entries :=
  within false
    (fun _ t =>
      match t.lookup key with
      | none => some (t ++ [(key, .rows [[]])])
      | some (.rows tables) => some (t.put key (.rows ([] :: tables)))
      | some _ => none)
    way .header entries

/-- Give a value to a new key of the table that a header has opened. -/
def assignIn (header : List String) (way : List String) (key : String) (value : Value)
    (entries : Entries) : Option Entries :=
  within false (fun _ t => t.assign way key value) header .header entries

end Entries
end OperatorPanel.Toml
