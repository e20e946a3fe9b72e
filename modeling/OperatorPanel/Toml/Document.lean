import OperatorPanel.Toml.Value

/-!
# Documents

A document is a list of lines: keys with their values, and the headers of tables. `read?` gives
the entries of the outermost table, and refuses texts that are no documents.
-/

namespace OperatorPanel.Toml

open Text TextReader

/-- How deep arrays and tables between braces may lie in each other, and how many keys may stand
with dots between them. -/
def maxDepth : Nat := 80

/-! ### Keys -/

/-- The characters of keys without quotes. -/
def isKeyPart (c : Char) : Bool := c.isAlphanum || c == '-' || c == '_'

/-- One key, with or without quotes. -/
def key : TextReader String := do
  match ← next? with
  | some '"' => Quoted.double
  | some '\'' => Quoted.single
  | _ =>
    let cs ← takeRun isKeyPart
    check !cs.isEmpty
    return String.ofList cs

/-- One more key, and whether another follows. -/
def keyStep (way : List String) : TextReader (List String ⊕ (List String × String)) := do
  blanks
  let k ← key
  blanks
  check (way.length < maxDepth)
  return if ← accept "." then .inl (way ++ [k]) else .inr (way, k)

/-- Keys with dots between them: the way to the last one, and the last one. -/
def keys : TextReader (List String × String) := iterate keyStep []

/-! ### Values -/

/-- A value that holds no other values. -/
def simple : TextReader Value := do
  match ← next? with
  | some '"' | some '\'' => return .text (← Quoted.any)
  | _ => return .ofScalar (← Scalar.read)

/-- One item of an array, or its end. -/
def itemStep (item : TextReader Value) (seen : List Value) : TextReader (List Value ⊕ Value) := do
  gap
  if ← accept "]" then return .inr (.array seen.reverse)
  else
    let v ← item
    gap
    if ← accept "," then return .inl (v :: seen)
    else
      expect "]"
      return .inr (.array (v :: seen).reverse)

/-- One key with its value in a table between braces, or its end. -/
def entryStep (item : TextReader Value) (entries : Entries) : TextReader (Entries ⊕ Value) := do
  gap
  if ← accept "\x7d" then return .inr (.table .braces entries)
  else
    let (way, key) ← keys
    gap
    expect "="
    gap
    let v ← item
    gap
    let entries ← need (entries.assign way key v)  -- a key that is there already is refused
    if ← accept "," then return .inl entries
    else
      expect "\x7d"
      return .inr (.table .braces entries)

/-- A value in which others lie at most so deep. -/
def value : (depth : Nat) → TextReader Value
  | 0 => simple
  | depth + 1 => do
    if ← accept "[" then iterate (itemStep (value depth)) []
    else if ← accept "\x7b" then iterate (entryStep (value depth)) []
    else simple

/-! ### Lines -/

/-- What was read of a document. -/
structure Draft where
  /-- The header of the open table. -/
  header : List String := []
  entries : Entries := []

/-- The header of a table, after its first bracket. -/
def tableHeader (d : Draft) : TextReader Draft := do
  if ← accept "[" then
    let (way, key) ← keys
    expect "]]"
    return { header := way ++ [key], entries := ← need (d.entries.openRow way key) }
  else
    let (way, key) ← keys
    expect "]"
    return { header := way ++ [key], entries := ← need (d.entries.openTable way key) }

/-- A key with its value. -/
def assignment (d : Draft) : TextReader Draft := do
  let (way, key) ← keys
  expect "="
  blanks
  let v ← value maxDepth
  return { d with entries := ← need (d.entries.assignIn d.header way key v) }

/-- One line, or the end of the document. -/
def lineStep (d : Draft) : TextReader (Draft ⊕ Entries) := do
  blanks
  match ← next? with
  | none => return .inr d.entries
  | some '#' | some '\n' | some '\r' => -- an empty line, or one that is a comment
    lineEnd
    return .inl d
  | some '[' =>
    expect "["
    let d ← tableHeader d
    lineEnd
    return .inl d
  | some _ =>
    let d ← assignment d
    lineEnd
    return .inl d

/-- A whole document; a byte order mark may stand in front. -/
def document : TextReader Entries := do
  discard <| accept "\ufeff"
  iterate lineStep {}

/-- The entries of the outermost table of a document. -/
def read? (text : String) : Option Entries := document.whole? text.toList

end OperatorPanel.Toml
