import OperatorPanel.Journal

/-!
# Lines of the log

A record is written in one line, as plain text or as a JSON object. A JSON text is read back to
what was written, because every character that would end or change it is escaped.
-/

namespace OperatorPanel

namespace Text

/-- The hexadecimal numeral of a number below 2 ^ 16, in four digits. -/
def fourHex (n : Nat) : List Char :=
  [n / 4096, n / 256, n / 16, n].map fun part => Nat.digitChar (part % 16)

/-- A character in a JSON text. -/
def jsonChar (c : Char) : List Char :=
  if c = '"' || c = '\\' then ['\\', c]
  else if c < ' ' then '\\' :: 'u' :: fourHex c.toNat
  else [c]

/-- A text in JSON. -/
def json (s : String) : String :=
  "\"" ++ String.ofList (s.toList.flatMap jsonChar) ++ "\""

end Text

namespace Record

/-- The word for the level of a record, as the log shows it. -/
def levelWord (r : Record) : String := r.level.word.toUpper

/-- A record as plain text. -/
def line (r : Record) : String :=
  String.intercalate " "
    (r.levelWord :: (r.source.label ++ ":") :: r.message
      :: r.fields.map fun (key, value) => key ++ "=" ++ value)

/-- A record as a JSON object. -/
def jsonLine (r : Record) : String :=
  let pair (key value : String) : String := Text.json key ++ ":" ++ value
  let object (pairs : List String) : String := "\x7b" ++ String.intercalate "," pairs ++ "\x7d"
  let fields := ("message", r.message) :: r.fields
  object
    [pair "level" (Text.json r.levelWord),
      pair "fields" (object (fields.map fun (key, value) => pair key (Text.json value))),
      pair "target" (Text.json r.source.label)]

end Record
end OperatorPanel
