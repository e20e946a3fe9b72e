import OperatorPanel.LogFilter.Directive

/-!
# Log filters

A filter is a list of directives, written with commas between them. Of the directives that are for
a record the most specific one counts: that with the longest target, then that with the most
fields. Directives for spans let nothing through, because the program has no spans. What cannot be
read is passed over, and where nothing is left errors are logged.
-/

namespace OperatorPanel

/-! ### Rules -/

/-- What a directive says about records. -/
structure LogRule where
  /-- What the labels start with that it is for; none for all of them. -/
  target : Option String := none
  /-- The fields that a record must have. -/
  fields : List String := []
  verbosity : Verbosity
  deriving DecidableEq, Repr

namespace LogRule

/-- The rule of a directive, which must not ask for a span or for the value of a field. -/
def ofDirective? (d : LogDirective) : Option LogRule :=
  if d.span.isSome || d.fields.any (·.hasValue) then none
  else some { target := d.target, fields := d.fields.map (·.name), verbosity := d.verbosity }

/-- Whether a rule is for a record. Every record has a message. -/
def isFor (rule : LogRule) (r : Record) : Bool :=
  rule.target.all (r.source.label.startsWith ·)
    && rule.fields.all fun name => name = "message" || (r.fields.lookup name).isSome

/-- The length of the target; any target is longer than none. -/
def reach (rule : LogRule) : Nat :=
  match rule.target with
  | some target => target.utf8ByteSize + 1
  | none => 0

/-- How specific a rule is in comparison with another. Of rules that are equally specific the later
one in the order of texts comes first. -/
def compareTo (a b : LogRule) : Ordering :=
  ((compare a.reach b.reach).then (compare a.fields.length b.fields.length)).then
    ((compare (a.target.getD "") (b.target.getD "")).then (compare a.fields b.fields))

/-- Put a rule before all less specific ones, and in place of one for the same records. -/
def insert (rule : LogRule) : List LogRule → List LogRule
  | [] => [rule]
  | r :: rules =>
    match rule.compareTo r with
    | .gt => rule :: r :: rules
    | .eq => rule :: rules
    | .lt => r :: insert rule rules

end LogRule

/-! ### Filters -/

/-- Rules, the most specific first. -/
structure LogFilter where
  rules : List LogRule
  deriving DecidableEq, Repr

namespace LogFilter

/-- The filter of some directives. Those with fields or spans are taken up last. -/
def ofDirectives (ds : List LogDirective) : LogFilter :=
  if ds.isEmpty then ⟨[{ verbosity := LogLevel.error.verbosity }]⟩
  else
    let (special, plain) := ds.partition fun d => d.span.isSome || !d.fields.isEmpty
    ⟨((plain ++ special).filterMap LogRule.ofDirective?).foldl
      (fun rules rule => rule.insert rules) []⟩

/-- The directives that can be read; none where one would be cut within a character. -/
def directives? : List String → Option (List LogDirective)
  | [] => some []
  | part :: parts =>
    match LogDirective.ofText part.toList with
    | .ok d => (directives? parts).map (d :: ·)
    | .error .unreadable => directives? parts
    | .error .splitCharacter => none

/-- Read a filter. -/
def ofText? (text : String) : Option LogFilter :=
  (directives? ((text.splitOn ",").filter (· ≠ ""))).map ofDirectives

/-- Whether a record is logged. -/
def lets (f : LogFilter) (r : Record) : Bool :=
  (f.rules.find? (·.isFor r)).any (r.level.verbosity ≤ ·.verbosity)

/-- What is added to a filter while channel diagnostics are silenced. -/
def silencing : String := "hmi_bridge::transport=off,hmi_bridge::channel=off,hmi_shm=off"

end LogFilter

/-- The filter in force, and the one that takes its place while channel diagnostics are silenced. -/
structure LogGate where
  heard : LogFilter
  silenced : LogFilter
  deriving DecidableEq, Repr

namespace LogGate

/-- Read a filter, and add to it what silences channel diagnostics. -/
def ofText? (text : String) : Option LogGate := do
  return {
    heard := ← LogFilter.ofText? text
    silenced := ← LogFilter.ofText? (text ++ "," ++ LogFilter.silencing) }

/-- Whether a record is logged. -/
def lets (g : LogGate) (r : Record) : Bool := (if r.silenced then g.silenced else g.heard).lets r

end LogGate
end OperatorPanel
