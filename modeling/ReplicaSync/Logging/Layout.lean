import ReplicaSync.Json.Basic
import ReplicaSync.Logging.Config
import ReplicaSync.Logging.Event

/-!
# The formats of the log

The clock is not part of what is written here. The formats for people show the controls that a
terminal would obey by their code points, wherever a text is not quoted. In the compact format an
event is one line, with the names of its spans in front and their fields at the end. In the pretty
one a line for each span follows, innermost first. In JSON the fields of an event stand beside its
message.
-/

namespace ReplicaSync.Layout

/-- The thread on which everything happens. -/
def threadName : String := "main"

/-! ### Texts for people -/

/-- A control that a terminal obeys: the escape character, the bell, the backspace, the form feed,
the delete character, and the controls beyond ASCII. -/
def isTerminalControl (c : Char) : Bool :=
  let code := c.toNat
  code = 0x1B || code = 0x7 || code = 0x8 || code = 0xC || (0x7F ≤ code && code ≤ 0x9F)

/-- A control by its code point: two digits within ASCII, and otherwise as in quoted text. -/
def controlEscape (c : Char) : List Char :=
  if c.toNat < 0x80 then
    let digits := Text.hexDigits c.toNat
    ['\\', 'x'] ++ List.replicate (2 - digits.length) '0' ++ digits
  else Text.codePointEscape c

/-- The text, harmless for a terminal. -/
def harmless (text : String) : String :=
  String.ofList (text.toList.flatMap fun c => if isTerminalControl c then controlEscape c else [c])

/-- A value; a failure is followed by what caused it. -/
def withSource (separator : String) (key : String) (assign : String) (value : FieldValue) :
    String :=
  match value.source? with
  | some source => s!"{harmless value.shown}{separator}{key}.sources{assign}[{harmless source}]"
  | none => harmless value.shown

/-! ### Compact -/

/-- A field in a compact line. -/
def compactField (field : String × FieldValue) : String :=
  field.1 ++ "=" ++ withSource " " field.1 "=" field.2

/-- The compact line of an event inside these spans, the outermost first. -/
def compact (config : LoggingConfig) (event : LogEvent) (spans : List LogSpan) : String :=
  let thread := if config.thread then s!"{threadName} ThreadId(01) " else ""
  let names := String.join (spans.map fun span => span.name ++ ":")
  let names := if names.isEmpty then "" else names ++ " "
  let target := if config.target then event.target ++ ": " else ""
  let parts := event.message.toList.map harmless ++ event.fields.map compactField
  let context := spans.filterMap fun span =>
    if span.fields = [] then none
    else some (" " ++ " ".intercalate (span.fields.map compactField))
  s!"{event.level.heading} {thread}{names}{target}" ++ " ".intercalate parts ++
    String.join context

/-! ### Pretty -/

/-- A field in a pretty line. -/
def prettyField (field : String × FieldValue) : String :=
  field.1 ++ ": " ++ withSource ", " field.1 ": " field.2

/-- The line for a span around an event. -/
def prettySpan (config : LoggingConfig) (span : LogSpan) : String :=
  let place := if config.target then s!"in {span.target}::{span.name}" else s!"in {span.name}"
  if span.fields = [] then place
  else s!"{place} with " ++ ", ".intercalate (span.fields.map prettyField)

/-- The pretty lines of an event inside these spans, the outermost first. -/
def pretty (config : LoggingConfig) (event : LogEvent) (spans : List LogSpan) : List String :=
  let target := if config.target then s!"{event.target}: " else " "
  let parts := event.message.toList.map harmless ++ event.fields.map prettyField
  let thread := if config.thread then [s!"at on {threadName} ThreadId(1)"] else []
  (s!"{event.level.heading} {target}" ++ ", ".intercalate parts) :: thread ++
    spans.reverse.map (prettySpan config)

/-- The event that marks a step into a span or out of it. -/
def spanEvent (span : LogSpan) (message : String) : LogEvent :=
  ⟨message, span.level, span.target, some message, []⟩

/-! ### JSON -/

/-- A span as an object. -/
def jsonSpan (span : LogSpan) : Json :=
  .obj (("name", .str span.name) :: span.fields.map fun (key, value) => (key, value.toJson))

/-- The object of an event inside these spans, the outermost first. -/
def json (config : LoggingConfig) (event : LogEvent) (spans : List LogSpan) : Json :=
  let message := event.message.toList.map fun text => ("message", Json.str text)
  let fields := event.fields.map fun (key, value) => (key, value.toJson)
  let target := if config.target then [("target", Json.str event.target)] else []
  let context := match config.spans, spans.getLast? with
    | true, some innermost =>
      [("span", jsonSpan innermost), ("spans", .arr (spans.map jsonSpan))]
    | _, _ => []
  let thread := if config.thread then
      [("threadName", Json.str threadName), ("threadId", .str "ThreadId(1)")]
    else []
  .obj (("level", .str event.level.heading) :: message ++ fields ++ target ++ context ++ thread)

end ReplicaSync.Layout
