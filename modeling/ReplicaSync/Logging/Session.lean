import ReplicaSync.Logging.Layout
import ReplicaSync.Text.Blank

/-!
# Logging at work

An event is entered into its spans, written by the format, and handed to the sink; spans that the
filter does not want are as if they had never been entered. On a runtime the sink gets the events
after all of them were written, otherwise each as soon as it is written.
-/

namespace ReplicaSync

/-- One line of output, the clock taken away. -/
inductive LogLine where
  | object (value : Json)
  | text (line : String)

/-- The lines that have something on them, without the white space at their ends. -/
def LogLine.ofText (text : String) : List LogLine :=
  ((text.splitOn "\n").map fun line => Text.trim line.toList).filterMap fun line =>
    if line = [] then none else some (.text (String.ofList line))

namespace LogSink

/-- The error of the sink that fails. -/
def full : AdapterError := .operationFailed "sink is full"

/-- The sink is given this record. -/
def takes (sink : LogSink) (record : LogRecord) : Bool := record.level.reaches sink.least

/-- What the sink keeps of a record. -/
def kept (sink : LogSink) (record : LogRecord) : List LogRecord :=
  if sink.takes record && sink.kind ≠ .print then [record] else []

/-- What is printed when the sink is given a record. -/
def printed (sink : LogSink) (record : LogRecord) : List LogLine :=
  if sink.takes record then
    match sink.kind with
    | .keep => []
    | .fail => LogLine.ofText s!"LoggerSink error: {full.message}"
    | .print => LogLine.ofText (record.line "")
  else []

end LogSink

/-- An event and the spans that are entered for it, the outermost first. -/
structure LogOccurrence where
  event : LogEvent
  spans : List LogSpan

/-- What an occurrence leads to. -/
structure LogOutput where
  /-- Written by the format up to the event, and for it. -/
  written : List LogLine
  /-- The record that the sink may take. -/
  record : Option LogRecord
  /-- Written by the format when the spans are left. -/
  left : List LogLine

namespace LoggingConfig

/-- The spans around each step inwards, from the outermost on. -/
def nested (spans : List LogSpan) : List (List LogSpan) :=
  (List.range spans.length).map fun depth => spans.take (depth + 1)

/-- The lines for a step into or out of the innermost of these spans. -/
def crossing (config : LoggingConfig) (message : String) (spans : List LogSpan) : List LogLine :=
  match config.format, config.spans, spans.getLast? with
  | .pretty, true, some span =>
    (Layout.pretty config (Layout.spanEvent span message) spans).flatMap LogLine.ofText
  | _, _, _ => []

/-- What the format writes for an event. -/
def write (config : LoggingConfig) (event : LogEvent) (spans : List LogSpan) : List LogLine :=
  match config.format with
  | .pretty => (Layout.pretty config event spans).flatMap LogLine.ofText
  | .compact => LogLine.ofText (Layout.compact config event spans)
  | .json => [.object (Layout.json config event spans)]

/-- Logs one event. -/
def log (config : LoggingConfig) (filter : LogFilter) (occurrence : LogOccurrence) : LogOutput :=
  let event := occurrence.event
  let scope := filter.enterAll occurrence.spans
  let spans := scope.spans
  let entered := (nested spans).flatMap (config.crossing "enter")
  let left := (nested spans).reverse.flatMap (config.crossing "exit")
  if filter.admitsEvent scope event then
    ⟨entered ++ config.write event spans, some (event.toRecord spans.getLast?), left⟩
  else ⟨entered, none, left⟩

/-- What the sink prints of an output. -/
def printed (config : LoggingConfig) (output : LogOutput) : List LogLine :=
  match config.sink, output.record with
  | some sink, some record => sink.printed record
  | _, _ => []

/-- What the sink keeps of an output. -/
def kept (config : LoggingConfig) (output : LogOutput) : List LogRecord :=
  match config.sink, output.record with
  | some sink, some record => sink.kept record
  | _, _ => []

/-- Everything that was written and printed, in order, with or without a runtime. -/
def lines (config : LoggingConfig) (runtime : Bool) (outputs : List LogOutput) : List LogLine :=
  if runtime then
    (outputs.flatMap fun output => output.written ++ output.left) ++ outputs.flatMap config.printed
  else outputs.flatMap fun output => output.written ++ config.printed output ++ output.left

end LoggingConfig

end ReplicaSync
