import ReplicaSync.Failure
import ReplicaSync.Text.Blank
import ReplicaSync.Text.Utf8

/-!
# The line protocol

A client writes `subscribe c` and `announce c m`, the server writes `c!m`, one to a line. A channel
is not empty and has neither white space nor an exclamation mark, and a message has no line break;
so a line ends where it should, and the blanks and the mark divide it in one way only. Carriage
returns at the end of a line from the server do not count.
-/

namespace ReplicaSync.Fanout

/-! ### Channels -/

/-- The text may name a channel. -/
def isChannel (name : String) : Bool :=
  !name.isEmpty && name.toList.all fun c => !Text.isBlank c && c ≠ '!'

/-- Refuses a text that may not name a channel. -/
def checkChannel (name : String) : Except AdapterError Unit :=
  if isChannel name then .ok ()
  else .error (.operationFailed s!"Invalid fanout channel: {Text.quoted name}")

/-- Refuses a message that would not stay on its line. -/
def checkMessage (message : String) : Except AdapterError Unit :=
  if message.toList.contains '\n' then
    .error (.operationFailed "Fanout messages cannot contain newlines")
  else .ok ()

/-! ### From the client -/

/-- What a client asks of the server. -/
inductive Command where
  | subscribe (channel : String)
  | announce (channel message : String)
  deriving DecidableEq, Repr

namespace Command

/-- The line of a command, without its end. -/
def text : Command → String
  | .subscribe channel => s!"subscribe {channel}"
  | .announce channel message => s!"announce {channel} {message}"

/-- The bytes of a command. -/
def bytes (command : Command) : List UInt8 := Text.Utf8.encode (command.text.toList ++ ['\n'])

/-- The text before the first blank and the text after it. -/
def splitAtBlank (s : List Char) : Option (List Char × List Char) :=
  match s.dropWhile (· ≠ ' ') with
  | [] => none
  | _ :: rest => some (s.takeWhile (· ≠ ' '), rest)

/-- Reads a line without its end, as a server does. -/
def ofLine? (line : List Char) : Option Command :=
  match splitAtBlank line with
  | some (verb, rest) =>
    if verb = "subscribe".toList then some (.subscribe (String.ofList rest))
    else if verb = "announce".toList then
      (splitAtBlank rest).map fun (channel, message) =>
        .announce (String.ofList channel) (String.ofList message)
    else none
  | none => none

end Command

/-! ### From the server -/

/-- A message on a channel. -/
structure Delivery where
  channel : String
  message : String
  deriving DecidableEq, Repr

namespace Delivery

/-- The line by which a server passes a message on, without its end. -/
def text (delivery : Delivery) : String := s!"{delivery.channel}!{delivery.message}"

/-- The text without the carriage returns at its end. -/
def trimReturns (s : List Char) : List Char := (s.reverse.dropWhile (· = '\r')).reverse

/-- Reads a line without its end: the text before the first mark is the channel. -/
def ofLine? (line : List Char) : Option Delivery :=
  let line := trimReturns line
  match line.dropWhile (· ≠ '!') with
  | [] => none
  | _ :: message =>
    some ⟨String.ofList (line.takeWhile (· ≠ '!')), String.ofList message⟩

end Delivery

end ReplicaSync.Fanout
