import ReplicaSync.Logging.Event
import ReplicaSync.Logging.Threshold
import ReplicaSync.Pattern.Reader
import ReplicaSync.Text.Alphanumeric
import ReplicaSync.Text.Blank
import ReplicaSync.Text.Slice

/-!
# Directives of a log filter

A directive sets a threshold. It may be limited to targets with a certain beginning, to what
happens inside spans with a certain name, and to spans that have a certain field, perhaps with a
certain value: `target[span{field=value}]=level`. A directive that is only a level, or only
a target, is short for one.

The white space around a directive is passed over when its parts are found, but not when they are
cut out: the positions found are used in the text with its white space. So a directive behind
white space has displaced parts, and one with a cut inside a character cannot be read at all.
-/

namespace ReplicaSync

/-- Why a filter cannot be read. -/
inductive FilterFault where
  | badLevel
  | badDirective
  | badPattern (fault : PatternFault)
  /-- A part would begin or end inside a character. -/
  | splitCharacter
  deriving DecidableEq, Repr

/-- The complaint, unless reading breaks off without one. -/
def FilterFault.message? : FilterFault → Option String
  | .badLevel =>
    some ("error parsing level filter: expected one of \"off\", \"error\", \"warn\", \"info\", " ++
      "\"debug\", \"trace\", or a number 0-5")
  | .badDirective => some "invalid filter directive"
  | .badPattern fault => some ("invalid field filter: " ++ fault.message)
  | .splitCharacter => none

/-! ### Tests of fields -/

/-- What the value of a field has to be. -/
inductive ValueTest where
  | truth (value : Bool)
  | whole (value : Int)
  /-- A number that is not whole, or not written as if it were. -/
  | measure (text : List Char)
  /-- A text with whose end a match of the pattern ends. -/
  | pattern (text : List Char) (meaning : Pattern)
  deriving DecidableEq, Repr

namespace ValueTest

/-- Whether a number has a minus, and the number without its sign. -/
def unsigned (text : List Char) : Bool × List Char :=
  match text with
  | '-' :: digits => (true, digits)
  | '+' :: digits => (false, digits)
  | digits => (false, digits)

/-- Reads a whole number of 64 bits. -/
def whole? (text : List Char) : Option Int :=
  let (isNegative, digits) := unsigned text
  if digits = [] || !digits.all Char.isDigit then none
  else
    let value := Nat.ofDigitChars 10 digits 0
    if isNegative then if value ≤ Nat.pow 2 63 then some (-(value : Int)) else none
    else if value < Nat.pow 2 64 then some (value : Int) else none

/-- The rest of a number behind its digits: nothing, or an exponent. -/
def isExponent : List Char → Bool
  | [] => true
  | mark :: rest =>
    let digits := (unsigned rest).2
    (mark = 'e' || mark = 'E') && digits ≠ [] && digits.all Char.isDigit

/-- Numbers that have names. -/
def numberNames : List String := ["inf", "infinity", "nan"]

/-- The text is a number, whole or not. -/
def isNumber (text : List Char) : Bool :=
  let body := (unsigned text).2
  if numberNames.contains (String.ofList (body.map Char.toLower)) then true
  else
    let whole := body.takeWhile Char.isDigit
    let rest := body.drop whole.length
    let behindPoint := if rest.head? = some '.' then rest.drop 1 else []
    let fraction := behindPoint.takeWhile Char.isDigit
    let rest := if rest.head? = some '.' then behindPoint.drop fraction.length else rest
    (whole ≠ [] || fraction ≠ []) && isExponent rest

/-- Reads a test; what is neither a truth value nor a number is a pattern. -/
def ofText (text : List Char) : Except PatternFault ValueTest :=
  if String.ofList text = "true" then .ok (.truth true)
  else if String.ofList text = "false" then .ok (.truth false)
  else match whole? text with
    | some value => .ok (.whole value)
    | none =>
      if isNumber text then .ok (.measure text)
      else (Pattern.ofText text).map (.pattern text)

/-- The value passes. Of a span only truth values, whole numbers and texts are looked at. -/
def accepts : ValueTest → FieldValue → Bool
  | .truth wanted, .bool value => wanted = value
  | .whole wanted, .whole value => wanted = value
  | .pattern _ wanted, .text value => wanted.endsText value
  | _, _ => false

end ValueTest

/-- A field that has to be there, and perhaps what its value has to be. -/
structure FieldTest where
  name : String
  value : Option ValueTest
  deriving DecidableEq, Repr

namespace FieldTest

/-- Reads a name, and the value behind an equals sign; a second sign ends it. -/
def ofText (text : List Char) : Except FilterFault FieldTest :=
  let name := text.takeWhile (· ≠ '=')
  match text.drop name.length with
  | [] => if name = [] then .error .badDirective else .ok ⟨String.ofList name, none⟩
  | _ :: rest =>
    match ValueTest.ofText (rest.takeWhile (· ≠ '=')) with
    | .ok value => .ok ⟨String.ofList name, some value⟩
    | .error fault => .error (.badPattern fault)

/-- The span has the field. -/
def isDeclaredBy (test : FieldTest) (span : LogSpan) : Bool :=
  span.fields.any fun (name, _) => name = test.name

/-- The field of the span has the value that it has to have. -/
def accepts (test : FieldTest) (span : LogSpan) : Bool :=
  test.value.all fun value =>
    span.fields.any fun (name, found) => name = test.name && value.accepts found

end FieldTest

/-! ### Directives -/

structure LogDirective where
  /-- The beginning of the targets that it speaks about. -/
  target : Option String
  /-- The name of the spans inside which it speaks. -/
  span : Option String
  /-- The field that those spans have. -/
  field : Option FieldTest
  threshold : LogThreshold
  deriving DecidableEq, Repr

namespace LogDirective

/-- The directive for a target. -/
def ofTarget (target : String) (level : LogLevel) : LogDirective :=
  ⟨some target, none, none, ⟨some level⟩⟩

/-- What the directive speaks about. -/
def subject (directive : LogDirective) : Option String × Option String × Option FieldTest :=
  (directive.target, directive.span, directive.field)

/-- A value has to be known before the directive can decide. -/
def testsValue (directive : LogDirective) : Bool := directive.field.any (·.value.isSome)

/-- The directive speaks about what happens inside spans. -/
def isDynamic (directive : LogDirective) : Bool :=
  directive.span.isSome || directive.field.isSome

/-- The directive speaks about records for themselves. -/
def isStatic (directive : LogDirective) : Bool :=
  directive.span.isNone && !directive.testsValue

def coversTarget (directive : LogDirective) (target : String) : Bool :=
  directive.target.all fun beginning => target.startsWith beginning

/-- The directive speaks about the event for itself. -/
def coversEvent (directive : LogDirective) (event : LogEvent) : Bool :=
  directive.coversTarget event.target &&
    directive.field.all fun test => event.declared.contains test.name

/-- The directive speaks about the span for itself, whatever fields the span has. -/
def coversSpan (directive : LogDirective) (span : LogSpan) : Bool :=
  directive.coversTarget span.target

/-- The directive speaks about what happens inside the span, if the values of its fields pass. -/
def watches (directive : LogDirective) (span : LogSpan) : Bool :=
  directive.coversTarget span.target && directive.span.all (· = span.name) &&
    directive.field.all (·.isDeclaredBy span)

/-- The values of the fields of the span pass. -/
def accepts (directive : LogDirective) (span : LogSpan) : Bool :=
  directive.field.all (·.accepts span)

/-! ### Reading -/

/-- A directive as it stands in a filter, with the white space around it and without. -/
structure Source where
  text : List Char
  trimmed : List Char

namespace Source

def ofText (text : List Char) : Source := ⟨text, Text.trim text⟩

/-- The position at which a rest of the trimmed text begins. -/
def position (source : Source) (rest : List Char) : Nat :=
  Text.byteLength source.trimmed - Text.byteLength rest

/-- The part between the positions of two rests. -/
def part (source : Source) (start stop : List Char) : Except FilterFault (List Char) :=
  match Text.slice? source.text (source.position start) (source.position stop) with
  | some part => .ok part
  | none => .error .splitCharacter

/-- The part from the position of a rest on. -/
def partFrom (source : Source) (start : List Char) : Except FilterFault (List Char) :=
  match Text.dropBytes? (source.position start) source.text with
  | some part => .ok part
  | none => .error .splitCharacter

/-- The threshold behind an equals sign; no level at all stands for every level. -/
def threshold (source : Source) (rest : List Char) : Except FilterFault LogThreshold := do
  let level ← source.partFrom rest
  if level = [] then return .everything
  else match LogThreshold.ofText? level with
    | some threshold => return threshold
    | none => .error .badLevel

/-- The end of a directive behind its closing bracket. -/
def ending (source : Source) : List Char → Except FilterFault LogThreshold
  | [] => .ok .everything
  | '=' :: rest => source.threshold rest
  | _ => .error .badDirective

/-- The directive for a target, behind an opening bracket. -/
def spanDirective (source : Source) (target : Option String) (rest : List Char) :
    Except FilterFault LogDirective := do
  let behindName := rest.dropWhile fun c => c ≠ ']' && c ≠ '\x7b'
  match behindName with
  | [] => .error .badDirective
  | ']' :: behind =>
    let name ← source.part rest behindName
    return ⟨target, some (String.ofList name), none, ← source.ending behind⟩
  | _ :: inner =>
    let name ← source.part rest behindName
    let behindField := inner.dropWhile (· ≠ '\x7d')
    match behindField with
    | [] => .error .badDirective
    | _ :: behind =>
      let field ← FieldTest.ofText (← source.part inner behindField)
      match behind with
      | ']' :: behind =>
        let name := if name = [] then none else some (String.ofList name)
        return ⟨target, name, some field, ← source.ending behind⟩
      | _ => .error .badDirective

end Source

/-- A directive begins with a letter, a digit, one of three marks, or an opening bracket. -/
def mayBegin (c : Char) : Bool :=
  Text.isAlphanumeric c || c = '-' || c = ':' || c = '_'

/-- Reads one directive. -/
def ofText (text : List Char) : Except FilterFault LogDirective := do
  let source := Source.ofText text
  match source.trimmed with
  | [] => .error .badDirective
  | '[' :: rest => source.spanDirective none rest
  | c :: _ =>
    if !mayBegin c then .error .badDirective
    else
      let behindTarget := source.trimmed.dropWhile fun c => c ≠ '=' && c ≠ '['
      match behindTarget with
      | [] =>
        match LogThreshold.ofText? text with
        | some threshold => return ⟨none, none, none, threshold⟩
        | none => return ⟨some (String.ofList text), none, none, .everything⟩
      | mark :: rest =>
        let target ← source.part source.trimmed behindTarget
        if mark = '=' then
          return ⟨some (String.ofList target), none, none, ← source.threshold rest⟩
        else source.spanDirective (some (String.ofList target)) rest

end LogDirective

end ReplicaSync
