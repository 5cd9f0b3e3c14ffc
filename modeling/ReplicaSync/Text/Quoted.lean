import ReplicaSync.Text.Hexadecimal
import ReplicaSync.Text.Printable

/-!
# Quoted text

Messages show a foreign text between quotes: the quote itself and the backslash are escaped, the
usual controls have short forms, and a character that would not be seen is shown by its code
point. A single character is quoted in the same way between single quotes.
-/

namespace ReplicaSync.Text

/-- A character by its code point. -/
def codePointEscape (c : Char) : List Char :=
  ['\\', 'u', '\x7b'] ++ hexDigits c.toNat ++ ['\x7d']

/-- One character between quotes of the kind `quote`. -/
def escapeChar (quote c : Char) : List Char :=
  if c = quote || c = '\\' then ['\\', c]
  else if c = '\n' then ['\\', 'n']
  else if c = '\r' then ['\\', 'r']
  else if c = '\t' then ['\\', 't']
  else if c.toNat = 0 then ['\\', '0']
  else if isGraphemeExtend c || isFiller c || isUnprintable c then codePointEscape c
  else [c]

/-- The text between double quotes. -/
def quoted (s : String) : String :=
  String.ofList ('"' :: s.toList.flatMap (escapeChar '"') ++ ['"'])

/-- The character between single quotes. -/
def quotedChar (c : Char) : String :=
  String.ofList ('\'' :: escapeChar '\'' c ++ ['\''])

end ReplicaSync.Text
