/-
**Text between double quotes.**

A quote and a backslash get a backslash before them, four controls have letters of their own, and
every other character that is not printable is written as its number in hexadecimal. A single quote
stays as it is, in a path as in any other text.
-/

import FlatVolume.Text.Printable

namespace FlatVolume

/-- The number of a character in hexadecimal, between braces. -/
def characterNumber (c : Char) : String :=
  "\\u\x7b" ++ String.ofList (Nat.toDigits 16 c.toNat) ++ "\x7d"

/-- A character as it is written between quotes. -/
def quotedChar (c : Char) : String :=
  if c = '"' then "\\\""
  else if c = '\\' then "\\\\"
  else if c = '\n' then "\\n"
  else if c = '\t' then "\\t"
  else if c = '\r' then "\\r"
  else if c = '\x00' then "\\0"
  else if isPrintable c then c.toString
  else characterNumber c

/-- A text or a path between double quotes. -/
def quoted (text : String) : String :=
  "\"" ++ String.join (text.toList.map quotedChar) ++ "\""

end FlatVolume
