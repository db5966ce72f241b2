-- SUMMARY: JSON values as texts.
import ExasolClient.Binary64.Shortest
import ExasolClient.Json.Basic
import ExasolClient.Text.Quoted

/-!
# Writing JSON

Numbers have one text each: an integer its digits, a float the shortest decimal
that reads back, set out by `numberLayout`. The writer adds to the end of what is
already written, so that a long value is written in one pass.
-/

namespace ExasolClient.Json

open Text (writeInt hexDigits)

/--
Floats stand positionally from a hundred-thousandth up to but not including ten to
the sixteenth, whole ones with `.0` behind them; beyond, the exponent has a sign.
-/
def numberLayout : Binary64.Layout where
  leastPositional := -5
  firstScientific := 16
  wholeTail := ['.', '0']
  plusSign := ['+']
  nan := "null".toList
  infinity := "null".toList

/-- The text of an integer. -/
def intText (n : Int) : String := String.ofList (writeInt n)

/-- The text of a float. -/
def floatText (x : Binary64) : String := String.ofList (numberLayout.write x)

/-- The characters that stand for one character of a string. -/
def escape (c : Char) : List Char :=
  if c = '"' then ['\\', '"']
  else if c = '\\' then ['\\', '\\']
  else if c = '\n' then ['\\', 'n']
  else if c = '\r' then ['\\', 'r']
  else if c = '\t' then ['\\', 't']
  else if c.toNat < 0x20 then
    let digits := hexDigits c.toNat
    ['\\', 'u'] ++ List.replicate (4 - digits.length) '0' ++ digits
  else [c]

/-- The text with a string, between quotes, added to its end. -/
def addString (out : String) (s : String) : String :=
  (s.toList.foldl (fun out c => (escape c).foldl String.push out) (out.push '"')).push '"'

mutual

/-- The text with a value added to its end. -/
def addValue (out : String) : Json → String
  | .null => out ++ "null"
  | .bool true => out ++ "true"
  | .bool false => out ++ "false"
  | .int n => out ++ intText n
  | .float x => out ++ floatText x
  | .str s => addString out s
  | .arr items => (addItems (out.push '[') true items).push ']'
  | .obj members => (addMembers (out.push '\x7b') true members).push '\x7d'

/-- The text with items added to its end, a comma in front of all but the first. -/
def addItems (out : String) (first : Bool) : List Json → String
  | [] => out
  | item :: rest => addItems (addValue (if first then out else out.push ',') item) false rest

/-- The text with members added to its end, a comma in front of all but the first. -/
def addMembers (out : String) (first : Bool) : List (String × Json) → String
  | [] => out
  | (name, value) :: rest =>
    let out := if first then out else out.push ','
    addMembers (addValue ((addString out name).push ':') value) false rest

end

/-- The text of a value. -/
def write (j : Json) : String := addValue "" j

end ExasolClient.Json
