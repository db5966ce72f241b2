-- SUMMARY: Reading a JSON value from a text.
import ExasolClient.Binary64.Reading
import ExasolClient.Binary64.Scaling
import ExasolClient.Json.Basic

/-!
# Reading JSON

A number with neither a fraction nor an exponent is an integer when it lies
between the least signed and the greatest unsigned integer of 64 bits and is not
`-0`. Every other number is a float: those of its digits that fit into 64 bits
are rounded to one, which is then scaled by a power of ten. That is the nearest
float when there are few digits and the power is small, and close to it otherwise;
a number beyond the largest float is no JSON. Of a member given twice the last
one stays. Each reader returns what it read and the text behind it; the bound on
the depth of the recursion is the length of the text.
-/

namespace ExasolClient.Json

open Text (digitValue? digitsValue?)

/-- The white space of JSON. -/
def isSpace (c : Char) : Bool :=
  c = ' ' || c = '\n' || c = '\t' || c = '\r'

def skipSpace (cs : List Char) : List Char := cs.dropWhile isSpace

-- ---------------------------------------------------------------------------
-- Strings
-- ---------------------------------------------------------------------------

/-- The value of a digit in base sixteen. -/
def hexValue? (c : Char) : Option Nat :=
  if '0' ≤ c ∧ c ≤ '9' then some (c.toNat - '0'.toNat)
  else if 'a' ≤ c ∧ c ≤ 'f' then some (c.toNat - 'a'.toNat + 10)
  else if 'A' ≤ c ∧ c ≤ 'F' then some (c.toNat - 'A'.toNat + 10)
  else none

/-- Four digits in base sixteen. -/
def readHex4 : List Char → Option (Nat × List Char)
  | a :: b :: c :: d :: rest => do
    let a ← hexValue? a
    let b ← hexValue? b
    let c ← hexValue? c
    let d ← hexValue? d
    return (((a * 16 + b) * 16 + c) * 16 + d, rest)
  | _ => none

/-- The character a code point stands for; the surrogates stand for none. -/
def charAt? (n : Nat) : Option Char :=
  if h : n.isValidChar then some (Char.ofNatAux n h) else none

/-- A character given by one UTF-16 unit, or by two that belong together. -/
def readUnits (cs : List Char) : Option (Char × List Char) := do
  let (high, rest) ← readHex4 cs
  if 0xD800 ≤ high ∧ high < 0xDC00 then
    match rest with
    | '\\' :: 'u' :: rest =>
      let (low, rest) ← readHex4 rest
      if 0xDC00 ≤ low ∧ low < 0xE000 then
        let c ← charAt? (0x10000 + (high - 0xD800) * 0x400 + (low - 0xDC00))
        return (c, rest)
      else none
    | _ => none
  else
    let c ← charAt? high
    return (c, rest)

/-- What follows a backslash. -/
def readEscape : List Char → Option (Char × List Char)
  | '"' :: rest => some ('"', rest)
  | '\\' :: rest => some ('\\', rest)
  | '/' :: rest => some ('/', rest)
  | 'b' :: rest => some (Char.ofNat 8, rest)
  | 'f' :: rest => some (Char.ofNat 12, rest)
  | 'n' :: rest => some ('\n', rest)
  | 'r' :: rest => some ('\r', rest)
  | 't' :: rest => some ('\t', rest)
  | 'u' :: rest => readUnits rest
  | _ => none

/-- The characters up to the closing quote, behind those in `read`, the last one first. -/
def readChars : Nat → (read : List Char) → List Char → Option (String × List Char)
  | 0, _, _ => none
  | _ + 1, _, [] => none
  | fuel + 1, read, c :: rest =>
    if c = '"' then some (String.ofList read.reverse, rest)
    else if c = '\\' then do
      let (c, rest) ← readEscape rest
      readChars fuel (c :: read) rest
    else if c.toNat < 0x20 then none
    else readChars fuel (c :: read) rest

-- ---------------------------------------------------------------------------
-- Numbers
-- ---------------------------------------------------------------------------

/-- The digits behind a point, if there is a point. -/
def readFraction : List Char → Option (List Char × List Char)
  | '.' :: rest =>
    let (digits, rest) := Binary64.spanDigits rest
    if digits.isEmpty then none else some (digits, rest)
  | rest => some ([], rest)

/-- The exponent, if there is one. -/
def readPower : List Char → Option (Option Int × List Char)
  | [] => some (none, [])
  | c :: rest =>
    if c = 'e' ∨ c = 'E' then do
      let (negative, rest) := match rest with
        | '-' :: rest => (true, rest)
        | '+' :: rest => (false, rest)
        | _ => (false, rest)
      let (digits, rest) := Binary64.spanDigits rest
      if digits.isEmpty then none
      else
        let n ← digitsValue? 0 digits
        return (some (if negative then -(n : Int) else n), rest)
    else some (none, c :: rest)

/--
The number whose digits are those of `m` and as many of the text as fit into 64
bits behind them; and the rest of the text, from the first digit that does not.
-/
def takeDigits (m : Nat) : List Char → Nat × List Char
  | [] => (m, [])
  | c :: cs =>
    match digitValue? c with
    | some d => if 10 * m + d < UInt64.size then takeDigits (10 * m + d) cs else (m, c :: cs)
    | none => (m, c :: cs)

theorem le_of_digitsValue? {m n : Nat} {cs : List Char} (h : digitsValue? m cs = some n) :
    m ≤ n := by
  induction cs generalizing m with
  | nil => simp_all [digitsValue?]
  | cons c cs ih =>
    obtain ⟨d, -, hd⟩ := Option.bind_eq_some_iff.mp h
    have := ih hd
    omega

/-- Digits that fit are all taken. -/
theorem takeDigits_of_digitsValue? {m n : Nat} {cs : List Char}
    (h : digitsValue? m cs = some n) (fits : n < UInt64.size) : takeDigits m cs = (n, []) := by
  induction cs generalizing m with
  | nil => simp_all [digitsValue?, takeDigits]
  | cons c cs ih =>
    obtain ⟨d, hc, hd⟩ := Option.bind_eq_some_iff.mp h
    have := le_of_digitsValue? hd
    rw [takeDigits, hc]
    simp only [ih hd, if_pos (show 10 * m + d < UInt64.size by omega)]

/--
Digits, a fraction and an exponent, the sign aside. A digit that does not fit
counts as a factor of ten in front of the point and as nothing behind it.
-/
def readMagnitude (negative : Bool) (cs : List Char) : Option (Json × List Char) := do
  let (whole, rest) := Binary64.spanDigits cs
  if whole.isEmpty || (1 < whole.length && whole.head? == some '0') then none
  else
    let (fraction, rest) ← readFraction rest
    let (power, rest) ← readPower rest
    let (m, dropped) := takeDigits 0 whole
    let n : Int := if negative then -(m : Int) else m
    if fraction.isEmpty && power.isNone && dropped.isEmpty && Int64.minValue.toInt ≤ n
        && !(negative && m == 0) then
      return (.int n, rest)
    else
      let (m, ignored) := takeDigits m fraction
      let scale := power.getD 0 + dropped.length - (fraction.length - ignored.length : Nat)
      let x ← (Binary64.ofRatio negative m 1).scaleTen? scale
      return (.float x, rest)

/-- A number. -/
def readNumber : List Char → Option (Json × List Char)
  | '-' :: rest => readMagnitude true rest
  | cs => readMagnitude false cs

-- ---------------------------------------------------------------------------
-- Values
-- ---------------------------------------------------------------------------

mutual

/-- A value, with any white space in front of it. -/
def readValue : Nat → List Char → Option (Json × List Char)
  | 0, _ => none
  | fuel + 1, cs =>
    match skipSpace cs with
    | 'n' :: 'u' :: 'l' :: 'l' :: rest => some (.null, rest)
    | 't' :: 'r' :: 'u' :: 'e' :: rest => some (.bool true, rest)
    | 'f' :: 'a' :: 'l' :: 's' :: 'e' :: rest => some (.bool false, rest)
    | '"' :: rest => (readChars (rest.length + 1) [] rest).map fun (s, rest) => (.str s, rest)
    | '[' :: rest =>
      match skipSpace rest with
      | ']' :: rest => some (.arr [], rest)
      | rest => readItems fuel [] rest
    | '\x7b' :: rest =>
      match skipSpace rest with
      | '\x7d' :: rest => some (.obj [], rest)
      | rest => readMembers fuel [] rest
    | rest => readNumber rest

/-- The items up to the closing bracket, behind those in `read`, the last one first. -/
def readItems : Nat → (read : List Json) → List Char → Option (Json × List Char)
  | 0, _, _ => none
  | fuel + 1, read, cs => do
    let (item, rest) ← readValue fuel cs
    match skipSpace rest with
    | ',' :: rest => readItems fuel (item :: read) rest
    | ']' :: rest => some (.arr (item :: read).reverse, rest)
    | _ => none

/-- The members up to the closing brace, behind those in `read`. -/
def readMembers : Nat → (read : List (String × Json)) → List Char → Option (Json × List Char)
  | 0, _, _ => none
  | fuel + 1, read, cs => do
    match skipSpace cs with
    | '"' :: rest =>
      let (name, rest) ← readChars (rest.length + 1) [] rest
      match skipSpace rest with
      | ':' :: rest =>
        let (value, rest) ← readValue fuel rest
        match skipSpace rest with
        | ',' :: rest => readMembers fuel (insert name value read) rest
        | '\x7d' :: rest => some (.obj (insert name value read), rest)
        | _ => none
      | _ => none
    | _ => none

end

/-- The value a text stands for. -/
def read (s : String) : Option Json :=
  let cs := s.toList
  match readValue (cs.length + 1) cs with
  | some (j, rest) => if (skipSpace rest).isEmpty then some j else none
  | none => none

end ExasolClient.Json
