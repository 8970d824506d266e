import FormRules.Number.Literal
import FormRules.Toml.Basic

/-!
# Strings, numbers and dates of TOML

Each reader takes the text from its first character on, and gives the value and
the rest of the text, or nothing if the text does not follow the grammar.  Where
a reader takes fuel, a number above the length of the text is enough.
-/

namespace FormRules.Toml

/-- What has been read, and the rest of the text. -/
abbrev Read (α : Type) := α × List Char

/-- Blanks within a line. -/
def isSpace (c : Char) : Bool := c == ' ' || c == '\t'

/-- Drop the blanks within a line. -/
def dropSpaces (cs : List Char) : List Char := cs.dropWhile isSpace

/-- The characters that can stand in a comment: all but control characters. -/
def isPlain (c : Char) : Bool :=
  c == '\t' || (decide (0x20 ≤ c.toNat) && c.toNat != 0x7F)

/-- The rest after the end of a line, if the text starts with one. -/
def newline? : List Char → Option (List Char)
  | '\n' :: rest => some rest
  | '\r' :: '\n' :: rest => some rest
  | _ => none

/-- A character by its number in so many hexadecimal digits. -/
def readCodePoint : Nat → Nat → List Char → Option (Read Char)
  | 0, value, cs => if h : value.isValidChar then some (Char.ofNatAux value h, cs) else none
  | count + 1, value, c :: cs =>
      match Number.hexValue? c with
      | some digit => readCodePoint count (16 * value + digit) cs
      | none => none
  | _ + 1, _, [] => none

/-- The character of an escape, after its backslash. -/
def readEscape : List Char → Option (Read Char)
  | 'b' :: rest => some ('\x08', rest)
  | 't' :: rest => some ('\t', rest)
  | 'n' :: rest => some ('\n', rest)
  | 'f' :: rest => some ('\x0C', rest)
  | 'r' :: rest => some ('\r', rest)
  | '"' :: rest => some ('"', rest)
  | '\\' :: rest => some ('\\', rest)
  | 'u' :: rest => readCodePoint 4 0 rest
  | 'U' :: rest => readCodePoint 8 0 rest
  | _ => none

/-- The rest of a string of one line with escapes. -/
def readBasic : Nat → List Char → Option (Read (List Char))
  | 0, _ => none
  | fuel + 1, cs =>
      match cs with
      | [] => none
      | '"' :: rest => some ([], rest)
      | '\\' :: rest => do
          let (c, rest) ← readEscape rest
          let (text, rest) ← readBasic fuel rest
          some (c :: text, rest)
      | c :: rest =>
          if isPlain c then
            (readBasic fuel rest).map fun (text, rest) => (c :: text, rest)
          else
            none

/-- The rest of a string of one line without escapes. -/
def readLiteral : List Char → Option (Read (List Char))
  | [] => none
  | '\'' :: rest => some ([], rest)
  | c :: rest =>
      if isPlain c then
        (readLiteral rest).map fun (text, rest) => (c :: text, rest)
      else
        none

/-- Drop the blanks and the ends of lines after a backslash at the end of a
line. -/
def dropBlankLines : List Char → List Char
  | '\r' :: '\n' :: rest => dropBlankLines rest
  | c :: rest => if c == '\n' || isSpace c then dropBlankLines rest else c :: rest
  | [] => []

/-- What a run of quotes in a string of many lines means: fewer than three are
text; three end the string, and up to two before them are text. -/
def readQuotes (quote : Char) (cs : List Char) : Bool × List Char × List Char :=
  let quotes := cs.takeWhile (· == quote)
  let rest := cs.dropWhile (· == quote)
  if quotes.length < 3 then
    (false, quotes, rest)
  else
    let kept := min 2 (quotes.length - 3)
    (true, quotes.take kept, quotes.drop (kept + 3) ++ rest)

/-- The rest of a string of many lines.  Ends of lines become line feeds; with
escapes, a backslash at the end of a line drops it with the blanks after it. -/
def readLines (quote : Char) (escapes : Bool) : Nat → List Char → Option (Read (List Char))
  | 0, _ => none
  | fuel + 1, cs =>
      match cs with
      | [] => none
      | '\n' :: rest => (readLines quote escapes fuel rest).map fun (t, rest) => ('\n' :: t, rest)
      | '\r' :: '\n' :: rest =>
          (readLines quote escapes fuel rest).map fun (t, rest) => ('\n' :: t, rest)
      | c :: rest =>
          if c == quote then
            let (ends, text, rest) := readQuotes quote (c :: rest)
            if ends then
              some (text, rest)
            else
              (readLines quote escapes fuel rest).map fun (t, rest) => (text ++ t, rest)
          else if escapes && c == '\\' then
            match newline? (dropSpaces rest) with
            | some rest => readLines quote escapes fuel (dropBlankLines rest)
            | none => do
                let (c, rest) ← readEscape rest
                let (text, rest) ← readLines quote escapes fuel rest
                some (c :: text, rest)
          else if isPlain c then
            (readLines quote escapes fuel rest).map fun (t, rest) => (c :: t, rest)
          else
            none

/-- Drop the end of a line at the start of a string of many lines. -/
def dropNewline (cs : List Char) : List Char :=
  (newline? cs).getD cs

/-- A string of any of the four kinds. -/
def readString (fuel : Nat) (cs : List Char) : Option (Read String) :=
  let read? :=
    match cs with
    | '"' :: '"' :: '"' :: rest => readLines '"' true fuel (dropNewline rest)
    | '\'' :: '\'' :: '\'' :: rest => readLines '\'' false fuel (dropNewline rest)
    | '"' :: rest => readBasic fuel rest
    | '\'' :: rest => readLiteral rest
    | _ => none
  read?.map fun (text, rest) => (String.ofList text, rest)

/-- Digits with single low lines between them, from the second digit on. -/
def readMoreDigits (isDigit : Char → Bool) : List Char → Option (Read (List Char))
  | '_' :: c :: rest =>
      if isDigit c then
        (readMoreDigits isDigit rest).map fun (digits, rest) => (c :: digits, rest)
      else
        none
  | '_' :: [] => none
  | c :: rest =>
      if isDigit c then
        (readMoreDigits isDigit rest).map fun (digits, rest) => (c :: digits, rest)
      else
        some ([], c :: rest)
  | [] => some ([], [])

/-- Digits with single low lines between them. -/
def readDigits (isDigit : Char → Bool) : List Char → Option (Read (List Char))
  | c :: rest =>
      if isDigit c then
        (readMoreDigits isDigit rest).map fun (digits, rest) => (c :: digits, rest)
      else
        none
  | [] => none

/-- The largest integer. -/
def maxInteger : Int := 9223372036854775807

/-- The least integer. -/
def minInteger : Int := -9223372036854775808

/-- An integer in a base, after the letter of the base. -/
def readInBase (base : Nat) (cs : List Char) : Option (Read Value) := do
  let isDigit := fun c => (Number.hexValue? c).any (· < base)
  let (digits, rest) ← readDigits isDigit cs
  let n := digits.foldl (fun n c => base * n + (Number.hexValue? c).getD 0) 0
  if (n : Int) ≤ maxInteger then some (.integer n, rest) else none

/-- The exponent of a float with its letter, as it is to be read. -/
def readExponent : List Char → Option (Read (List Char))
  | c :: rest =>
      if c == 'e' || c == 'E' then
        let (sign, rest) :=
          match rest with
          | '-' :: rest => (['-'], rest)
          | '+' :: rest => ([], rest)
          | rest => ([], rest)
        (readDigits Char.isDigit rest).map fun (digits, rest) => ('e' :: sign ++ digits, rest)
      else
        some ([], c :: rest)
  | [] => some ([], [])

/-- The whole part of a number: digits that do not start with zero, or zero. -/
def readWhole : List Char → Option (Read (List Char))
  | '0' :: rest => some (['0'], rest)
  | cs => readDigits Char.isDigit cs

/-- A float from its digits.  One that is too large is no float. -/
def floatValue (negative : Bool) (literal : List Char) (rest : List Char) :
    Option (Read Value) :=
  match Number.readUnsigned literal with
  | some x =>
      if negative then some (.float (-x), rest)
      else if x.isInf then none
      else some (.float x, rest)
  | none => none

/-- A decimal number after its sign. -/
def readUnsigned (negative : Bool) (cs : List Char) : Option (Read Value) :=
  match cs with
  | 'i' :: 'n' :: 'f' :: rest => some (.float (if negative then -(1 / 0) else 1 / 0), rest)
  | 'n' :: 'a' :: 'n' :: rest => some (.float (0 / 0), rest)
  | cs => do
      let (whole, rest) ← readWhole cs
      let (fraction, rest) ←
        match rest with
        | '.' :: rest =>
            (readDigits Char.isDigit rest).map fun (digits, rest) => ('.' :: digits, rest)
        | rest => some ([], rest)
      let (exponent, rest) ← readExponent rest
      if fraction.isEmpty && exponent.isEmpty then
        let n : Int := Number.digitsValue whole
        let n := if negative then -n else n
        if minInteger ≤ n ∧ n ≤ maxInteger then some (.integer n, rest) else none
      else
        floatValue negative (whole ++ fraction ++ exponent) rest

/-- A number. -/
def readNumber : List Char → Option (Read Value)
  | '0' :: 'x' :: rest => readInBase 16 rest
  | '0' :: 'o' :: rest => readInBase 8 rest
  | '0' :: 'b' :: rest => readInBase 2 rest
  | '-' :: rest => readUnsigned true rest
  | '+' :: rest => readUnsigned false rest
  | cs => readUnsigned false cs

/-- Exactly so many digits, as they stand and as a number. -/
def takeDigits (count : Nat) (cs : List Char) : Option (Read (List Char × Nat)) :=
  let digits := cs.take count
  if digits.length = count ∧ digits.all Char.isDigit then
    some ((digits, Number.digitsValue digits), cs.drop count)
  else
    none

/-- The number of days of a month. -/
def daysIn (year month : Nat) : Nat :=
  if month = 2 then
    if year % 4 = 0 ∧ (year % 100 ≠ 0 ∨ year % 400 = 0) then 29 else 28
  else if month = 4 ∨ month = 6 ∨ month = 9 ∨ month = 11 then 30
  else 31

/-- A date after its year and the hyphen behind it. -/
def readMonthDay (year : Nat) (cs : List Char) : Option (Read (List Char)) := do
  let ((m, month), rest) ← takeDigits 2 cs
  match rest with
  | '-' :: rest => do
      let ((d, day), rest) ← takeDigits 2 rest
      if 1 ≤ month ∧ month ≤ 12 ∧ 1 ≤ day ∧ day ≤ daysIn year month then
        some (m ++ '-' :: d, rest)
      else
        none
  | _ => none

/-- A fraction of a second; nine digits of it count, and zeros at its end do
not. -/
def readFraction : List Char → List Char × List Char
  | '.' :: rest =>
      let digits := rest.takeWhile Char.isDigit
      if digits.isEmpty then
        ([], '.' :: rest)
      else
        let kept := ((digits.take 9).reverse.dropWhile (· == '0')).reverse
        (if kept.isEmpty then [] else '.' :: kept, rest.dropWhile Char.isDigit)
  | cs => ([], cs)

/-- A time after its hour and the colon behind it. -/
def readMinuteSecond (cs : List Char) : Option (Read (List Char)) := do
  let ((m, minute), rest) ← takeDigits 2 cs
  match rest with
  | ':' :: rest => do
      let ((s, second), rest) ← takeDigits 2 rest
      if minute ≤ 59 ∧ second ≤ 60 then
        let (fraction, rest) := readFraction rest
        some (m ++ ':' :: s ++ fraction, rest)
      else
        none
  | _ => none

/-- The hour of a time and the colon behind it, if the text starts so. -/
def hourAt? (cs : List Char) : Option (Read (List Char)) :=
  match takeDigits 2 cs with
  | some ((h, hour), ':' :: rest) => if hour ≤ 23 then some (h, rest) else none
  | _ => none

/-- The offset of a time, if there is one. -/
def readOffset (cs : List Char) : Option (Read (List Char)) :=
  match cs with
  | [] => some ([], [])
  | c :: rest =>
      if c == 'Z' || c == 'z' then
        some (['Z'], rest)
      else if c == '+' || c == '-' then do
        let (h, rest) ← hourAt? rest
        let ((m, minute), rest) ← takeDigits 2 rest
        if minute ≤ 59 then
          let zero := h ++ m == ['0', '0', '0', '0']
          some ((if zero then '+' else c) :: h ++ ':' :: m, rest)
        else
          none
      else
        some ([], cs)

/-- What can follow a date: a time with or without an offset. -/
def readTimeAfterDate (date : List Char) (cs : List Char) : Option (Read Value) :=
  match cs with
  | c :: rest =>
      if c == 'T' || c == 't' || c == ' ' then
        match hourAt? rest with
        | some (h, rest) => do
            let (time, rest) ← readMinuteSecond rest
            let (offset, rest) ← readOffset rest
            some (.datetime (String.ofList (date ++ 'T' :: h ++ ':' :: time ++ offset)), rest)
        | none => some (.datetime (String.ofList date), cs)
      else
        some (.datetime (String.ofList date), cs)
  | [] => some (.datetime (String.ofList date), [])

/-- A number, a date, or a time. -/
def readNumeral (cs : List Char) : Option (Read Value) :=
  match takeDigits 4 cs with
  | some ((y, year), '-' :: rest) => do
      let (monthDay, rest) ← readMonthDay year rest
      readTimeAfterDate (y ++ '-' :: monthDay) rest
  | _ =>
      match hourAt? cs with
      | some (h, rest) =>
          (readMinuteSecond rest).map fun (time, rest) =>
            (.datetime (String.ofList (h ++ ':' :: time)), rest)
      | none => readNumber cs

end FormRules.Toml
