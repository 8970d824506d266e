import FormRules.Number.Natural
import FormRules.Pattern.Reader.Scan

/-!
# Escapes in written patterns

A backslash starts an escape: a character that would otherwise have a meaning,
a character by its number, a class of characters, or an anchor.
-/

namespace FormRules.Pattern.Reader

/-- One escape, as it is to be understood under its flags. -/
inductive Escape where
  /-- A character; `byte` says that it was written as two digits. -/
  | char (c : Char) (byte : Bool)
  | set (s : CharSet)
  | anchor (a : Anchor)

/-- The characters with a meaning in patterns. -/
def metaCharacters : List Char := "\\.+*?()|[]\x7b\x7d^$#&-~".toList

/-- Can this character be escaped to stand for itself?  ASCII characters can,
letters, digits and angle brackets apart. -/
def isEscapable (c : Char) : Bool :=
  c ∈ metaCharacters ||
    (decide (c.toNat < 0x80) && !c.isAlphanum && c != '<' && c != '>')

/-- The character with a number, if there is one. -/
def charOf? (n : Nat) : Option Char :=
  if h : n.isValidChar then some (Char.ofNatAux n h) else none

/-- A number of exactly so many hexadecimal digits. -/
def readHexDigits (f : Flags) : Nat → Nat → List Char → Except PatternFault (Read Nat)
  | 0, value, cs => .ok (value, cs)
  | count + 1, value, cs =>
      match cs with
      | c :: rest =>
          match Number.hexValue? c with
          | some digit => readHexDigits f count (16 * value + digit) (skip f rest)
          | none => malformed
      | [] => malformed

/-- A number of hexadecimal digits up to the closing brace; `digits` counts
those read so far. -/
def readHexBraced (f : Flags) : Nat → Nat → Nat → List Char → Except PatternFault (Read Nat)
  | 0, _, _, _ => malformed
  | fuel + 1, digits, value, cs =>
      match skip f cs with
      | '}' :: rest => if digits = 0 then malformed else .ok (value, skip f rest)
      | c :: rest =>
          match Number.hexValue? c with
          | some digit => readHexBraced f fuel (digits + 1) (16 * value + digit) rest
          | none => malformed
      | [] => malformed

/-- A character by its number, after the letter that says how many digits there
are without braces. -/
def readHex (f : Flags) (width : Nat) (cs : List Char) : Except PatternFault (Read Escape) := do
  let (n, byte, rest) ←
    match skip f cs with
    | '{' :: rest => do
        let (n, rest) ← readHexBraced f (rest.length + 1) 0 0 rest
        pure (n, false, rest)
    | cs => do
        let (n, rest) ← readHexDigits f width 0 cs
        pure (n, width == 2, rest)
  match charOf? n with
  | some c => .ok (.char c byte, rest)
  | none => malformed

/-- The name of a property up to the closing brace. -/
def readName (f : Flags) : Nat → List Char → Except PatternFault (Read (List Char))
  | 0, _ => malformed
  | fuel + 1, cs =>
      match skip f cs with
      | '}' :: rest => .ok ([], rest)
      | c :: rest => do
          let (name, rest) ← readName f fuel rest
          .ok (c :: name, rest)
      | [] => malformed

/-- Cut a text at the first place where another text stands. -/
def cutAt? (mark : List Char) : List Char → Option (List Char × List Char)
  | [] => none
  | c :: rest =>
      if mark.isPrefixOf (c :: rest) then
        some ([], (c :: rest).drop mark.length)
      else
        (cutAt? mark rest).map fun (left, right) => (c :: left, right)

/-- The characters of a property as written between braces: one name, or a
property and a value with an equals sign, a colon or an unequals sign between
them.  The second component is set for an unequals sign. -/
def propertySet? (name : List Char) : Option (Unicode.Ranges × Bool) :=
  match cutAt? ['!', '='] name with
  | some (property, value) => (Unicode.valued? property value).map (·, true)
  | none =>
      match cutAt? [':'] name with
      | some (property, value) => (Unicode.valued? property value).map (·, false)
      | none =>
          match cutAt? ['='] name with
          | some (property, value) => (Unicode.valued? property value).map (·, false)
          | none => (Unicode.named? name).map (·, false)

/-- A class of characters with a property, after its letter.  There is none
without all characters to draw from. -/
def readProperty (f : Flags) (negated : Bool) (cs : List Char) :
    Except PatternFault (Read Escape) := do
  let (found, rest) ←
    match skip f cs with
    | '{' :: rest => do
        let (name, rest) ← readName f (rest.length + 1) rest
        pure (propertySet? name, rest)
    | '\\' :: _ => malformed
    | c :: rest => pure ((Unicode.named? [c]).map (·, false), skip f rest)
    | [] => malformed
  match found with
  | some (ranges, unequal) =>
      let set := CharSet.table ranges
      let set := if f.ignoreCase then .caseFold set else set
      if f.unicode then
        .ok (.set (if negated != unequal then .compl set else set), rest)
      else
        malformed
  | none => malformed

/-- The set of a class letter.  Among ASCII alone no class has a complement. -/
def letterSet? (f : Flags) (letter : Char) : Option CharSet :=
  let set? : Option CharSet :=
    match letter.toLower with
    | 'd' => some (if f.unicode then .table Unicode.digitRanges else .asciiDigit)
    | 's' => some (if f.unicode then .table Unicode.spaceRanges else .asciiSpace)
    | 'w' => some (if f.unicode then .table Unicode.wordRanges else .asciiWord)
    | _ => none
  if letter.isUpper then
    if f.unicode then set?.map .compl else none
  else
    set?

/-- The letters of a name for an edge of a word, up to the first character that
cannot be in one. -/
def scanEdgeName (f : Flags) : Nat → List Char → List Char × List Char
  | 0, cs => ([], cs)
  | fuel + 1, cs =>
      match cs with
      | c :: rest =>
          if c.isAlpha || c = '-' then
            let (name, rest) := scanEdgeName f fuel (skip f rest)
            (c :: name, rest)
          else
            ([], cs)
      | [] => ([], [])

/-- The edge of a word that a name stands for. -/
def edgeNamed? (name : String) : Option WordEdge :=
  if name = "start" then some .start
  else if name = "end" then some .stop
  else if name = "start-half" then some .startHalf
  else if name = "end-half" then some .stopHalf
  else none

/-- The edge of a word after its letter: a name in braces, or any edge.  A
brace that is followed by no name belongs to a repetition. -/
def readEdge (f : Flags) (cs : List Char) : Except PatternFault (Read WordEdge) :=
  match cs with
  | '{' :: rest =>
      match skip f rest with
      | [] => malformed
      | c :: more =>
          if c.isAlpha || c = '-' then
            let (name, rest) := scanEdgeName f (more.length + 1) (c :: more)
            match rest, edgeNamed? (String.ofList name) with
            | '}' :: rest, some edge => .ok (edge, rest)
            | _, _ => malformed
          else
            .ok (.boundary, cs)
  | _ => .ok (.boundary, cs)

/-- One escape, after its backslash. -/
def readEscape (f : Flags) (cs : List Char) : Except PatternFault (Read Escape) :=
  match cs with
  | [] => malformed
  | c :: rest =>
      if c.isDigit then malformed
      else if c = 'x' then readHex f 2 rest
      else if c = 'u' then readHex f 4 rest
      else if c = 'U' then readHex f 8 rest
      else if c = 'p' then readProperty f false rest
      else if c = 'P' then readProperty f true rest
      else if c ∈ ['d', 'D', 's', 'S', 'w', 'W'] then
        match letterSet? f c with
        | some set => .ok (.set set, rest)
        | none => malformed
      else if isEscapable c then .ok (.char c false, rest)
      else if c = 'a' then .ok (.char '\x07' false, rest)
      else if c = 'f' then .ok (.char '\x0C' false, rest)
      else if c = 't' then .ok (.char '\t' false, rest)
      else if c = 'n' then .ok (.char '\n' false, rest)
      else if c = 'r' then .ok (.char '\r' false, rest)
      else if c = 'v' then .ok (.char '\x0B' false, rest)
      else if c = 'A' then .ok (.anchor .textStart, rest)
      else if c = 'z' then .ok (.anchor .textEnd, rest)
      else if c = 'b' then
        (readEdge f rest).map fun (edge, rest) => (.anchor (.word edge !f.unicode), rest)
      else if c = 'B' then .ok (.anchor (.word .noBoundary !f.unicode), rest)
      else if c = '<' then .ok (.anchor (.word .start !f.unicode), rest)
      else if c = '>' then .ok (.anchor (.word .stop !f.unicode), rest)
      else malformed

end FormRules.Pattern.Reader
