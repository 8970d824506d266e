import FormRules.Pattern.Machine.Build
import FormRules.Pattern.Reader.Bracket
import FormRules.Unicode.Naming

/-!
# Reading patterns

A written pattern is read from left to right.  The groups that are open form a
stack; each holds the alternatives and the parts that stand before it.  The
reader accepts a pattern only if it is neither nested too deeply nor too
large.
-/

namespace FormRules.Pattern.Reader

/-- A part of a pattern that has been read. -/
structure Part where
  pattern : Pattern
  /-- How deeply the parts inside of it are nested. -/
  depth : Nat
  /-- The layout of the pattern, which its size depends on. -/
  layout : Layout
  /-- Can a repetition follow? -/
  repeatable : Bool

/-- The deepest nesting of a usable pattern. -/
def nestingLimit : Nat := 250

namespace Part

/-- The part that matches the empty text only. -/
def empty : Part := ⟨.empty, 0, .empty, false⟩

/-- A part that asks for one character, with the depth of its set. -/
def one (f : Flags) (s : CharSet) (depth : Nat) : Part :=
  ⟨.one s, depth, .ofSet (!f.unicode) s, true⟩

/-- A character on its own. -/
def char (c : Char) : Part := ⟨.one (.single c), 0, .text [c], true⟩

/-- A condition on a place. -/
def look (a : Anchor) : Part := ⟨.look a, 0, .look a, true⟩

/-- A repetition of a part. -/
def iter (p : Part) (r : Rounds) : Part :=
  ⟨.iter p.pattern r.min r.max, p.depth + 1, p.layout.repeated r.min r.max r.isLazy, true⟩

/-- A group around a part. -/
def group (p : Part) (captures : Bool) : Part :=
  ⟨p.pattern, p.depth + 1, if captures then .group p.layout else p.layout, true⟩

/-- Parts one after the other, the last one first. -/
def sequence : List Part → Part
  | [] => empty
  | [p] => p
  | ps =>
      ⟨seqAll (ps.reverse.map (·.pattern)), (ps.map (·.depth)).foldl max 0 + 1,
        .sequence (ps.reverse.map (·.layout)), true⟩

/-- Alternatives, the last one first. -/
def choice : List Part → Part
  | [] => empty
  | [p] => p
  | ps =>
      ⟨altAll (ps.reverse.map (·.pattern)), (ps.map (·.depth)).foldl max 0 + 1,
        .choice (ps.reverse.map (·.layout)), true⟩

end Part

/-- What stands before an open group. -/
structure Level where
  /-- The alternatives before the current one, the last one first. -/
  branches : List Part
  /-- The parts of the current alternative, the last one first. -/
  parts : List Part
  /-- The flags to return to. -/
  flags : Flags
  /-- Does the group capture what it matches? -/
  captures : Bool

/-- What has been read so far. -/
structure State where
  /-- The open groups, the innermost one first. -/
  outer : List Level
  branches : List Part
  parts : List Part
  flags : Flags
  /-- The names of the groups so far. -/
  names : List (List Char)

/-- Nothing has been read. -/
def State.initial : State := ⟨[], [], [], .initial, []⟩

namespace State

/-- Everything since the last opening bracket as one part. -/
def inner (s : State) : Part :=
  .choice (.sequence s.parts :: s.branches)

/-- Add a part to the current alternative. -/
def push (s : State) (p : Part) : State :=
  { s with parts := p :: s.parts }

/-- Begin the next alternative. -/
def nextBranch (s : State) : State :=
  { s with branches := .sequence s.parts :: s.branches, parts := [] }

/-- Open a group. -/
def openGroup (s : State) (flags : Flags) (captures : Bool) : State :=
  { s with
    outer := ⟨s.branches, s.parts, s.flags, captures⟩ :: s.outer
    branches := []
    parts := []
    flags := flags }

/-- Close the innermost group and return to the flags before it. -/
def closeGroup (s : State) : Except PatternFault State :=
  match s.outer with
  | [] => malformed
  | level :: outer =>
      .ok { s with
        outer := outer
        branches := level.branches
        parts := s.inner.group level.captures :: level.parts
        flags := level.flags }

/-- Repeat the last part. -/
def repeatLast (s : State) (r : Rounds) : Except PatternFault State :=
  match s.parts with
  | p :: parts => if p.repeatable then .ok { s with parts := p.iter r :: parts } else malformed
  | [] => malformed

/-- Repeat the last part as a sign says, before which nothing else is read of
the rest of the text than its preference. -/
def repeatBy (s : State) (min : Nat) (max : Option Nat) (cs : List Char) :
    Except PatternFault (Read State) :=
  let (rounds, rest) := readPreference s.flags min max cs
  (s.repeatLast rounds).map (·, rest)

/-- The end of the pattern: no group may be open. -/
def finish (s : State) : Except PatternFault Part :=
  if s.outer.isEmpty then .ok s.inner else malformed

end State

/-- Can this character be in the name of a group?  The first one is a letter or
a low line. -/
def isNameChar (first : Bool) (c : Char) : Bool :=
  c == '_' || Unicode.isNameLetter c ||
    (!first && (c == '.' || c == '[' || c == ']' || Unicode.isNameAlphanumeric c))

/-- The name of a group up to its closing angle bracket. -/
def readGroupName (cs : List Char) : Except PatternFault (Read (List Char)) :=
  let name := cs.takeWhile (· != '>')
  match name, cs.dropWhile (· != '>') with
  | c :: more, '>' :: rest =>
      if isNameChar true c && more.all (isNameChar false) then .ok (name, rest) else malformed
  | _, _ => malformed

/-- Open a group with a name; no two groups have the same name. -/
def openNamed (s : State) (cs : List Char) : Except PatternFault (Read State) := do
  let (name, rest) ← readGroupName cs
  if name ∈ s.names then
    malformed
  else
    .ok ({ s with names := name :: s.names }.openGroup s.flags true, rest)

/-- Open a group, or set flags, after an opening bracket.  There are no groups
that look ahead or behind. -/
def readOpen (s : State) (cs : List Char) : Except PatternFault (Read State) :=
  match skip s.flags cs with
  | '?' :: 'P' :: '<' :: rest => openNamed s rest
  | '?' :: '<' :: '=' :: _ => malformed
  | '?' :: '<' :: '!' :: _ => malformed
  | '?' :: '<' :: rest => openNamed s rest
  | '?' :: rest => do
      let (read, rest) ← readFlags s.flags [] false false rest
      if read.opens then
        .ok (s.openGroup read.flags false, rest)
      else if read.any then
        .ok ({ s with flags := read.flags }.push .empty, rest)
      else
        malformed
  | rest => .ok (s.openGroup s.flags true, rest)

/-- A character that stands for itself.  Among ASCII alone, a character that
was written as two digits is a byte and must be ASCII. -/
def charPart (f : Flags) (c : Char) (byte : Bool) : Except PatternFault Part :=
  if !f.unicode && byte && 0x80 ≤ c.toNat then malformed
  else if !f.ignoreCase then .ok (.char c)
  else
    let variants :=
      if f.unicode then Unicode.caseVariants c.toNat else Unicode.asciiCaseVariants c.toNat
    .ok (.one f (.table (.ofList variants)) 0)

/-- Any character, line feeds apart unless the flags say so. -/
def dotPart (f : Flags) : Except PatternFault Part :=
  if !f.unicode then malformed
  else
    let set : CharSet :=
      if f.dotAll then .all
      else if f.crlf then .compl (.union (.single '\n') (.single '\r'))
      else .compl (.single '\n')
    .ok (.one f set 0)

/-- The anchor at the start of the text, or of a line. -/
def startAnchor (f : Flags) : Anchor :=
  if f.multiLine then if f.crlf then .crlfLineStart else .lineStart else .textStart

/-- The anchor at the end of the text, or of a line. -/
def endAnchor (f : Flags) : Anchor :=
  if f.multiLine then if f.crlf then .crlfLineEnd else .lineEnd else .textEnd

/-- Read the part that starts with a character. -/
def step (s : State) (c : Char) (rest : List Char) : Except PatternFault (Read State) :=
  match c with
  | '(' => readOpen s rest
  | ')' => s.closeGroup.map (·, rest)
  | '|' => .ok (s.nextBranch, rest)
  | '[' => do
      let (term, rest) ← readSet s.flags rest
      .ok (s.push (.one s.flags term.set term.depth), rest)
  | '?' => s.repeatBy 0 (some 1) rest
  | '*' => s.repeatBy 0 none rest
  | '+' => s.repeatBy 1 none rest
  | '{' => do
      let (rounds, rest) ← readBounds s.flags rest
      let s ← s.repeatLast rounds
      .ok (s, rest)
  | '\\' => do
      match ← readEscape s.flags rest with
      | (.char c byte, rest) => do
          let part ← charPart s.flags c byte
          .ok (s.push part, rest)
      | (.set set, rest) => .ok (s.push (.one s.flags set 0), rest)
      | (.anchor a, rest) => .ok (s.push (.look a), rest)
  | '.' => (dotPart s.flags).map fun part => (s.push part, rest)
  | '^' => .ok (s.push (.look (startAnchor s.flags)), rest)
  | '$' => .ok (s.push (.look (endAnchor s.flags)), rest)
  | c => (charPart s.flags c false).map fun part => (s.push part, rest)

/-- Read part after part to the end of the text.  Every part is at least one
character long, so the length of the text is fuel enough. -/
def run : Nat → State → List Char → Except PatternFault Part
  | 0, _, _ => malformed
  | fuel + 1, s, cs =>
      match skip s.flags cs with
      | [] => s.finish
      | c :: rest => do
          let (s, rest) ← step s c rest
          run fuel s rest

/-- Read a pattern without regard to its limits. -/
def readPart (cs : List Char) : Except PatternFault Part :=
  run (cs.length + 1) .initial cs

end FormRules.Pattern.Reader

namespace FormRules.Pattern

/-- Read a pattern of any size. -/
def readAny (cs : List Char) : Except PatternFault Reader.Part := do
  let part ← Reader.readPart cs
  if Reader.nestingLimit < part.depth then .error .malformed else .ok part

/-- Read a pattern. -/
def read (cs : List Char) : Except PatternFault Pattern := do
  let part ← readAny cs
  if part.layout.isUsable then .ok part.pattern else .error .tooLarge

end FormRules.Pattern
