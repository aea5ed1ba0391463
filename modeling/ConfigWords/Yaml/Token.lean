import ConfigWords.Yaml.Text

/-! The tokens of a YAML text.
Indentation becomes explicit: blocks are opened and closed by tokens of their own. A scalar or a
bracket may turn out to be a key when a colon follows it on its line within 1024 characters; the
key token is then put in front of it. -/
namespace ConfigWords.Yaml

inductive Token
  | documentStart
  | documentEnd
  | blockListStart
  | blockMappingStart
  | blockEnd
  | flowListStart
  | flowListEnd
  | flowMappingStart
  | flowMappingEnd
  | blockEntry
  | flowEntry
  | key
  | value
  | scalar (plain : Bool) (content : String)
deriving DecidableEq, Inhabited

structure Cursor where
  rest : List Char
  index : Nat
  line : Nat
  column : Nat

namespace Cursor

/-- The place one character further on; a byte order mark takes no column. -/
def next (c : Cursor) : Cursor :=
  match c.rest with
  | [] => c
  | x :: rest =>
    if isBreak x then ⟨rest, c.index + 1, c.line + 1, 0⟩
    else if x == '\uFEFF' then ⟨rest, c.index + 1, c.line, c.column⟩
    else ⟨rest, c.index + 1, c.line, c.column + 1⟩

def skip : Nat → Cursor → Cursor
  | 0, c => c
  | n + 1, c => skip n c.next

def moveTo (c : Cursor) (rest : List Char) : Cursor := c.skip (c.rest.length - rest.length)

end Cursor

/-- A place where a key may turn out to begin. -/
structure KeyMark where
  depth : Nat
  position : Nat
  /-- Whether nothing but a key can stand there. -/
  required : Bool
  place : Cursor

structure Scan where
  cursor : Cursor
  depth : Nat
  /-- The column of the innermost block, -1 outside all blocks. -/
  indent : Int
  outer : List Int
  keyAllowed : Bool
  marks : List KeyMark
  tokens : Array Token

namespace Scan

def start (text : List Char) : Scan := ⟨⟨text, 0, 0, 0⟩, 0, -1, [], true, [], #[]⟩

def push (s : Scan) (t : Token) : Scan := { s with tokens := s.tokens.push t }

def take (s : Scan) (n : Nat) (t : Token) : Scan :=
  { s with cursor := s.cursor.skip n, tokens := s.tokens.push t }

/-- Past spaces, comments and line ends; outside brackets a new line may begin a key.
The first argument bounds the number of steps. -/
def skipGap : Nat → Scan → Scan
  | 0, s => s
  | steps + 1, s =>
    match s.cursor.rest with
    | c :: rest =>
      if c == ' ' || (s.cursor.index == 0 && c == '\uFEFF') then
        skipGap steps { s with cursor := s.cursor.next }
      else if c == '#' then
        skipGap steps { s with
          cursor := s.cursor.skip ((c :: rest).takeWhile fun x => !isBreak x).length }
      else if isBreak c then
        skipGap steps { s with
          cursor := s.cursor.next, keyAllowed := s.keyAllowed || s.depth == 0 }
      else s
    | [] => s

/-- Whether a mark can no longer become a key: another line, or more than 1024 characters on. -/
def isStale (s : Scan) (m : KeyMark) : Bool :=
  m.place.line != s.cursor.line || s.cursor.index - m.place.index > 1024

def dropStale (s : Scan) : Except Fault Scan :=
  if s.marks.any fun m => s.isStale m && m.required then .error .malformed
  else .ok { s with marks := s.marks.filter fun m => !s.isStale m }

def dropMark (s : Scan) : Except Fault Scan :=
  if s.marks.any fun m => m.depth == s.depth && m.required then .error .malformed
  else .ok { s with marks := s.marks.filter fun m => m.depth != s.depth }

def mark (s : Scan) : Except Fault Scan :=
  if s.keyAllowed then do
    let t ← s.dropMark
    let required := s.depth == 0 && s.indent == s.cursor.column
    return { t with marks := ⟨s.depth, s.tokens.size, required, s.cursor⟩ :: t.marks }
  else .ok s

def unwind (column : Int) (s : Scan) : Scan :=
  if s.depth != 0 then s
  else
    let deeper := (s.indent :: s.outer).takeWhile fun i => i > column
    match (s.indent :: s.outer).drop deeper.length with
    | [] => s
    | indent :: outer =>
      { s with
        indent := indent
        outer := outer
        tokens := s.tokens ++ Array.replicate deeper.length Token.blockEnd }

/-- Opens a block at a column if it is indented deeper than the present one; the opening token
goes to the given position. -/
def openBlock (s : Scan) (column : Nat) (position : Nat) (t : Token) : Scan :=
  if s.indent < column then
    { s with
      indent := column
      outer := s.indent :: s.outer
      tokens := s.tokens.insertIdxIfInBounds position t }
  else s

def takeMarker (s : Scan) (t : Token) : Except Fault Scan := do
  let s ← (s.unwind (-1)).dropMark
  return { s with keyAllowed := false }.take 3 t

def takeOpening (s : Scan) (t : Token) : Except Fault Scan := do
  let s ← s.mark
  return { s with depth := s.depth + 1, keyAllowed := true }.take 1 t

def takeClosing (s : Scan) (t : Token) : Except Fault Scan := do
  let s ← s.dropMark
  if s.depth = 0 then throw .malformed
  return { s with depth := s.depth - 1, keyAllowed := false }.take 1 t

def takeComma (s : Scan) : Except Fault Scan := do
  let s ← s.dropMark
  return { s with keyAllowed := true }.take 1 .flowEntry

def takeDash (s : Scan) : Except Fault Scan := do
  if s.depth == 0 && !s.keyAllowed then throw .malformed
  let s := if s.depth == 0 then s.openBlock s.cursor.column s.tokens.size .blockListStart else s
  let s ← s.dropMark
  return { s with keyAllowed := true }.take 1 .blockEntry

def takeQuestion (s : Scan) : Except Fault Scan := do
  if s.depth == 0 && !s.keyAllowed then throw .malformed
  let s := if s.depth == 0 then s.openBlock s.cursor.column s.tokens.size .blockMappingStart else s
  let s ← s.dropMark
  return { s with keyAllowed := s.depth == 0 }.take 1 .key

/-- The colon behind a key. If the key has been marked, its token goes in front of it. -/
def takeColon (s : Scan) : Except Fault Scan := do
  match s.marks.find? fun m => m.depth == s.depth with
  | some m =>
    let s := { s with
      marks := s.marks.filter fun m => m.depth != s.depth
      tokens := s.tokens.insertIdxIfInBounds m.position .key
      keyAllowed := false }
    let s := if s.depth == 0 then s.openBlock m.place.column m.position .blockMappingStart else s
    return s.take 1 .value
  | none =>
    if s.depth == 0 && !s.keyAllowed then throw .malformed
    let s :=
      if s.depth == 0 then s.openBlock s.cursor.column s.tokens.size .blockMappingStart else s
    let s ← { s with keyAllowed := s.depth == 0 }.dropMark
    return s.take 1 .value

def takeQuotedScalar (s : Scan) (double : Bool) : Except Fault Scan := do
  let s ← s.mark
  let body := s.cursor.rest.drop 1
  let (content, rest) ← takeQuoted double (body.length + 1) body
  return { s with
    cursor := s.cursor.moveTo rest
    keyAllowed := false
    tokens := s.tokens.push (.scalar false (String.ofList content)) }

def takePlainScalar (s : Scan) : Except Fault Scan := do
  let s ← s.mark
  let text := takePlain (s.depth != 0) (s.indent + 1) (s.cursor.rest.length + 1) s.cursor.rest false
  return { s with
    cursor := s.cursor.moveTo text.rest
    keyAllowed := text.broken
    tokens := s.tokens.push (.scalar true (String.ofList text.content)) }

def beginsPlain (inFlow : Bool) (c : Char) (rest : List Char) : Bool :=
  !(isGap c || "-?:,[]\x7b\x7d#&*!|>'\"%@`".toList.contains c) ||
  (!atGap rest && (c == '-' || (!inFlow && (c == '?' || c == ':'))))

def takeToken (s : Scan) (c : Char) (rest : List Char) : Except Fault Scan :=
  let inFlow := s.depth != 0
  if s.cursor.column == 0 && c == '%' then .error .malformed
  else if s.cursor.column == 0 && atDocumentMarker (c :: rest) then
    s.takeMarker (if c == '-' then .documentStart else .documentEnd)
  else if c == '[' then s.takeOpening .flowListStart
  else if c == '\x7b' then s.takeOpening .flowMappingStart
  else if c == ']' then s.takeClosing .flowListEnd
  else if c == '\x7d' then s.takeClosing .flowMappingEnd
  else if c == ',' then s.takeComma
  else if c == '-' && atGap rest then s.takeDash
  else if c == '?' && (inFlow || atGap rest) then s.takeQuestion
  else if c == ':' && (inFlow || atGap rest) then s.takeColon
  else if c == '\'' then s.takeQuotedScalar false
  else if c == '"' then s.takeQuotedScalar true
  else if beginsPlain inFlow c rest then s.takePlainScalar
  else .error .malformed

/-- All tokens from a place on. The first argument bounds the number of tokens. -/
def run : Nat → Scan → Except Fault (Array Token)
  | 0, _ => .error .malformed
  | steps + 1, s => do
    let s ← (s.skipGap (s.cursor.rest.length + 1)).dropStale
    let s := s.unwind s.cursor.column
    match s.cursor.rest with
    | [] =>
      let s ← (s.unwind (-1)).dropMark
      return s.tokens
    | c :: rest => run steps (← s.takeToken c rest)

end Scan

def tokens (text : List Char) : Except Fault (Array Token) :=
  Scan.run (text.length + 1) (Scan.start text)

end ConfigWords.Yaml
