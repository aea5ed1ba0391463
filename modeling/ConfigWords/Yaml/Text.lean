import ConfigWords.Yaml.Character
import ConfigWords.Yaml.Fault

/-! The contents of quoted and of plain scalars.
Each reader takes a text and gives the content with the rest of the text. A line end inside a
scalar is folded: one becomes a space, of several all but the first stay. -/
namespace ConfigWords.Yaml

def escape? : Char → Option Char
  | '0' => some '\x00'
  | 'a' => some '\x07'
  | 'b' => some '\x08'
  | 't' => some '\t'
  | '\t' => some '\t'
  | 'n' => some '\n'
  | 'v' => some '\x0B'
  | 'f' => some '\x0C'
  | 'r' => some '\r'
  | 'e' => some '\x1B'
  | ' ' => some ' '
  | '"' => some '"'
  | '\\' => some '\\'
  | '/' => some '/'
  | 'N' => some '\x85'
  | '_' => some '\xA0'
  | 'L' => some '\u2028'
  | 'P' => some '\u2029'
  | _ => none

def escapeWidth? : Char → Option Nat
  | 'x' => some 2
  | 'u' => some 4
  | 'U' => some 8
  | _ => none

def takeHex : Nat → Nat → List Char → Option (Nat × List Char)
  | 0, n, cs => some (n, cs)
  | _ + 1, _, [] => none
  | width + 1, n, c :: rest => (hexValue? c).bind fun d => takeHex width (16 * n + d) rest

def character (code : Nat) : Except Fault Char :=
  if code.isValidChar then .ok (Char.ofNat code)
  else if code < 0x110000 then .error .malformed
  else if code < 0x80000000 then .error .noCharacter
  else .error .hugeCharacter

/-- Line ends with the blanks in front of each line, up to the first other character.
The marker of a document is not allowed at the start of a line. -/
def takeBreaks : List Char → Except Fault (List Char × List Char)
  | [] => .ok ([], [])
  | c :: rest =>
    if c == ' ' || c == '\t' then takeBreaks rest
    else if isBreak c then
      if atDocumentMarker rest then .error .malformed
      else (takeBreaks rest).map fun r => (breakContent c :: r.1, r.2)
    else .ok ([], c :: rest)

def fold (first : Char) (more : List Char) : List Char :=
  if breakContent first != '\n' then breakContent first :: more
  else if more.isEmpty then [' '] else more

def takeBreaksAfter (rest : List Char) : Except Fault (List Char × List Char) :=
  if atDocumentMarker rest then .error .malformed else takeBreaks rest

/-- The content of a quoted scalar whose opening quote has been passed, and the text behind its
closing quote. The first argument bounds the number of steps. -/
def takeQuoted (double : Bool) : Nat → List Char → Except Fault (List Char × List Char)
  | 0, _ => .error .malformed
  | _ + 1, [] => .error .malformed
  | steps + 1, c :: rest =>
    let prepend (content : List Char) (r : List Char × List Char) := (content ++ r.1, r.2)
    if c == (if double then '"' else '\'') then
      match double, rest with
      | false, '\'' :: tail => (takeQuoted double steps tail).map (prepend ['\''])
      | _, _ => .ok ([], rest)
    else if double && c == '\\' then
      match rest with
      | [] => .error .malformed
      | e :: tail =>
        match escape? e, escapeWidth? e with
        | some x, _ => (takeQuoted double steps tail).map (prepend [x])
        | none, some width =>
          match takeHex width 0 tail with
          | none => .error .malformed
          | some (code, tail) => do
            let x ← character code
            (takeQuoted double steps tail).map (prepend [x])
        | none, none =>
          if isBreak e then do
            let (more, tail) ← takeBreaksAfter tail
            (takeQuoted double steps tail).map (prepend more)
          else .error .malformed
    else if isGap c then
      let blanks := (c :: rest).takeWhile fun x => x == ' ' || x == '\t'
      match (c :: rest).dropWhile fun x => x == ' ' || x == '\t' with
      | [] => .error .malformed
      | b :: tail =>
        if isBreak b then do
          let (more, tail) ← takeBreaksAfter tail
          (takeQuoted double steps tail).map (prepend (fold b more))
        else (takeQuoted double steps (b :: tail)).map (prepend blanks)
    else (takeQuoted double steps rest).map (prepend [c])

/-- Whether a plain scalar ends before this character. Inside brackets the marks of a flow
collection end it too. -/
def endsPlain (inFlow : Bool) (c : Char) (rest : List Char) : Bool :=
  isGap c ||
  (c == ':' && (atGap rest ||
    (inFlow && rest.head?.any fun d => d == ',' || d == '[' || d == ']' || d == '\x7b' || d == '\x7d')))
  || (inFlow && (c == ',' || c == '?' || c == '[' || c == ']' || c == '\x7b' || c == '\x7d'))

def takePlainRun (inFlow : Bool) : List Char → List Char × List Char
  | [] => ([], [])
  | c :: rest =>
    if endsPlain inFlow c rest then ([], c :: rest)
    else
      let (run, tail) := takePlainRun inFlow rest
      (c :: run, tail)

structure PlainGap where
  content : List Char
  rest : List Char
  broken : Bool
  column : Nat

/-- Line ends and spaces after a line end: their content, the rest and the column there; no
content when a document's marker stands at the start of a line. -/
def takePlainBreaks (column : Nat) : List Char → Option (List Char) × List Char × Nat
  | [] => (some [], [], column)
  | c :: rest =>
    if c == ' ' then takePlainBreaks (column + 1) rest
    else if isBreak c then
      if atDocumentMarker rest then (none, rest, 0)
      else
        let (more, tail, column) := takePlainBreaks 0 rest
        (more.map (breakContent c :: ·), tail, column)
    else (some [], c :: rest, column)

def takePlainGap (cs : List Char) : PlainGap :=
  let spaces := cs.takeWhile (· == ' ')
  match cs.dropWhile (· == ' ') with
  | [] => ⟨spaces, [], false, 0⟩
  | b :: rest =>
    if isBreak b then
      if atDocumentMarker rest then ⟨[], rest, true, 0⟩
      else
        match takePlainBreaks 0 rest with
        | (some more, tail, column) => ⟨fold b more, tail, true, column⟩
        | (none, tail, column) => ⟨[], tail, true, column⟩
    else ⟨spaces, b :: rest, false, 0⟩

structure PlainText where
  content : List Char
  rest : List Char
  broken : Bool

/-- The content of a plain scalar. On a new line it goes on only from `indent` on, unless it
stands in brackets. The first argument bounds the number of steps. -/
def takePlain (inFlow : Bool) (indent : Int) : Nat → List Char → Bool → PlainText
  | 0, cs, broken => ⟨[], cs, broken⟩
  | steps + 1, cs, broken =>
    match takePlainRun inFlow cs with
    | ([], _) => ⟨[], cs, broken⟩
    | (run, tail) =>
      let gap := takePlainGap tail
      let comment := gap.rest.head? == some '#'
      let outdented := !inFlow && gap.broken && (gap.column : Int) < indent
      if gap.content.isEmpty || comment || outdented then ⟨run, gap.rest, gap.broken⟩
      else
        let next := takePlain inFlow indent steps gap.rest gap.broken
        if next.content.isEmpty then ⟨run, next.rest, next.broken⟩
        else ⟨run ++ gap.content ++ next.content, next.rest, next.broken⟩

end ConfigWords.Yaml
