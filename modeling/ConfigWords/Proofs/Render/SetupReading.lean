import ConfigWords.Proofs.Text.Reading
import ConfigWords.Render.PinSetup
import Mathlib.Data.List.Basic

/-! The set-up function read back.
The reader looks for the lines that unlock and lock the registers and takes the writes between them,
as they stand. It knows both dialects by their numbers only, and passes over everything else. -/
namespace ConfigWords.Render

open Text

def isNameStart (c : Char) : Bool := c.isAlpha || c == '_'

def isNamePart (c : Char) : Bool := c.isAlphanum || c == '_'

def isIdentifier : List Char → Bool
  | [] => false
  | first :: rest => isNameStart first && rest.all isNamePart

/-- The register and the value of a line that writes one: after the blanks a name, ` = 0x`, the
digits and, with or without a suffix, a semicolon. -/
def readWrite? (line : String) : Option (String × Int) :=
  let body := line.toList.dropWhile (· == ' ')
  let name := body.takeWhile isNamePart
  match (body.dropWhile isNamePart).dropPrefix? [' ', '=', ' ', '0', 'x'] with
  | none => none
  | some value =>
    let digits := value.takeWhile isHexDigit
    let ending := value.dropWhile isHexDigit
    if isIdentifier name && !digits.isEmpty &&
        ([';'].isPrefixOf ending || ['U', ';'].isPrefixOf ending) then
      some (String.ofList name, ofHex digits)
    else none

def linesBetween (opening closing : String) (lines : List String) : List String :=
  ((lines.dropWhile (· != opening)).drop 1).takeWhile (· != closing)

/-- The writes that a text makes while the registers are unlocked, in their order. -/
def writesOf (text : String) : List (String × Int) :=
  (linesBetween "    CFGCONbits.IOLOCK = 0;" "    CFGCONbits.IOLOCK = 1;"
    (linesOf text)).filterMap readWrite?

theorem isNamePart_of_isIdentifier {name : List Char} (named : isIdentifier name = true) {c : Char}
    (member : c ∈ name) : isNamePart c = true := by
  cases name with
  | nil => cases member
  | cons first rest =>
    simp only [isIdentifier, Bool.and_eq_true, List.all_eq_true] at named
    rcases List.mem_cons.1 member with rfl | later
    · have start := named.1
      simp only [isNameStart, isNamePart, Char.isAlphanum, Bool.or_eq_true] at start ⊢
      rcases start with letter | underscore
      · exact .inl (.inl letter)
      · exact .inr underscore
    · exact named.2 c later

section Span

variable {α : Type} {p : α → Bool} {run : List α} (each : ∀ a ∈ run, p a = true) {stop : α}
  (ends : p stop = false) (rest : List α)

include each ends

theorem takeWhile_run : (run ++ stop :: rest).takeWhile p = run := by
  rw [List.takeWhile_append_of_pos each, List.takeWhile_cons_of_neg (by simp [ends]),
    List.append_nil]

theorem dropWhile_run : (run ++ stop :: rest).dropWhile p = stop :: rest := by
  rw [List.dropWhile_append_of_pos each, List.dropWhile_cons_of_neg (by simp [ends])]

end Span

theorem readWrite?_eq {line : String} {name digits ending : List Char} {stop : Char}
    (shape : line.toList = [' ', ' ', ' ', ' '] ++ (name ++ ' ' :: '=' :: ' ' :: '0' :: 'x' ::
      (digits ++ stop :: ending)))
    (named : isIdentifier name = true) (spelled : ∀ c ∈ digits, isHexDigit c = true)
    (nonempty : digits ≠ []) (ends : stop = ';' ∨ stop = 'U' ∧ ∃ rest, ending = ';' :: rest) :
    readWrite? line = some (String.ofList name, (ofHex digits : Int)) := by
  have blanks : ∀ c ∈ [' ', ' ', ' ', ' '], (c == ' ') = true := by simp
  have unindented : line.toList.dropWhile (· == ' ') = name ++ ' ' :: '=' :: ' ' :: '0' :: 'x' ::
      (digits ++ stop :: ending) := by
    rw [shape]
    cases name with
    | nil => cases named
    | cons first rest =>
      have letter := isNamePart_of_isIdentifier named List.mem_cons_self
      have solid : (first == ' ') = false := by
        rw [beq_eq_false_iff_ne]
        rintro rfl
        exact absurd letter (by decide)
      exact dropWhile_run blanks solid _
  have parts : ∀ c ∈ name, isNamePart c = true := fun c => isNamePart_of_isIdentifier named
  have value : (' ' :: '=' :: ' ' :: '0' :: 'x' :: (digits ++ stop :: ending)).dropPrefix?
      [' ', '=', ' ', '0', 'x'] = some (digits ++ stop :: ending) :=
    List.dropPrefix?_eq_some_iff.2 ⟨_, rfl, BEq.rfl⟩
  have halts : isHexDigit stop = false := by
    rcases ends with rfl | ⟨rfl, _⟩
    · decide
    · decide
  have closed : ([';'].isPrefixOf (stop :: ending) || ['U', ';'].isPrefixOf (stop :: ending)) =
      true := by
    rcases ends with rfl | ⟨rfl, rest, rfl⟩
    · simp
    · simp
  have present : digits.isEmpty = false := by simpa using nonempty
  simp only [readWrite?, unindented, takeWhile_run parts (by decide : isNamePart ' ' = false),
    dropWhile_run parts (by decide : isNamePart ' ' = false), value, takeWhile_run spelled halts,
    dropWhile_run spelled halts, named, present, closed, Bool.not_false, Bool.and_self, if_true]

theorem readWrite?_writeLine (dialect : Dialect) {x : Resolved} (remark : String)
    (named : isIdentifier x.register.toList = true) (positive : 0 ≤ x.selector) :
    readWrite? (writeLine dialect.form x remark) = some (x.register, x.selector) := by
  have digits : (hexInt x.selector).toList = '0' :: 'x' :: hex x.selector.natAbs := by
    rw [hexInt, if_neg (Int.not_lt.2 positive), String.toList_ofList]
  have number : (ofHex (hex x.selector.natAbs) : Int) = x.selector := by
    rw [ofHex_hex]
    omega
  have spelled : ∀ c ∈ hex x.selector.natAbs, isHexDigit c = true := fun _ =>
    isHexDigit_of_mem_hex
  cases dialect with
  | harmony =>
    have shape : (writeLine Dialect.harmony.form x remark).toList = [' ', ' ', ' ', ' '] ++
        (x.register.toList ++ ' ' :: '=' :: ' ' :: '0' :: 'x' ::
          (hex x.selector.natAbs ++ 'U' :: ';' :: ' ' :: remark.toList)) := by
      simp [writeLine, setupIndent, Dialect.form, digits]
    rw [readWrite?_eq shape named spelled (hex_ne_nil _) (.inr ⟨rfl, _, rfl⟩), number,
      String.ofList_toList]
  | mikroc =>
    have shape : (writeLine Dialect.mikroc.form x remark).toList = [' ', ' ', ' ', ' '] ++
        (x.register.toList ++ ' ' :: '=' :: ' ' :: '0' :: 'x' ::
          (hex x.selector.natAbs ++ ';' :: ' ' :: remark.toList)) := by
      simp [writeLine, setupIndent, Dialect.form, digits]
    rw [readWrite?_eq shape named spelled (hex_ne_nil _) (.inl rfl), number, String.ofList_toList]

theorem linesBetween_eq {opening closing : String} {before inside after : List String}
    (closed : opening ∉ before) (opened : closing ∉ inside) :
    linesBetween opening closing (before ++ opening :: (inside ++ closing :: after)) = inside := by
  have others : ∀ line ∈ before, (line != opening) = true := fun line member =>
    bne_iff_ne.2 fun same => closed (same ▸ member)
  have open' : ∀ line ∈ inside, (line != closing) = true := fun line member =>
    bne_iff_ne.2 fun same => opened (same ▸ member)
  rw [linesBetween, dropWhile_run others (by simp), List.drop_one, List.tail_cons,
    takeWhile_run open' (by simp)]

/-! The lines of the function, one kind after the other. -/

/-- The items can be written: their registers are names and their selectors are not negative. -/
def Writable (items : List Resolved) : Prop :=
  ∀ x ∈ items, isIdentifier x.register.toList = true ∧ 0 ≤ x.selector

def writeOf (x : Resolved) : String × Int := (x.register, x.selector)

section Block

variable {dialect : Dialect} {note : String} {remark : Assignment → String} {items : List Resolved}

theorem mem_writeBlock {line : String}
    (member : line ∈ writeBlock dialect.form note remark items) :
    line = setupIndent ++ dialect.form.comment note ∨ line = "" ∨
      ∃ x ∈ items, line = writeLine dialect.form x (remark x.assignment) := by
  unfold writeBlock at member
  split at member
  · cases member
  · simp only [List.cons_append, List.mem_cons, List.mem_append, List.mem_map,
      List.not_mem_nil, or_false] at member
    rcases member with heading | ⟨x, present, rfl⟩ | gap
    · exact .inl heading
    · exact .inr (.inr ⟨x, present, rfl⟩)
    · exact .inr (.inl gap)

theorem filterMap_writeBlock (writable : Writable items)
    (heading : readWrite? (setupIndent ++ dialect.form.comment note) = none) :
    (writeBlock dialect.form note remark items).filterMap readWrite? = items.map writeOf := by
  have gap : readWrite? "" = none := by decide
  have writes : (items.map fun x => writeLine dialect.form x (remark x.assignment)).filterMap
      readWrite? = items.map writeOf := by
    rw [List.filterMap_map, ← List.filterMap_eq_map]
    apply List.filterMap_congr
    intro x member
    obtain ⟨named, positive⟩ := writable x member
    rw [Function.comp_apply, readWrite?_writeLine dialect _ named positive]
    rfl
  unfold writeBlock
  split
  · rename_i none_left
    rw [List.isEmpty_iff.1 none_left]
    rfl
  · rw [List.cons_append, List.filterMap_cons_none heading, List.filterMap_append, writes,
      List.filterMap_cons_none gap, List.filterMap_nil, List.append_nil]

end Block

end ConfigWords.Render
