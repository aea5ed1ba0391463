import ConfigWords.Proofs.Recompiling
import ConfigWords.Proofs.Render.PragmaLayout

/-! The words of an image read back from its three texts.
A line with words in it is a name between fixed texts and words of ten characters. So all that
stands behind the name has a fixed length, and the name is what is left of the line. -/
namespace ConfigWords.Render

open Text

def isCapitalHex (c : Char) : Bool := isHexDigit c && !c.isLower

/-- The word in front, `0x` and eight capital digits, and what stands behind it. -/
def takeWord? : List Char → Option (Nat × List Char)
  | '0' :: 'x' :: rest =>
    let digits := rest.take 8
    if digits.length = 8 ∧ digits.all isCapitalHex then some (ofHex digits, rest.drop 8) else none
  | _ => none

def takeWords? : List String → List Char → Option (List Nat × List Char)
  | [], cs => some ([], cs)
  | gap :: gaps, cs => do
    let (n, cs) ← takeWord? (← cs.dropPrefix? gap.toList)
    let (ns, cs) ← takeWords? gaps cs
    return (n :: ns, cs)

/-- How a line shows a name and words: each word stands behind a gap. -/
structure LineForm where
  head : String
  gaps : List String
  ending : String

namespace LineForm

def tailLength (form : LineForm) : Nat :=
  (form.gaps.map fun gap => gap.length + 10).sum + form.ending.length

/-- The name and the words of a line of this form. -/
def read? (form : LineForm) (line : String) : Option (String × List Nat) := do
  let body ← line.toList.dropPrefix? form.head.toList
  let size := body.length - form.tailLength
  let (ns, rest) ← takeWords? form.gaps (body.drop size)
  if rest = form.ending.toList then some (String.ofList (body.take size), ns) else none

def tail : List String → List Nat → String → List Char
  | gap :: gaps, n :: ns, ending => gap.toList ++ ((hexWord n).toList ++ tail gaps ns ending)
  | _, _, ending => ending.toList

end LineForm

def summaryForm : LineForm := ⟨"", [" @ ", " = "], ""⟩

def defineForm : LineForm := ⟨"#define ", ["_VALUE ", "U  /* @ "], " */"⟩

def referenceForm : LineForm := ⟨"// ", [" = "], ""⟩

/-- The register, the address and the word of a line `NAME @ 0xADDRESS = 0xWORD`. -/
def readSummaryLine? (line : String) : Option (String × Nat × Nat) :=
  match summaryForm.read? line with
  | some (name, [address, word]) => some (name, address, word)
  | _ => none

/-- The register, the address and the word of a line
`#define NAME_VALUE 0xWORDU  /* @ 0xADDRESS */`. -/
def readDefineLine? (line : String) : Option (String × Nat × Nat) :=
  match defineForm.read? line with
  | some (name, [word, address]) => some (name, address, word)
  | _ => none

/-- The register and the word of a line `// NAME = 0xWORD`. -/
def readReferenceLine? (line : String) : Option (String × Nat) :=
  match referenceForm.read? line with
  | some (name, [word]) => some (name, word)
  | _ => none

def summaryWords (text : String) : List (String × Nat × Nat) :=
  (linesOf text).filterMap readSummaryLine?

def headerWords (text : String) : List (String × Nat × Nat) :=
  (linesOf text).filterMap readDefineLine?

/-- The words for reference stand in the last paragraph. -/
def referenceWords (text : String) : List (String × Nat) :=
  ((paragraphsOf text).getLastD []).filterMap readReferenceLine?

theorem dropPrefix?_append (head rest : List Char) : (head ++ rest).dropPrefix? head = some rest :=
  List.dropPrefix?_eq_some_iff.2 ⟨_, rfl, BEq.rfl⟩

theorem takeWord?_hexWord {n : Nat} (small : n < Word.span Word.bits) (rest : List Char) :
    takeWord? ((hexWord n).toList ++ rest) = some (n, rest) := by
  have length := hexFixed_length 8 n
  have capital : ∀ m < 16, isCapitalHex (capitalDigit m) = true := by decide
  have digits : (hexFixed 8 n).all isCapitalHex = true := by
    apply List.all_eq_true.2
    intro c member
    obtain ⟨m, bound, rfl⟩ := exists_of_mem_hexFixed member
    exact capital m bound
  have value : ofHex (hexFixed 8 n) = n := by
    rw [ofHex_hexFixed]
    exact Nat.mod_eq_of_lt small
  rw [hexWord, String.toList_ofList, List.cons_append, List.cons_append, takeWord?]
  simp only [List.take_left' length, List.drop_left' length, length, digits, value, and_self,
    if_true]

namespace LineForm

theorem takeWords?_tail {gaps : List String} {ns : List Nat} (ending : String)
    (count : ns.length = gaps.length) (small : ∀ n ∈ ns, n < Word.span Word.bits) :
    takeWords? gaps (tail gaps ns ending) = some (ns, ending.toList) := by
  induction gaps generalizing ns with
  | nil =>
    cases List.eq_nil_of_length_eq_zero count
    rfl
  | cons gap gaps ih =>
    cases ns with
    | nil => cases count
    | cons n ns =>
      obtain ⟨first, later⟩ := List.forall_mem_cons.1 small
      have rest := ih (Nat.succ.inj count) later
      simp only [takeWords?, tail, dropPrefix?_append, Option.bind_eq_bind, Option.bind_some,
        takeWord?_hexWord first, rest]
      rfl

theorem length_tail {gaps : List String} {ns : List Nat} (ending : String)
    (count : ns.length = gaps.length) :
    (tail gaps ns ending).length = (gaps.map fun gap => gap.length + 10).sum + ending.length := by
  induction gaps generalizing ns with
  | nil =>
    cases List.eq_nil_of_length_eq_zero count
    exact ending.length_toList.trans (Nat.zero_add _).symm
  | cons gap gaps ih =>
    cases ns with
    | nil => cases count
    | cons n ns =>
      have rest := ih (Nat.succ.inj count)
      simp only [tail, List.length_append, rest, hexWord, String.toList_ofList, List.length_cons,
        hexFixed_length, String.length_toList, List.map_cons, List.sum_cons]
      omega

theorem read?_eq {form : LineForm} {line name : String} {ns : List Nat}
    (shape : line.toList =
      form.head.toList ++ (name.toList ++ tail form.gaps ns form.ending))
    (count : ns.length = form.gaps.length) (small : ∀ n ∈ ns, n < Word.span Word.bits) :
    form.read? line = some (name, ns) := by
  have size : (name.toList ++ tail form.gaps ns form.ending).length - form.tailLength =
      name.toList.length := by
    rw [List.length_append, length_tail form.ending count, tailLength, Nat.add_sub_cancel]
  simp only [read?, shape, dropPrefix?_append, Option.bind_eq_bind, Option.bind_some, size,
    List.drop_left, List.take_left, takeWords?_tail form.ending count small, if_true,
    String.ofList_toList]

end LineForm

/-- A register's line is one line where its name is, and it is read to all that it shows. -/
structure ReadBack (line : Scalar → Int → Int → String)
    (read : String → Option (String × Nat × Nat)) : Prop where
  oneLine : ∀ name address word, OneLine name → OneLine (line (.text name) address word)
  read : ∀ name address word,
    read (line (.text name) address word) = some (name, Word.cut address, Word.cut word)

theorem readBack_summaryLine : ReadBack summaryLine readSummaryLine? where
  oneLine name address word whole := by
    have fixed : OneLine " @ " := by decide
    apply oneLine_equation _ (oneLine_hex word)
    simp only [oneLine_append, Scalar.plain, whole, fixed, oneLine_hex, and_self]
  read name address word := by
    have shape : (summaryLine (.text name) address word).toList = summaryForm.head.toList ++
        (name.toList ++ LineForm.tail summaryForm.gaps [Word.cut address, Word.cut word]
          summaryForm.ending) := by
      simp [summaryLine, summaryForm, LineForm.tail, Scalar.plain, Word.hex]
    rw [readSummaryLine?, LineForm.read?_eq shape rfl (by simp [Word.cut_lt])]

theorem readBack_defineLine : ReadBack defineLine readDefineLine? where
  oneLine name address word whole := by
    have fixed : OneLine "#define " ∧ OneLine "_VALUE " ∧ OneLine "U  /* @ " ∧ OneLine " */" := by
      decide
    simp only [defineLine, oneLine_append, Scalar.plain, whole, fixed, oneLine_hex, and_self]
  read name address word := by
    have shape : (defineLine (.text name) address word).toList = defineForm.head.toList ++
        (name.toList ++ LineForm.tail defineForm.gaps [Word.cut word, Word.cut address]
          defineForm.ending) := by
      simp [defineLine, defineForm, LineForm.tail, Scalar.plain, Word.hex]
    rw [readDefineLine?, LineForm.read?_eq shape rfl (by simp [Word.cut_lt])]

theorem readReferenceLine?_referenceLine (name : String) (word : Int) :
    readReferenceLine? (referenceLine (.text name) word) = some (name, Word.cut word) := by
  have shape : (referenceLine (.text name) word).toList = referenceForm.head.toList ++
      (name.toList ++ LineForm.tail referenceForm.gaps [Word.cut word] referenceForm.ending) := by
    simp [referenceLine, referenceForm, LineForm.tail, Scalar.plain, Word.hex]
  rw [readReferenceLine?, LineForm.read?_eq shape rfl (by simp [Word.cut_lt])]

theorem filterMap_linesOf_joinLines {α : Type} {read : String → Option α} (gap : read "" = none)
    {lines : List String} (each : ∀ line ∈ lines, OneLine line) :
    (linesOf (joinLines lines)).filterMap read = lines.filterMap read := by
  cases lines with
  | nil =>
    have empty : linesOf (joinLines []) = ["", ""] := by decide
    rw [empty, List.filterMap_cons_none gap, List.filterMap_cons_none gap]
  | cons line rest =>
    rw [linesOf_joinLines (List.cons_ne_nil line rest) each, List.filterMap_append,
      List.filterMap_cons_none gap, List.filterMap_nil, List.append_nil]

def wordRows (image : Image) (registers : Registers) : List (String × Nat × Nat) :=
  registers.entries.map fun e =>
    (e.1.plain, Word.cut e.2.address, Word.cut ((image.words.get? e.1).getD 0))

theorem ifLegible_of_texts {names : List Scalar}
    (texts : ∀ name ∈ names, ∃ text, name = .text text) (text : String) :
    ifLegible names text = .ok text := by
  have written : names.all Scalar.writable = true := by
    apply List.all_eq_true.2
    intro name member
    obtain ⟨_, rfl⟩ := texts name member
    rfl
  exact if_pos written

section Rows

variable {image : Image} {registers : Registers}

theorem entries_of_keys (keys : image.words.keys = registers.keys) :
    image.words.entries =
      registers.entries.map fun e => (e.1, (image.words.get? e.1).getD 0) := by
  have own : image.words.entries =
      image.words.keys.map fun name => (name, (image.words.get? name).getD 0) := by
    rw [OrderedMap.keys, List.map_map]
    apply (List.map_id _).symm.trans
    apply List.map_congr_left
    intro e member
    simp [OrderedMap.get?_of_mem member]
  rw [own, keys, OrderedMap.keys, List.map_map]
  rfl

theorem covers_of_keys (keys : image.words.keys = registers.keys) :
    ∀ name ∈ registers.keys, image.words.contains name = true := fun _ member =>
  OrderedMap.contains_of_mem_keys (keys ▸ member)

variable (keys : image.words.keys = registers.keys)
  (names : ∀ name ∈ registers.keys, ∃ text, name = .text text ∧ OneLine text)

include names

theorem text_of_mem {e : Scalar × Register} (member : e ∈ registers.entries) :
    ∃ text, e.1 = .text text ∧ OneLine text :=
  names e.1 (List.mem_map_of_mem member)

theorem texts_of_names : ∀ name ∈ registers.keys, ∃ text, name = .text text := fun name member =>
  (names name member).imp fun _ => And.left

theorem map_addresses_wordRows :
    (wordRows image registers).map (fun row => (Scalar.text row.1, (row.2.1 : Int))) =
      registers.entries.map fun e => (e.1, e.2.address % 0x100000000) := by
  rw [wordRows, List.map_map]
  apply List.map_congr_left
  intro e member
  obtain ⟨text, name, _⟩ := text_of_mem names member
  have address : (Word.cut e.2.address : Int) = e.2.address % 0x100000000 := by
    rw [Word.cut, Word.span_bits]
    omega
  rw [Function.comp_apply, address, name, Scalar.plain]

section Lines

variable {line : Scalar → Int → Int → String} {read : String → Option (String × Nat × Nat)}
  (back : ReadBack line read)

include back

theorem oneLine_of_mem_lines (word : Scalar → Int) :
    ∀ shown ∈ registers.entries.map fun e => line e.1 e.2.address (word e.1), OneLine shown := by
  intro shown member
  obtain ⟨e, present, rfl⟩ := List.mem_map.1 member
  obtain ⟨text, name, whole⟩ := text_of_mem names present
  rw [name]
  exact back.oneLine text _ _ whole

theorem filterMap_lines (image : Image) :
    (registers.entries.map fun e =>
      line e.1 e.2.address ((image.words.get? e.1).getD 0)).filterMap read =
      wordRows image registers := by
  rw [List.filterMap_map, wordRows, ← List.filterMap_eq_map]
  apply List.filterMap_congr
  intro e member
  obtain ⟨text, name, _⟩ := text_of_mem names member
  rw [Function.comp_apply, Function.comp_apply, name, back.read, Scalar.plain]

end Lines

include keys

theorem map_words_wordRows
    (range : ∀ e ∈ image.words.entries, 0 ≤ e.2 ∧ e.2 < 0x100000000) :
    (wordRows image registers).map (fun row => (Scalar.text row.1, (row.2.2 : Int))) =
      image.words.entries := by
  have entries := entries_of_keys keys
  rw [entries] at range ⊢
  rw [wordRows, List.map_map]
  apply List.map_congr_left
  intro e member
  obtain ⟨text, name, _⟩ := text_of_mem names member
  obtain ⟨least, most⟩ := range _ (List.mem_map_of_mem member)
  have word : (Word.cut ((image.words.get? e.1).getD 0) : Int) =
      (image.words.get? e.1).getD 0 := by
    rw [Word.cut, Word.span_bits]
    omega
  rw [Function.comp_apply, word, name, Scalar.plain]

theorem exists_summaryWords :
    ∃ text, writtenSummary image registers = .ok text ∧
      summaryWords text = wordRows image registers := by
  have whole := oneLine_of_mem_lines names readBack_summaryLine
    fun name => (image.words.get? name).getD 0
  refine ⟨_, (writtenSummary_eq (covers_of_keys keys)).trans
    (ifLegible_of_texts (texts_of_names names) _), ?_⟩
  rw [summaryWords, filterMap_linesOf_joinLines (by decide) whole,
    filterMap_lines names readBack_summaryLine]

theorem exists_headerWords :
    ∃ text, writtenHeader image registers = .ok text ∧
      headerWords text = wordRows image registers := by
  have whole := oneLine_of_mem_lines names readBack_defineLine
    fun name => (image.words.get? name).getD 0
  have fixed : (∀ line ∈ headerOpening, OneLine line) ∧ ∀ line ∈ headerClosing, OneLine line := by
    decide
  -- The lines around the definitions are no definitions of a word.
  have opening : headerOpening.filterMap readDefineLine? = [] := by decide
  have closing : headerClosing.filterMap readDefineLine? = [] := by decide
  refine ⟨_, (writtenHeader_eq (covers_of_keys keys)).trans
    (ifLegible_of_texts (texts_of_names names) _), ?_⟩
  rw [headerWords, filterMap_linesOf_joinLines (by decide), List.filterMap_append,
    List.filterMap_append, opening, closing, List.nil_append, List.append_nil,
    filterMap_lines names readBack_defineLine]
  intro line member
  rcases List.mem_append.1 member with before | last
  · rcases List.mem_append.1 before with first | own
    · exact fixed.1 line first
    · exact whole line own
  · exact fixed.2 line last

theorem exists_referenceWords {layout : Layout} (sound : layout.Sound) (lined : Lined layout)
    (s : Snapshot) {device : String} (whole : OneLine device) :
    ∃ text, writtenPragmas s image layout (.text device) = .ok text ∧
      referenceWords text = (wordRows image registers).map fun row => (row.1, row.2.2) := by
  have own : ∀ name ∈ image.words.keys, ∃ text, name = .text text ∧ OneLine text := keys ▸ names
  refine ⟨pragmas s image layout (.text device), ?_, ?_⟩
  · rw [writtenPragmas_eq, ifLegible_of_texts]
    intro name member
    rcases List.mem_cons.1 member with rfl | present
    · exact ⟨device, rfl⟩
    · exact texts_of_names names name (keys ▸ present)
  · have heading : readReferenceLine? "// Register values (for reference):" = none := by decide
    have last : (parts s image layout device).getLastD [] = closing (referenceLines image) := by
      rw [parts, ← List.cons_append, List.getLastD_concat]
    rw [referenceWords, paragraphsOf_pragmas own sound lined whole, last, closing,
      List.filterMap_cons_none heading, referenceLines, entries_of_keys keys, List.map_map,
      List.filterMap_map, wordRows, List.map_map, ← List.filterMap_eq_map]
    apply List.filterMap_congr
    intro e member
    obtain ⟨text, name, _⟩ := text_of_mem names member
    simp only [Function.comp_apply, name, readReferenceLine?_referenceLine, Scalar.plain]

end Rows

/-- Read back, the summary, the header and the words for reference name the same registers with the
same words: those of the image, in the order of the registers. The addresses are the declared ones,
cut to 32 bits. -/
theorem words_of_texts {tree : Tree} {d : Description} (read : Description.ofTree tree = .ok d)
    (names : ∀ name ∈ d.registers.keys, ∃ text, name = .text text ∧ OneLine text)
    (lined : Lined d.layout) (s : Snapshot) {device : String} (whole : OneLine device) :
    ∃ result summary header pragmas rows,
      (Device.compilerOf d).compile s = .ok result ∧
      writtenSummary result.image d.registers = .ok summary ∧
      writtenHeader result.image d.registers = .ok header ∧
      writtenPragmas s result.image d.layout (.text device) = .ok pragmas ∧
      summaryWords summary = rows ∧ headerWords header = rows ∧
      referenceWords pragmas = rows.map (fun row => (row.1, row.2.2)) ∧
      rows.map (fun row => (Scalar.text row.1, (row.2.2 : Int))) = result.image.words.entries ∧
      rows.map (fun row => (Scalar.text row.1, (row.2.1 : Int))) =
        d.registers.entries.map fun e => (e.1, e.2.address % 0x100000000) := by
  obtain ⟨together, pins⟩ := Description.ofTree_eq_ok read
  have declared : (Device.compilerOf d).Declared :=
    (Description.sound_of_matched together pins).declared
  obtain ⟨result, compiled⟩ := Compiler.exists_compile declared s
  have keys : result.image.words.keys = d.registers.keys :=
    Compiler.keys_of_compile declared compiled
  have range := Compiler.range_compile declared compiled
  obtain ⟨summary, first, summarized⟩ := exists_summaryWords keys names
  obtain ⟨header, second, defined⟩ := exists_headerWords keys names
  obtain ⟨pragmas, third, listed⟩ :=
    exists_referenceWords keys names together.reachable.sound lined s whole
  exact ⟨result, summary, header, pragmas, wordRows result.image d.registers, compiled, first,
    second, third, summarized, defined, listed, map_words_wordRows keys names range,
    map_addresses_wordRows names⟩

theorem words_of_texts_clock :
    ∃ d result summary header pragmas, Description.ofTree Description.clockTree = .ok d ∧
      (Device.compilerOf d).compile (multiplierChoice "PLL Multiply by 2") = .ok result ∧
      writtenSummary result.image d.registers = .ok summary ∧
      writtenHeader result.image d.registers = .ok header ∧
      writtenPragmas (multiplierChoice "PLL Multiply by 2") result.image d.layout (.text "PART64") =
        .ok pragmas ∧
      summaryWords summary = [("CFG", 0x1FC0FFC8, 0xFFFFFFDF)] ∧
      headerWords header = [("CFG", 0x1FC0FFC8, 0xFFFFFFDF)] ∧
      referenceWords pragmas = [("CFG", 0xFFFFFFDF)] := by
  obtain ⟨d, result, read, keys, lined, compiled, words, addresses⟩ : ∃ d result,
      Description.ofTree Description.clockTree = .ok d ∧ d.registers.keys = [.text "CFG"] ∧
      Lined d.layout ∧
      (Device.compilerOf d).compile (multiplierChoice "PLL Multiply by 2") = .ok result ∧
      result.image.words.entries = [(.text "CFG", 0xFFFFFFDF)] ∧
      d.registers.entries.map (fun e => (e.1, e.2.address % 0x100000000)) =
        [(.text "CFG", 0x1FC0FFC8)] :=
    ⟨_, _, rfl, rfl, by decide, rfl, rfl, rfl⟩
  have names : ∀ name ∈ d.registers.keys, ∃ text, name = .text text ∧ OneLine text := by
    intro name member
    rw [keys] at member
    exact ⟨"CFG", List.mem_singleton.1 member, by decide⟩
  obtain ⟨_, summary, header, pragmas, rows, again, first, second, third, summarized, defined,
    listed, own, declared⟩ := words_of_texts read names lined
      (multiplierChoice "PLL Multiply by 2") (by decide : OneLine "PART64")
  cases Except.ok.inj (again.symm.trans compiled)
  rw [words] at own
  rw [addresses] at declared
  obtain ⟨row, rfl, word⟩ := List.map_eq_singleton_iff.1 own
  obtain ⟨name, address, value⟩ := row
  have row : (name, address, value) = ("CFG", 0x1FC0FFC8, 0xFFFFFFDF) := by
    cases word
    cases declared
    rfl
  rw [row] at summarized defined listed
  exact ⟨d, result, summary, header, pragmas, read, compiled, first, second, third, summarized,
    defined, listed⟩

end ConfigWords.Render
