import ConfigWords.Proofs.Description.Lookups
import ConfigWords.Proofs.Render.PragmaBlocks
import ConfigWords.Proofs.Text.Reading

/-! Where the pragma lines stand.
A text of pragma lines is read by its paragraphs. Between the opening and the words for reference
stands one paragraph for each register that has lines, and a line stands under the register of its
own field. -/
namespace ConfigWords.Render

open Text

def Quotes (e : Scalar × Int) (line : String) : Prop :=
  ∃ name digits, e.1 = .text name ∧ digits.length = 8 ∧
    (∀ c ∈ digits, isHexDigit c = true ∧ c.isLower = false) ∧
    (ofHex digits : Int) = e.2 % 0x100000000 ∧
    line = "// " ++ name ++ " = 0x" ++ String.ofList digits

def isPragma (line : String) : Bool := "#pragma config".toList.isPrefixOf line.toList

def opening (device : String) : List String :=
  "// PIC32MZ Configuration Bit Settings" ::
    if device = "" then [] else ["// Device: " ++ device]

def closing (references : List String) : List String :=
  "// Register values (for reference):" :: references

/-- How a text is made up of its blocks and of the lines for reference. -/
structure LaidOut (s : Snapshot) (image : Image) (layout : Layout) (device text : String)
    (blocks : List Block) (references : List String) : Prop where
  paragraphs : paragraphsOf text =
    opening device :: (blocks.map Block.paragraph ++ [closing references])
  pragmas : (linesOf text).filter isPragma = blocks.flatMap Block.texts
  each : ∀ index line,
    (∃ b ∈ blocks, (index, line) ∈ b.lines) ↔ Shows s layout index line
  once : (blocks.flatMap Block.indices).Nodup
  home : ∀ b ∈ blocks, ∀ index ∈ b.indices,
    ∃ f, layout.get? index = some f ∧ f.register = .text b.register
  image_order : (blocks.map fun b => Scalar.text b.register).Sublist image.words.keys
  field_order : ∀ b ∈ blocks, b.indices.Sublist layout.fields.keys
  headed : ∀ register, (∃ b ∈ blocks, b.register = register) ↔
    ∃ index f line, layout.get? index = some f ∧ f.register = .text register ∧
      Shows s layout index line
  references : List.Forall₂ Quotes image.words.entries references

/-! Every line is one line, and a pragma or a comment. -/

/-- One line that begins with the head. -/
def Begins (head line : String) : Prop := ∃ rest, OneLine rest ∧ line = head ++ rest

theorem Begins.oneLine {head line : String} (begins : Begins head line) (whole : OneLine head) :
    OneLine line := by
  obtain ⟨rest, other, rfl⟩ := begins
  exact oneLine_append.2 ⟨whole, other⟩

theorem Begins.ne_empty {head line : String} (begins : Begins head line) (filled : head ≠ "") :
    line ≠ "" := by
  obtain ⟨rest, _, rfl⟩ := begins
  exact fun empty => filled (String.append_eq_empty_iff.1 empty).1

def Comment (line : String) : Prop := Begins "// " line

def Pragma (line : String) : Prop := Begins pragmaHead line

theorem Comment.isPragma {line : String} (comment : Comment line) : isPragma line = false := by
  obtain ⟨rest, _, rfl⟩ := comment
  rw [Render.isPragma, String.toList_append]
  rfl

theorem Pragma.isPragma {line : String} (pragma : Pragma line) : isPragma line = true := by
  obtain ⟨rest, _, rfl⟩ := pragma
  rw [Render.isPragma, String.toList_append]
  rfl

/-- The names and the pragma texts of a layout do not end their lines. -/
def Lined (layout : Layout) : Prop :=
  ∀ f ∈ layout.toList, OneLine f.name ∧ ∀ e ∈ f.pragmas.entries, OneLine e.2

instance (layout : Layout) : Decidable (Lined layout) :=
  inferInstanceAs (Decidable (∀ f ∈ layout.toList, OneLine f.name ∧
    ∀ e ∈ f.pragmas.entries, OneLine e.2))

theorem oneLine_digits {digits : List Char} (decimal : ∀ c ∈ digits, isDigit c = true) :
    OneLine (String.ofList digits) := by
  rw [OneLine, String.toList_ofList]
  exact fun member => absurd (decimal _ member) (by decide)

theorem oneLine_hex (word : Int) : OneLine (Word.hex word) := by
  have other : ∀ n < 16, capitalDigit n ≠ '\n' := by decide
  rw [OneLine, Word.hex, hexWord, String.toList_ofList]
  intro member
  simp only [List.mem_cons, Char.reduceEq, false_or] at member
  obtain ⟨n, small, same⟩ := exists_of_mem_hexFixed member
  exact other n small same.symm

theorem pragma_of_pragmaLine? {s : Snapshot} {f : Field} {line : String} (name : OneLine f.name)
    (listed : ∀ e ∈ f.pragmas.entries, OneLine e.2) (shown : pragmaLine? s f = some line) :
    Pragma line := by
  obtain ⟨label, value, _, text, rfl⟩ := pragmaLine?_eq_some_iff.1 shown
  have whole : OneLine value := by
    cases pragmaValue?_eq_some_iff.1 text with
    | listed _ known => exact listed _ (OrderedMap.get?_eq_some_iff.1 known)
    | spelled digits _ _ _ decimal _ =>
      exact oneLine_append.2 ⟨by decide, oneLine_digits decimal⟩
  refine ⟨f.name ++ " = " ++ value, oneLine_equation name whole, ?_⟩
  simp only [String.append_assoc]

theorem comment_opening {device : String} (whole : OneLine device) :
    ∀ line ∈ opening device, Comment line := by
  intro line member
  rcases List.mem_cons.1 member with rfl | named
  · exact ⟨"PIC32MZ Configuration Bit Settings", by decide, rfl⟩
  · split at named
    · cases named
    · rw [List.mem_singleton.1 named]
      refine ⟨"Device: " ++ device, oneLine_append.2 ⟨by decide, whole⟩, ?_⟩
      rw [← String.append_assoc]
      rfl

theorem quotes_referenceLine (name : String) (word : Int) :
    Quotes (.text name, word) (referenceLine (.text name) word) := by
  refine ⟨name, hexFixed 8 (Word.cut word), rfl, hexFixed_length _ _, ?_, ?_, ?_⟩
  · have capital : ∀ n < 16, (capitalDigit n).isLower = false := by decide
    intro c member
    obtain ⟨n, small, rfl⟩ := exists_of_mem_hexFixed member
    exact ⟨isHexDigit_capitalDigit small, capital n small⟩
  · have bound : Word.cut word < Nat.pow 16 8 := Word.cut_lt word
    rw [ofHex_hexFixed, Nat.mod_eq_of_lt bound, Word.cut, Word.span_bits]
    omega
  · rw [← String.toList_inj]
    simp [referenceLine, Scalar.plain, Word.hex, hexWord]

def referenceLines (image : Image) : List String :=
  image.words.entries.map fun e => referenceLine e.1 e.2

def parts (s : Snapshot) (image : Image) (layout : Layout) (device : String) : List (List String) :=
  opening device ::
    ((blocksOf s layout image).map Block.paragraph ++ [closing (referenceLines image)])

theorem mem_parts_iff {s : Snapshot} {image : Image} {layout : Layout} {device : String}
    {part : List String} :
    part ∈ parts s image layout device ↔ part = opening device ∨
      (∃ b ∈ blocksOf s layout image, part = b.paragraph) ∨
      part = closing (referenceLines image) := by
  simp [parts, eq_comm]

theorem pragmaLines_eq (s : Snapshot) (image : Image) (layout : Layout) (device : String) :
    pragmaLines s image layout (.text device) ++ [""] =
      (parts s image layout device).flatMap fun part => part ++ [""] := by
  have named : (if (Scalar.text device).truth then ["// Device: " ++ (Scalar.text device).plain]
      else []) = if device = "" then [] else ["// Device: " ++ device] := by
    by_cases empty : device = "" <;> simp [Scalar.truth, Scalar.plain, empty]
  rw [pragmaLines, named, flatMap_pragmaBlock]
  simp [parts, opening, closing, blocksOf, referenceLines, List.flatMap_map]

section Lined

variable {s : Snapshot} {layout : Layout} {image : Image} {device : String}
  (names : ∀ name ∈ image.words.keys, ∃ text, name = .text text ∧ OneLine text)
  (sound : layout.Sound) (lined : Lined layout) (whole : OneLine device)

include names

theorem named_of_names : ∀ name ∈ image.words.keys, ∃ text, name = .text text := fun name member =>
  (names name member).imp fun _ named => named.1

theorem forall₂_referenceLines : List.Forall₂ Quotes image.words.entries (referenceLines image) := by
  rw [referenceLines, List.forall₂_map_right_iff, List.forall₂_same]
  rintro ⟨name, word⟩ member
  obtain ⟨text, rfl, _⟩ := names name (List.mem_map_of_mem member)
  exact quotes_referenceLine text word

theorem comment_closing : ∀ line ∈ closing (referenceLines image), Comment line := by
  intro line member
  rcases List.mem_cons.1 member with rfl | reference
  · exact ⟨"Register values (for reference):", by decide, rfl⟩
  · obtain ⟨e, present, rfl⟩ := List.mem_map.1 reference
    obtain ⟨text, name, whole⟩ := names e.1 (List.mem_map_of_mem present)
    refine ⟨text ++ " = " ++ Word.hex e.2, oneLine_equation whole (oneLine_hex _), ?_⟩
    rw [name, referenceLine, String.append_assoc, String.append_assoc, String.append_assoc]
    rfl

theorem comment_heading {b : Block} (member : b ∈ blocksOf s layout image) :
    Comment ("// " ++ b.register) := by
  obtain ⟨register, _, _⟩ := (mem_blocksOf_iff (named_of_names names)).1 member
  obtain ⟨_, same, whole⟩ := names _ register
  cases same
  exact ⟨b.register, whole, rfl⟩

include sound lined

theorem pragma_of_mem_texts {b : Block} (member : b ∈ blocksOf s layout image) {line : String}
    (own : line ∈ b.texts) : Pragma line := by
  obtain ⟨e, present, rfl⟩ := List.mem_map.1 own
  obtain ⟨f, mapped, _, shown⟩ :=
    field_of_mem_lines (named_of_names names) sound member present
  obtain ⟨name, listed⟩ := lined f (Layout.mem_of_get? mapped)
  exact pragma_of_pragmaLine? name listed shown

include whole

theorem comment_or_pragma {part : List String} (member : part ∈ parts s image layout device) :
    ∀ line ∈ part, Comment line ∨ Pragma line := by
  intro line own
  rcases mem_parts_iff.1 member with rfl | ⟨b, present, rfl⟩ | rfl
  · exact .inl (comment_opening whole line own)
  · rcases List.mem_cons.1 own with rfl | text
    · exact .inl (comment_heading names present)
    · exact .inr (pragma_of_mem_texts names sound lined present text)
  · exact .inl (comment_closing names line own)

theorem linesOf_pragmas :
    linesOf (pragmas s image layout (.text device)) =
      (parts s image layout device).flatMap fun part => part ++ [""] := by
  rw [pragmas, ← pragmaLines_eq]
  apply linesOf_joinLines
  · simp [pragmaLines]
  · intro line member
    have present : line ∈ (parts s image layout device).flatMap fun part => part ++ [""] := by
      rw [← pragmaLines_eq]
      exact List.mem_append_left _ member
    obtain ⟨part, inside, own⟩ := List.mem_flatMap.1 present
    rcases List.mem_append.1 own with text | gap
    · rcases comment_or_pragma names sound lined whole inside line text with comment | pragma
      · exact comment.oneLine (by decide)
      · exact pragma.oneLine (by decide)
    · rw [List.mem_singleton.1 gap]
      decide

theorem paragraphsOf_pragmas :
    paragraphsOf (pragmas s image layout (.text device)) = parts s image layout device := by
  apply paragraphsOf_eq (linesOf_pragmas names sound lined whole)
  intro part member
  constructor
  · rcases mem_parts_iff.1 member with rfl | ⟨b, _, rfl⟩ | rfl <;> exact List.cons_ne_nil _ _
  · intro gap
    rcases comment_or_pragma names sound lined whole member "" gap with comment | pragma
    · exact comment.ne_empty (by decide) rfl
    · exact pragma.ne_empty (by decide) rfl

theorem filter_linesOf_pragmas :
    (linesOf (pragmas s image layout (.text device))).filter isPragma =
      (blocksOf s layout image).flatMap Block.texts := by
  have comments {part : List String} (each : ∀ line ∈ part, Comment line) :
      (part ++ [""]).filter isPragma = [] := by
    apply List.filter_eq_nil_iff.2
    intro line member
    rcases List.mem_append.1 member with text | gap
    · simp [(each line text).isPragma]
    · rw [List.mem_singleton.1 gap]
      decide
  have block : ∀ b ∈ blocksOf s layout image, (b.paragraph ++ [""]).filter isPragma = b.texts := by
    intro b member
    have pragmas : b.texts.filter isPragma = b.texts := List.filter_eq_self.2 fun line own =>
      (pragma_of_mem_texts names sound lined member own).isPragma
    have heading : ¬ isPragma ("// " ++ b.register) = true :=
      ne_true_of_eq_false (comment_heading names member).isPragma
    have gap : [""].filter isPragma = [] := by decide
    rw [Block.paragraph, List.cons_append, List.filter_cons_of_neg heading, List.filter_append,
      pragmas, gap, List.append_nil]
  -- Of the paragraphs only the blocks are left, and of a block only its own lines.
  rw [linesOf_pragmas names sound lined whole, List.filter_flatMap, parts, List.flatMap_cons,
    comments (comment_opening whole), List.nil_append, List.flatMap_append, List.flatMap_map,
    List.flatMap_singleton, comments (comment_closing names), List.append_nil]
  exact List.flatMap_congr block

theorem laidOut_pragmas (declared : ∀ f ∈ layout.toList, f.register ∈ image.words.keys) :
    LaidOut s image layout device (pragmas s image layout (.text device)) (blocksOf s layout image)
      (referenceLines image) := by
  have named := named_of_names names
  exact {
    paragraphs := paragraphsOf_pragmas names sound lined whole
    pragmas := filter_linesOf_pragmas names sound lined whole
    each := fun _ _ => exists_mem_lines_iff named sound declared
    once := nodup_indices named sound
    home := fun _ member _ => field_of_mem_indices named sound member
    image_order := registers_sublist named
    field_order := fun _ => indices_sublist_of_mem named sound
    headed := fun _ => exists_register_iff named sound declared
    references := forall₂_referenceLines names }

end Lined

/-- The text over the declared registers is laid out, whatever the snapshot and the words. -/
theorem laidOut_writtenPragmas {tree : Tree} {d : Description}
    (read : Description.ofTree tree = .ok d)
    (registers : ∀ name ∈ d.registers.keys, ∃ text, name = .text text ∧ OneLine text)
    (lined : Lined d.layout) (s : Snapshot) {image : Image}
    (covers : ∀ name, name ∈ image.words.keys ↔ name ∈ d.registers.keys) {device : String}
    (whole : OneLine device) :
    ∃ text blocks references, writtenPragmas s image d.layout (.text device) = .ok text ∧
      LaidOut s image d.layout device text blocks references := by
  obtain ⟨together, _⟩ := Description.ofTree_eq_ok read
  have names : ∀ name ∈ image.words.keys, ∃ text, name = .text text ∧ OneLine text :=
    fun name member => registers name ((covers name).1 member)
  have declared : ∀ f ∈ d.layout.toList, f.register ∈ image.words.keys := by
    -- A declared name of another kind may count as the field's register; a text is the same text.
    intro f member
    obtain ⟨e, present, same⟩ := List.any_eq_true.1 (together.declared f member)
    have key : e.1 ∈ d.registers.keys := List.mem_map_of_mem present
    obtain ⟨text, name, _⟩ := registers e.1 key
    rw [name] at same key
    exact Scalar.beq_text_iff.1 (BEq.symm same) ▸ (covers _).2 key
  have written : (Scalar.text device :: image.words.keys).all Scalar.writable = true := by
    apply List.all_eq_true.2
    intro name member
    rcases List.mem_cons.1 member with rfl | present
    · rfl
    · obtain ⟨text, rfl, _⟩ := names name present
      rfl
  refine ⟨_, _, _, ?_, laidOut_pragmas names together.reachable.sound lined whole declared⟩
  rw [writtenPragmas_eq, ifLegible, if_pos written]

def clockImage : Image := ⟨OrderedMap.ofList [(.text "CFG", 0xFFFFFFDF)]⟩

theorem laidOut_writtenPragmas_clock :
    ∃ d text blocks references, Description.ofTree Description.clockTree = .ok d ∧
      writtenPragmas (multiplierChoice "PLL Multiply by 2") clockImage d.layout (.text "PART64") =
        .ok text ∧
      LaidOut (multiplierChoice "PLL Multiply by 2") clockImage d.layout "PART64" text blocks
        references ∧
      ∃ b ∈ blocks, (9, "#pragma config FPLLMULT = MUL_2") ∈ b.lines := by
  have decimal : ∀ c ∈ ['2'], isDigit c = true := List.forall_mem_singleton.2 (by decide)
  obtain ⟨d, read, keys, lined, shows⟩ : ∃ d,
      Description.ofTree Description.clockTree = .ok d ∧ d.registers.keys = [.text "CFG"] ∧
      Lined d.layout ∧ Shows (multiplierChoice "PLL Multiply by 2") d.layout 9
        "#pragma config FPLLMULT = MUL_2" :=
    ⟨_, rfl, rfl, by decide, _, _, _, rfl, rfl,
      .spelled ['2'] rfl rfl (by decide) decimal rfl, rfl⟩
  have registers : ∀ name ∈ d.registers.keys, ∃ text, name = .text text ∧ OneLine text := by
    intro name member
    rw [keys] at member
    exact ⟨"CFG", List.mem_singleton.1 member, by decide⟩
  have covers : ∀ name, name ∈ clockImage.words.keys ↔ name ∈ d.registers.keys := by
    intro name
    rw [keys]
    exact Iff.rfl
  obtain ⟨text, blocks, references, written, laid⟩ := laidOut_writtenPragmas read registers lined
    (multiplierChoice "PLL Multiply by 2") covers (by decide : OneLine "PART64")
  exact ⟨d, text, blocks, references, read, written, laid, (laid.each _ _).2 shows⟩

end ConfigWords.Render
