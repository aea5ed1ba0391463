import ConfigWords.OrderedMap
import ConfigWords.Scalar
import ConfigWords.Word

/-! Fields: where one setting stands inside a word, and which labels have which values.
A `Field` has been checked: it lies inside the word, its values fit, and pragma texts are given
for its own labels only. `Field.write` and `Field.extract` speak about unbounded words, so no
bit outside the field is ever lost. -/
namespace ConfigWords

structure Field where
  index : Int
  register : Scalar
  name : String
  start : Nat
  width : Nat
  values : OrderedMap String Nat
  pragmas : OrderedMap String String
  width_pos : 0 < width
  start_add_width_le : start + width ≤ Word.bits
  value_lt : ∀ e ∈ values.entries, e.2 < Word.span width
  pragma_known : ∀ e ∈ pragmas.entries, values.contains e.1 = true

inductive FieldFault
  | startOutside (field : String) (start : Int)
  | widthOutside (field : String) (width : Int)
  | pastTop (field : String)
  | valueTooWide (field : String) (value : Int) (label : String) (width : Int)
  | unknownPragmas (field : String) (labels : List String)
deriving DecidableEq

def FieldFault.message : FieldFault → String
  | .startOutside field start => s!"{field}: bit_start {start} outside 0..31"
  | .widthOutside field width => s!"{field}: bit_width {width} outside 1..32"
  | .pastTop field => s!"{field}: field runs past bit 31"
  | .valueTooWide field value label width =>
    s!"{field}: value {value} for {Text.quoted label} does not fit in {width} bit(s)"
  | .unknownPragmas field labels =>
    s!"{field}: pragma values for unknown labels {Text.quotedList labels}"

namespace Field

structure Draft where
  index : Int
  register : Scalar
  name : String
  start : Int
  width : Int
  values : OrderedMap String Int
  pragmas : OrderedMap String String

/-- The field of a draft, or the first fault: position, width, reach, values in their order,
then the pragma labels without a value. -/
def Draft.check (d : Draft) : Except FieldFault Field :=
  if start : d.start < 0 ∨ (Word.bits : Int) ≤ d.start then
    .error (.startOutside d.name d.start)
  else if width : d.width < 1 ∨ (Word.bits : Int) < d.width then
    .error (.widthOutside d.name d.width)
  else if reach : (Word.bits : Int) < d.start + d.width then
    .error (.pastTop d.name)
  else
    let fits (e : String × Int) : Bool := 0 ≤ e.2 && e.2 < Word.span d.width.toNat
    match large : d.values.entries.find? fun e => !fits e with
    | some e => .error (.valueTooWide d.name e.2 e.1 d.width)
    | none =>
      let values := d.values.mapValues fun _ v => v.toNat
      match foreign : d.pragmas.entries.filter fun e => !values.contains e.1 with
      | e :: rest =>
        .error (.unknownPragmas d.name (((e :: rest).map (·.1)).mergeSort fun a b => decide (a ≤ b)))
      | [] => .ok {
          index := d.index
          register := d.register
          name := d.name
          start := d.start.toNat
          width := d.width.toNat
          values := values
          pragmas := d.pragmas
          width_pos := by omega
          start_add_width_le := by omega
          value_lt := by
            intro e member
            obtain ⟨raw, present, rfl⟩ := List.mem_map.1 member
            have bound := List.find?_eq_none.1 large raw present
            simp only [Bool.not_eq_true, Bool.not_eq_false', fits, Bool.and_eq_true,
              decide_eq_true_eq] at bound
            have nonneg := bound.1
            have below := bound.2
            exact (Int.toNat_lt nonneg).2 below
          pragma_known := by
            intro e member
            have := List.filter_eq_nil_iff.1 foreign e member
            simpa using this }

/-- One past the field's highest bit. -/
def stop (f : Field) : Nat := f.start + f.width

def mask (f : Field) : Nat := (Word.span f.width - 1) * Word.span f.start

def encode? (f : Field) (label : String) : Option Nat := f.values.get? label

def pragma? (f : Field) (label : String) : Option String := f.pragmas.get? label

def extract (f : Field) (word : Int) : Nat := (word / Word.span f.start % Word.span f.width).toNat

def write (f : Field) (word : Int) (value : Nat) : Int :=
  word + (value - f.extract word) * Word.span f.start

def labelOf? (f : Field) (value : Int) : Option String :=
  (f.values.entries.find? fun e => (e.2 : Int) == value).map (·.1)

def overlaps (f g : Field) : Bool :=
  f.register.agrees g.register && !(f.stop ≤ g.start || g.stop ≤ f.start)

theorem extract_lt (f : Field) (word : Int) : f.extract word < Word.span f.width := by
  have positive : (0 : Int) < Word.span f.width := Int.ofNat_lt.2 (Word.span_pos f.width)
  have nonneg := Int.emod_nonneg (word / Word.span f.start) (Int.ne_of_gt positive)
  exact (Int.toNat_lt nonneg).2 (Int.emod_lt_of_pos (word / Word.span f.start) positive)

end Field
end ConfigWords
