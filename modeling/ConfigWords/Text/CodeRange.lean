/-! Tables of code points, kept as closed ranges. -/
namespace ConfigWords.Text

abbrev CodeRange := Nat × Nat

def CodeRange.covers (table : List CodeRange) (code : Nat) : Bool :=
  table.any fun range => range.1 ≤ code && code ≤ range.2

end ConfigWords.Text
