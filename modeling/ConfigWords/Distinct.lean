/-! Lists without repetition, in the order in which the items first occur. -/
namespace ConfigWords

def distinct {α : Type} [BEq α] : List α → List α
  | [] => []
  | a :: rest => a :: (distinct rest).filter fun b => !(a == b)

theorem mem_distinct {α : Type} [BEq α] [LawfulBEq α] {a : α} {l : List α} :
    a ∈ distinct l ↔ a ∈ l := by
  induction l with
  | nil => simp [distinct]
  | cons b rest ih =>
    by_cases same : a = b
    · simp [distinct, same]
    · simp [distinct, ih, same, Ne.symm same]

theorem nodup_distinct {α : Type} [BEq α] [LawfulBEq α] (l : List α) : (distinct l).Nodup := by
  induction l with
  | nil => simp [distinct]
  | cons b rest ih => exact List.nodup_cons.2 ⟨by simp, ih.filter _⟩

end ConfigWords
