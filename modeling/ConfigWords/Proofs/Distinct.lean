import ConfigWords.Distinct
import Mathlib.Data.List.Nodup

/-! Lists without repetition under the operations on lists, and parts of lists in their order. -/
namespace ConfigWords

variable {α : Type} [BEq α] [LawfulBEq α]

theorem filter_distinct (p : α → Bool) (l : List α) :
    (distinct l).filter p = distinct (l.filter p) := by
  induction l with
  | nil => rfl
  | cons a rest ih =>
    cases passes : p a with
    | true => simp only [distinct, List.filter_cons, passes, if_true, List.filter_comm p, ih]
    | false =>
      -- Only copies of the item are left out before the test, and the test leaves them out too.
      have others : ((distinct rest).filter fun b => !(a == b)).filter p =
          (distinct rest).filter p := by
        rw [List.filter_filter]
        apply List.filter_congr
        intro b _
        cases same : a == b with
        | true => simp [← eq_of_beq same, passes]
        | false => simp
      simp only [distinct, List.filter_cons, passes, Bool.false_eq_true, if_false, others, ih]

theorem distinct_eq_eraseDups (l : List α) : distinct l = l.eraseDups := by
  match l with
  | [] => rfl
  | a :: rest =>
    have turned : (fun b => !(a == b)) = fun b => !b == a := by
      funext b
      rw [BEq.comm]
    rw [List.eraseDups_cons, distinct, filter_distinct, turned,
      distinct_eq_eraseDups (rest.filter fun b => !b == a)]
termination_by l.length
decreasing_by exact Nat.lt_succ_of_le (List.length_filter_le _ _)

theorem contains_distinct (l : List α) (a : α) : (distinct l).contains a = l.contains a := by
  rw [Bool.eq_iff_iff, List.contains_iff_mem, List.contains_iff_mem, mem_distinct]

theorem distinct_append (l k : List α) :
    distinct (l ++ k) = distinct l ++ (distinct k).filter fun a => !l.contains a := by
  rw [filter_distinct, distinct_eq_eraseDups, distinct_eq_eraseDups, distinct_eq_eraseDups,
    List.eraseDups_append]
  rfl

theorem distinct_concat (l : List α) (a : α) :
    distinct (l ++ [a]) = if a ∈ l then distinct l else distinct l ++ [a] := by
  have single : distinct [a] = [a] := rfl
  rw [distinct_append, single]
  by_cases present : a ∈ l <;> simp [present]

theorem perm_distinct {l k : List α} (same : l.Perm k) :
    (distinct l).Perm (distinct k) := by
  rw [List.perm_ext_iff_of_nodup (nodup_distinct l) (nodup_distinct k)]
  intro a
  rw [mem_distinct, mem_distinct]
  exact same.mem_iff

omit [LawfulBEq α] in
theorem sublist_distinct (l : List α) : (distinct l).Sublist l := by
  induction l with
  | nil => exact .slnil
  | cons a rest ih => exact (List.filter_sublist.trans ih).cons_cons a

theorem distinct_of_nodup {l : List α} (apart : l.Nodup) : distinct l = l := by
  induction l with
  | nil => rfl
  | cons a rest ih =>
    obtain ⟨fresh, later⟩ := List.nodup_cons.1 apart
    have kept : rest.filter (fun b => !(a == b)) = rest := by
      apply List.filter_eq_self.2
      intro b member
      simpa using (ne_of_mem_of_not_mem member fresh).symm
    rw [distinct, ih later, kept]

theorem length_distinct_eq_iff {l : List α} : (distinct l).length = l.length ↔ l.Nodup := by
  constructor
  · intro whole
    rw [← (sublist_distinct l).eq_of_length whole]
    exact nodup_distinct l
  · intro apart
    rw [distinct_of_nodup apart]

/-- The items stand in the order in which they first occur. -/
theorem pairwise_idxOf_distinct (l : List α) :
    (distinct l).Pairwise fun a b => l.idxOf a < l.idxOf b := by
  induction l with
  | nil => exact .nil
  | cons a rest ih =>
    have other : ∀ b ∈ (distinct rest).filter fun b => !(a == b),
        (a :: rest).idxOf b = rest.idxOf b + 1 := by
      intro b member
      have different : (a == b) = false := by simpa using (List.mem_filter.1 member).2
      rw [List.idxOf_cons, different, cond_false]
    refine List.pairwise_cons.2 ⟨fun b member => ?_, ?_⟩
    · rw [other b member, List.idxOf_cons_self]
      exact Nat.succ_pos _
    · refine (ih.filter _).imp_of_mem fun first second before => ?_
      rw [other _ first, other _ second]
      exact Nat.succ_lt_succ before

/-! Items with keys. -/

/-- Grouped by their keys, all items are there, each as often as before. -/
theorem perm_flatMap_filter {α K : Type} [BEq K] [LawfulBEq K] {key : α → K} {keys : List K}
    {items : List α} (apart : keys.Nodup) (covered : ∀ a ∈ items, key a ∈ keys) :
    (keys.flatMap fun k => items.filter fun a => key a == k).Perm items := by
  induction keys generalizing items with
  | nil =>
    cases items with
    | nil => exact .nil
    | cons a rest => cases covered a List.mem_cons_self
  | cons k keys ih =>
    obtain ⟨fresh, later⟩ := List.nodup_cons.1 apart
    have others : (keys.flatMap fun j => items.filter fun a => key a == j) =
        keys.flatMap fun j => (items.filter fun a => !(key a == k)).filter fun a => key a == j := by
      apply List.flatMap_congr
      intro j member
      rw [List.filter_filter]
      apply List.filter_congr
      intro a _
      cases same : key a == j with
      | false => rfl
      | true =>
        have different : (key a == k) = false := by
          rw [eq_of_beq same]
          exact beq_false_of_ne (ne_of_mem_of_not_mem member fresh)
        rw [different]
        rfl
    have remaining : ∀ a ∈ items.filter fun a => !(key a == k), key a ∈ keys := by
      intro a member
      obtain ⟨present, different⟩ := List.mem_filter.1 member
      refine (List.mem_cons.1 (covered a present)).resolve_left fun same => ?_
      simp [same] at different
    rw [List.flatMap_cons, others]
    exact ((ih later remaining).append_left _).trans (List.filter_append_perm _ items)

theorem filter_key_of_nodup {α K : Type} [BEq K] [LawfulBEq K] {key : α → K} {items : List α}
    {a : α} (apart : (items.map key).Nodup) (member : a ∈ items) :
    (items.filter fun b => key b == key a) = [a] := by
  induction items with
  | nil => cases member
  | cons head rest ih =>
    obtain ⟨fresh, later⟩ := List.nodup_cons.1 apart
    rcases List.mem_cons.1 member with rfl | tail
    · have others : (rest.filter fun b => key b == key a) = [] := by
        rw [List.filter_eq_nil_iff]
        intro b present same
        exact fresh (List.mem_map.2 ⟨b, present, eq_of_beq same⟩)
      rw [List.filter_cons_of_pos (by simp), others]
    · have different : ¬ (key head == key a) = true := by
        intro same
        exact fresh (List.mem_map.2 ⟨a, tail, (eq_of_beq same).symm⟩)
      rw [List.filter_cons_of_neg (by simpa using different), ih later tail]

theorem find?_of_nodup {α K : Type} [BEq K] [LawfulBEq K] {key : α → K} {items : List α} {a : α}
    (distinct : (items.map key).Nodup) (member : a ∈ items) :
    items.find? (fun b => key b == key a) = some a := by
  rw [← List.head?_filter, filter_key_of_nodup distinct member]
  rfl

/-- A function that has a value less often gives a part of the list, in the same order. -/
theorem sublist_filterMap {α β : Type} {f g : α → Option β} {l : List α}
    (wider : ∀ a ∈ l, ∀ b, f a = some b → g a = some b) :
    (l.filterMap f).Sublist (l.filterMap g) := by
  induction l with
  | nil => exact .slnil
  | cons a rest ih =>
    obtain ⟨first, later⟩ := List.forall_mem_cons.1 wider
    cases less : f a with
    | some b =>
      rw [List.filterMap_cons_some less, List.filterMap_cons_some (first b less)]
      exact (ih later).cons_cons b
    | none =>
      rw [List.filterMap_cons_none less]
      cases more : g a with
      | none =>
        rw [List.filterMap_cons_none more]
        exact ih later
      | some b =>
        rw [List.filterMap_cons_some more]
        exact (ih later).cons b

theorem sublist_filterMap_map {α β : Type} {f : α → Option β} {g : α → β} {l : List α}
    (own : ∀ a ∈ l, ∀ b, f a = some b → g a = b) : (l.filterMap f).Sublist (l.map g) := by
  rw [← List.filterMap_eq_map']
  exact sublist_filterMap fun a member b found => congrArg some (own a member b found)

def LastWith {α : Type} (holds : α → Prop) (l : List α) (a : α) : Prop :=
  ∃ before after, l = before ++ a :: after ∧ holds a ∧ ∀ b ∈ after, ¬ holds b

end ConfigWords
