import Mathlib.Data.List.Forall2
import Mathlib.Data.List.Nodup

/-! Success of computations that may stop.
A sequence succeeds when each of its steps does; so what a success establishes is read off step by
step. -/
namespace ConfigWords

variable {ε ε' α β σ : Type}

theorem bind_eq_ok {x : Except ε α} {f : α → Except ε β} {b : β} :
    (x >>= f) = .ok b ↔ ∃ a, x = .ok a ∧ f a = .ok b := by
  cases x <;> simp [bind, Except.bind]

theorem ok_bind (a : α) (f : α → Except ε β) : (Except.ok a >>= f) = f a := rfl

theorem pure_eq_ok {a b : α} : (pure a : Except ε α) = .ok b ↔ a = b := by
  simp [pure, Except.pure]

theorem mapError_eq_ok {x : Except ε α} {f : ε → ε'} {a : α} :
    x.mapError f = .ok a ↔ x = .ok a := by
  cases x <;> simp [Except.mapError]

theorem map_eq_ok {x : Except ε α} {f : α → β} {b : β} :
    (f <$> x) = .ok b ↔ ∃ a, x = .ok a ∧ f a = b := by
  cases x <;> simp [Functor.map, Except.map]

theorem mapM_eq_ok_iff {f : α → Except ε β} {xs : List α} {ys : List β} :
    xs.mapM f = .ok ys ↔ List.Forall₂ (fun x y => f x = .ok y) xs ys := by
  induction xs generalizing ys with
  | nil =>
    rw [List.mapM_nil, pure_eq_ok, List.forall₂_nil_left_iff]
    exact eq_comm
  | cons x rest ih =>
    simp only [List.mapM_cons, bind_eq_ok, pure_eq_ok, List.forall₂_cons_left_iff, ih]
    constructor
    · rintro ⟨y, head, tail, later, rfl⟩
      exact ⟨y, tail, head, later, rfl⟩
    · rintro ⟨y, tail, head, later, rfl⟩
      exact ⟨y, head, tail, later, rfl⟩

theorem exists_mem_of_mapM {f : α → Except ε β} {xs : List α} {ys : List β}
    (done : xs.mapM f = .ok ys) {y : β} (member : y ∈ ys) : ∃ x ∈ xs, f x = .ok y := by
  have each := mapM_eq_ok_iff.1 done
  clear done
  induction each with
  | nil => cases member
  | cons head _ ih =>
    rcases List.mem_cons.1 member with rfl | later
    · exact ⟨_, .head _, head⟩
    · obtain ⟨x, present, made⟩ := ih later
      exact ⟨x, .tail _ present, made⟩

theorem mapM_eq_ok_map {f : α → Except ε β} {g : α → β} {xs : List α}
    (each : ∀ x ∈ xs, f x = .ok (g x)) : xs.mapM f = .ok (xs.map g) := by
  rw [mapM_eq_ok_iff, List.forall₂_map_right_iff, List.forall₂_same]
  exact each

/-- What each item is written as is read to its value. -/
theorem mapM_of_forall₂ {γ : Type} {form : α → γ → Prop} {items : List α} {trees : List γ}
    {read : γ → Except ε β} (value : α → β) (forms : List.Forall₂ form items trees)
    (each : ∀ a ∈ items, ∀ t, form a t → read t = .ok (value a)) :
    trees.mapM read = .ok (items.map value) := by
  rw [mapM_eq_ok_iff, List.forall₂_map_right_iff]
  induction forms with
  | nil => exact .nil
  | cons head _ ih =>
    obtain ⟨first, later⟩ := List.forall_mem_cons.1 each
    exact .cons (first _ head) (ih later)

theorem exists_mem_of_forall₂ {γ : Type} {form : α → γ → Prop} {items : List α} {trees : List γ}
    (forms : List.Forall₂ form items trees) {a : α} (member : a ∈ items) :
    ∃ t ∈ trees, form a t := by
  induction forms with
  | nil => cases member
  | cons head _ ih =>
    rcases List.mem_cons.1 member with rfl | later
    · exact ⟨_, .head _, head⟩
    · obtain ⟨t, present, written⟩ := ih later
      exact ⟨t, .tail _ present, written⟩

section Forms

variable {γ δ : Type} {form : α → γ → Prop} {items : List α} {trees : List γ}

theorem forall_mem_iff_of_forall₂ (forms : List.Forall₂ form items trees) {holds : α → Prop}
    {other : γ → Prop} (same : ∀ a t, form a t → (holds a ↔ other t)) :
    (∀ a ∈ items, holds a) ↔ ∀ t ∈ trees, other t := by
  induction forms with
  | nil => exact iff_of_true nofun nofun
  | cons head _ ih => rw [List.forall_mem_cons, List.forall_mem_cons, same _ _ head, ih]

theorem map_eq_map_of_forall₂ (forms : List.Forall₂ form items trees) {f : α → δ} {g : γ → δ}
    (same : ∀ a t, form a t → f a = g t) : items.map f = trees.map g := by
  rw [← List.forall₂_eq_eq_eq, List.forall₂_map_left_iff, List.forall₂_map_right_iff]
  exact forms.imp same

theorem exists_split_of_forall₂ {before after : List γ} {t : γ}
    (forms : List.Forall₂ form items (before ++ t :: after)) :
    ∃ front a back, items = front ++ a :: back ∧ form a t ∧ List.Forall₂ form back after := by
  induction before generalizing items with
  | nil =>
    cases forms with
    | cons head tail => exact ⟨[], _, _, rfl, head, tail⟩
  | cons _ before ih =>
    cases forms with
    | cons _ tail =>
      obtain ⟨front, a, back, rfl, head, later⟩ := ih tail
      exact ⟨_ :: front, a, back, rfl, head, later⟩

theorem forall₂_pairs {α β γ : Type} {first : α → β → Prop} {second : α → γ → Prop} {xs : List α}
    {ys : List β} {zs : List γ} (left : List.Forall₂ first xs ys)
    (right : List.Forall₂ second xs zs) :
    List.Forall₂ (fun x pair => first x pair.1 ∧ second x pair.2) xs (ys.zip zs) := by
  induction left generalizing zs with
  | nil => exact .nil
  | cons head _ ih =>
    cases right with
    | cons other later => exact .cons ⟨head, other⟩ (ih later)

theorem forall₂_iff_of_forall₂ (forms : List.Forall₂ form items trees) {related : α → γ → Prop}
    {holds : α → Prop} (same : ∀ a t, form a t → (related a t ↔ holds a)) :
    List.Forall₂ related items trees ↔ ∀ a ∈ items, holds a := by
  induction forms with
  | nil => exact iff_of_true .nil nofun
  | cons head _ ih => rw [List.forall₂_cons, List.forall_mem_cons, same _ _ head, ih]

theorem nodup_map_iff_of_forall₂ (forms : List.Forall₂ form items trees) {f : α → Except ε δ}
    {g : γ → δ} (read : ∀ a t, form a t → f a = .ok (g t)) :
    (items.map f).Nodup ↔ (trees.map g).Nodup := by
  have values : items.map f = (trees.map g).map Except.ok := by
    rw [List.map_map]
    exact map_eq_map_of_forall₂ forms read
  have injective : Function.Injective (Except.ok : δ → Except ε δ) := fun _ _ => Except.ok.inj
  rw [values, List.nodup_map_iff injective]

end Forms

theorem forM_eq_ok_iff {f : α → Except ε Unit} {xs : List α} {u : Unit} :
    xs.forM f = .ok u ↔ ∀ x ∈ xs, f x = .ok () := by
  induction xs with
  | nil => exact ⟨fun _ x member => (List.not_mem_nil member).elim, fun _ => rfl⟩
  | cons x rest ih =>
    change (f x >>= fun _ => rest.forM f) = .ok u ↔ _
    rw [bind_eq_ok, List.forall_mem_cons, ih]
    exact ⟨fun ⟨_, head, later⟩ => ⟨head, later⟩, fun ⟨head, later⟩ => ⟨(), head, later⟩⟩

theorem bind_eq_error {x : Except ε α} {f : α → Except ε β} {fault : ε} :
    (x >>= f) = .error fault ↔ x = .error fault ∨ ∃ a, x = .ok a ∧ f a = .error fault := by
  cases x <;> simp [bind, Except.bind]

theorem mapError_eq_error {x : Except ε α} {f : ε → ε'} {fault : ε'} :
    x.mapError f = .error fault ↔ ∃ cause, x = .error cause ∧ f cause = fault := by
  cases x <;> simp [Except.mapError]

theorem map_eq_error {x : Except ε α} {f : α → β} {fault : ε} :
    (f <$> x) = .error fault ↔ x = .error fault := by
  cases x <;> simp [Functor.map, Except.map]

theorem mapM_eq_error_iff {f : α → Except ε β} {xs : List α} {fault : ε} :
    xs.mapM f = .error fault ↔ ∃ before x after, xs = before ++ x :: after ∧
      (∀ y ∈ before, ∃ b, f y = .ok b) ∧ f x = .error fault := by
  induction xs with
  | nil =>
    refine iff_of_false (fun stop => by cases stop) ?_
    rintro ⟨before, x, after, split, _⟩
    cases before <;> cases split
  | cons x rest ih =>
    rw [List.mapM_cons, bind_eq_error]
    constructor
    · rintro (stop | ⟨b, first, later⟩)
      · exact ⟨[], x, rest, rfl, fun _ member => (List.not_mem_nil member).elim, stop⟩
      · rcases bind_eq_error.1 later with tail | ⟨_, _, done⟩
        · obtain ⟨before, y, after, rfl, passed, stop⟩ := ih.1 tail
          exact ⟨x :: before, y, after, rfl, List.forall_mem_cons.2 ⟨⟨b, first⟩, passed⟩, stop⟩
        · cases done
    · rintro ⟨before, y, after, split, passed, stop⟩
      cases before with
      | nil =>
        cases split
        exact .inl stop
      | cons z before =>
        cases split
        obtain ⟨⟨b, first⟩, others⟩ := List.forall_mem_cons.1 passed
        exact .inr ⟨b, first, bind_eq_error.2 (.inl (ih.2 ⟨before, y, after, rfl, others, stop⟩))⟩

theorem exists_mem_of_mapM_eq_error {f : α → Except ε β} {xs : List α} {fault : ε}
    (stopped : xs.mapM f = .error fault) : ∃ x ∈ xs, f x = .error fault := by
  obtain ⟨before, x, after, rfl, _, stop⟩ := mapM_eq_error_iff.1 stopped
  exact ⟨x, by simp, stop⟩

theorem foldlM_eq_error_iff {step : σ → α → Except ε σ} {xs : List α} {s : σ} {fault : ε} :
    xs.foldlM step s = .error fault ↔ ∃ before x after last, xs = before ++ x :: after ∧
      before.foldlM step s = .ok last ∧ step last x = .error fault := by
  induction xs generalizing s with
  | nil =>
    refine iff_of_false (fun stop => by cases stop) ?_
    rintro ⟨before, x, after, last, split, _⟩
    cases before <;> cases split
  | cons x rest ih =>
    rw [List.foldlM_cons, bind_eq_error]
    constructor
    · rintro (stop | ⟨next, first, later⟩)
      · exact ⟨[], x, rest, s, rfl, rfl, stop⟩
      · obtain ⟨before, y, after, last, rfl, run, stop⟩ := ih.1 later
        exact ⟨x :: before, y, after, last, rfl, by rw [List.foldlM_cons, first]; exact run, stop⟩
    · rintro ⟨before, y, after, last, split, run, stop⟩
      cases before with
      | nil =>
        cases split
        cases run
        exact .inl stop
      | cons z before =>
        cases split
        obtain ⟨next, first, later⟩ := bind_eq_ok.1 (List.foldlM_cons.symm.trans run)
        exact .inr ⟨next, first, ih.2 ⟨before, y, after, last, rfl, later, stop⟩⟩

/-- What every successful step keeps, a successful run keeps. -/
theorem foldlM_invariant {step : σ → α → Except ε σ} (holds : σ → Prop)
    (keeps : ∀ s x next, holds s → step s x = .ok next → holds next) {xs : List α} {s last : σ}
    (start : holds s) (run : xs.foldlM step s = .ok last) : holds last := by
  induction xs generalizing s with
  | nil =>
    cases pure_eq_ok.1 run
    exact start
  | cons x rest ih =>
    rw [List.foldlM_cons] at run
    obtain ⟨next, first, later⟩ := bind_eq_ok.1 run
    exact ih (keeps s x next start first) later

section Run

variable {x : ExceptT ε (StateM σ) α} {f : α → ExceptT ε (StateM σ) β} {s next : σ}

theorem run_bind_of_ok {a : α} (ended : x.run.run s = (.ok a, next)) :
    (x >>= f).run.run s = (f a).run.run next := by
  have unfolded : (x >>= f).run.run s =
      ExceptT.bindCont f (x.run.run s).1 (x.run.run s).2 := rfl
  rw [unfolded, ended]
  rfl

theorem run_bind_of_error {fault : ε} (stopped : x.run.run s = (.error fault, next)) :
    (x >>= f).run.run s = (.error fault, next) := by
  have unfolded : (x >>= f).run.run s =
      ExceptT.bindCont f (x.run.run s).1 (x.run.run s).2 := rfl
  rw [unfolded, stopped]
  rfl

end Run

end ConfigWords
