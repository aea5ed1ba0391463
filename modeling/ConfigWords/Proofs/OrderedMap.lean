import ConfigWords.OrderedMap
import ConfigWords.Proofs.Distinct
import ConfigWords.Proofs.Outcome
import Mathlib.Data.List.Induction

/-! Ordered maps by what is found under their keys.
Keys that are `==` find the same value, and nothing is found that is not an entry. -/
namespace ConfigWords.OrderedMap

variable {K V W : Type} [BEq K]

theorem ext_entries {m n : OrderedMap K V} (same : m.entries = n.entries) : m = n := by
  cases m
  cases n
  cases same
  rfl

theorem get?_of_mem [EquivBEq K] {m : OrderedMap K V} {k : K} {v : V}
    (member : (k, v) ∈ m.entries) : m.get? k = some v := by
  obtain ⟨before, after, split⟩ := List.append_of_mem member
  have apart := m.distinct
  rw [split, List.pairwise_append] at apart
  have earlier : before.find? (fun e => e.1 == k) = none := by
    apply List.find?_eq_none.2
    intro e present
    simp [apart.2.2 e present (k, v) (by simp)]
  simp [get?, split, List.find?_append, earlier]

theorem exists_mem_of_get? {m : OrderedMap K V} {k : K} {v : V} (found : m.get? k = some v) :
    ∃ j, (j, v) ∈ m.entries ∧ (j == k) = true := by
  obtain ⟨e, hit, rfl⟩ := Option.map_eq_some_iff.1 found
  exact ⟨e.1, List.mem_of_find?_eq_some hit, by simpa using List.find?_some hit⟩

theorem get?_eq_some_iff [LawfulBEq K] {m : OrderedMap K V} {k : K} {v : V} :
    m.get? k = some v ↔ (k, v) ∈ m.entries := by
  constructor
  · intro found
    obtain ⟨j, member, same⟩ := exists_mem_of_get? found
    rwa [eq_of_beq same] at member
  · exact get?_of_mem

theorem get?_congr [EquivBEq K] (m : OrderedMap K V) {j k : K} (same : (j == k) = true) :
    m.get? j = m.get? k := by
  have agree : (fun e : K × V => e.1 == j) = fun e => e.1 == k := by
    funext e
    exact BEq.congr_right same
  rw [get?, get?, agree]

theorem nodup_keys [ReflBEq K] (m : OrderedMap K V) : m.keys.Nodup := by
  rw [keys, List.Nodup, List.pairwise_map]
  exact m.distinct.imp fun other same => by simp [same] at other

theorem contains_eq_true_iff [LawfulBEq K] {m : OrderedMap K V} {k : K} :
    m.contains k = true ↔ k ∈ m.keys := by
  simp [contains, keys]

theorem contains_of_mem_keys [ReflBEq K] {m : OrderedMap K V} {k : K} (member : k ∈ m.keys) :
    m.contains k = true := by
  obtain ⟨e, present, rfl⟩ := List.mem_map.1 member
  exact List.any_eq_true.2 ⟨e, present, BEq.rfl⟩

theorem contains_iff_exists {m : OrderedMap K V} {k : K} :
    m.contains k = true ↔ ∃ v, m.get? k = some v := by
  rw [contains_eq_isSome, Option.isSome_iff_exists]

theorem get?_mapValues (m : OrderedMap K V) {f : K → V → W} {k : K}
    (respects : ∀ j v, (j == k) = true → f j v = f k v) :
    (m.mapValues f).get? k = (m.get? k).map (f k) := by
  simp only [get?, mapValues]
  induction m.entries with
  | nil => rfl
  | cons head rest ih =>
    by_cases hit : head.1 == k
    · simp [hit, respects head.1 head.2 hit]
    · simpa [hit] using ih

@[simp] theorem contains_mapValues (m : OrderedMap K V) (f : K → V → W) (k : K) :
    (m.mapValues f).contains k = m.contains k := by
  simp [contains, mapValues, List.any_map, Function.comp_def]

theorem mapValues_mapValues {U : Type} (m : OrderedMap K V) (f : K → V → W) (g : K → W → U) :
    (m.mapValues f).mapValues g = m.mapValues fun k v => g k (f k v) := by
  apply ext_entries
  simp [mapValues]

theorem mapValues_congr {m : OrderedMap K V} {f g : K → V → W}
    (same : ∀ e ∈ m.entries, f e.1 e.2 = g e.1 e.2) : m.mapValues f = m.mapValues g := by
  apply ext_entries
  simp only [mapValues]
  exact List.map_congr_left fun e member => by rw [same e member]

theorem mapValues_id (m : OrderedMap K V) : (m.mapValues fun _ v => v) = m := by
  apply ext_entries
  simp [mapValues]

theorem put_of_present [EquivBEq K] {k : K} {v : V} {l : List (K × V)}
    (apart : l.Pairwise fun a b => (a.1 == b.1) = false)
    (present : l.any (fun e => e.1 == k) = true) :
    put k v l = l.map fun e => (e.1, if e.1 == k then v else e.2) := by
  induction l with
  | nil => simp at present
  | cons head rest ih =>
    obtain ⟨first, later⟩ := List.pairwise_cons.1 apart
    by_cases hit : head.1 == k
    · have others : ∀ e ∈ rest, (e.1 == k) = false := by
        intro e member
        rw [← BEq.congr_right hit, BEq.comm]
        exact first e member
      have kept : (rest.map fun e => (e.1, if e.1 == k then v else e.2)) = rest.map id :=
        List.map_congr_left fun e member => by simp [others e member]
      simp [put, hit, kept]
    · simp only [List.any_cons, hit, Bool.false_or] at present
      simp [put, hit, ih later present]

theorem insert_of_contains [EquivBEq K] {m : OrderedMap K V} {k : K} {v : V}
    (present : m.contains k = true) :
    m.insert k v = m.mapValues fun j old => if j == k then v else old :=
  ext_entries (put_of_present m.distinct present)

theorem entries_foldl_insert {m : OrderedMap K V} {pairs : List (K × V)}
    (fresh : ∀ e ∈ pairs, m.contains e.1 = false)
    (apart : pairs.Pairwise fun a b => (a.1 == b.1) = false) :
    (pairs.foldl (fun m e => m.insert e.1 e.2) m).entries = m.entries ++ pairs := by
  induction pairs generalizing m with
  | nil => simp
  | cons head rest ih =>
    obtain ⟨first, later⟩ := List.pairwise_cons.1 apart
    have entries := entries_insert_of_fresh (v := head.2) (fresh head (by simp))
    have still : ∀ e ∈ rest, (m.insert head.1 head.2).contains e.1 = false := by
      intro e member
      have old := fresh e (by simp [member])
      rw [contains] at old ⊢
      rw [entries, List.any_append, old]
      simp [first e member]
    rw [List.foldl_cons, ih still later, entries, List.append_assoc]
    rfl

theorem entries_ofList {pairs : List (K × V)}
    (apart : pairs.Pairwise fun a b => (a.1 == b.1) = false) : (ofList pairs).entries = pairs :=
  entries_foldl_insert (m := empty) (fun _ _ => rfl) apart

theorem entries_ofList_of_nodup [LawfulBEq K] {pairs : List (K × V)}
    (keys : (pairs.map (·.1)).Nodup) : (ofList pairs).entries = pairs := by
  apply entries_ofList
  exact (List.pairwise_map.1 keys).imp fun other => by simpa using other

theorem exists_indexed [LawfulBEq K] {key : V → K} {items : List V}
    (distinct : (items.map key).Nodup) :
    ∃ m : OrderedMap K V, m.entries = items.map fun v => (key v, v) :=
  ⟨_, entries_ofList_of_nodup (by simpa [List.map_map, Function.comp_def] using distinct)⟩

theorem keys_ofList_of_nodup [LawfulBEq K] {pairs : List (K × V)}
    (distinct : (pairs.map (·.1)).Nodup) : (ofList pairs).keys = pairs.map (·.1) := by
  rw [keys, entries_ofList_of_nodup distinct]

theorem keys_insert [LawfulBEq K] (m : OrderedMap K V) (k : K) (v : V) :
    (m.insert k v).keys = if m.contains k then m.keys else m.keys ++ [k] := by
  by_cases present : m.contains k = true
  · rw [insert_of_contains present, keys_mapValues, if_pos present]
  · rw [keys, entries_insert_of_fresh (by simpa using present), List.map_append, if_neg present]
    rfl

theorem keys_ofList [LawfulBEq K] (pairs : List (K × V)) :
    (ofList pairs).keys = ConfigWords.distinct (pairs.map (·.1)) := by
  induction pairs using List.reverseRecOn with
  | nil => rfl
  | append_singleton before e ih =>
    have step : ofList (before ++ [e]) = (ofList before).insert e.1 e.2 := List.foldl_concat ..
    have known : (ofList before).contains e.1 = true ↔ e.1 ∈ before.map (·.1) := by
      rw [contains_eq_true_iff, ih, mem_distinct]
    rw [step, keys_insert, ih, List.map_append, List.map_singleton, distinct_concat]
    simp only [known]

/-- A loop that refuses every key that is there already ends with all entries in their order, or it
does not end well. -/
theorem foldlM_eq_ok_iff_entries {ε α : Type}
    {step : OrderedMap K V → α → Except ε (OrderedMap K V)} {entry : α → K × V}
    (refuses : ∀ m a, m.contains (entry a).1 = true → ∃ fault, step m a = .error fault)
    (inserts : ∀ m a, m.contains (entry a).1 = false →
      step m a = .ok (m.insert (entry a).1 (entry a).2))
    {items : List α} {m next : OrderedMap K V} :
    items.foldlM step m = .ok next ↔ next.entries = m.entries ++ items.map entry := by
  induction items generalizing m with
  | nil =>
    rw [List.foldlM_nil, pure_eq_ok, List.map_nil, List.append_nil]
    exact ⟨fun same => same ▸ rfl, fun same => (ext_entries same).symm⟩
  | cons a rest ih =>
    rw [List.foldlM_cons]
    cases taken : m.contains (entry a).1 with
    | true =>
      obtain ⟨fault, refused⟩ := refuses m a taken
      rw [refused]
      refine iff_of_false (fun impossible => by cases impossible) fun entries => ?_
      obtain ⟨e, member, same⟩ := List.any_eq_true.1 taken
      have apart := next.distinct
      rw [entries, List.pairwise_append] at apart
      have different := apart.2.2 e member (entry a) (by simp)
      rw [same] at different
      cases different
    | false =>
      rw [inserts m a taken, ok_bind, ih, entries_insert_of_fresh taken, List.append_assoc]
      rfl

theorem mem_put_value {k : K} {v : V} {l : List (K × V)} {e : K × V} (member : e ∈ put k v l) :
    e.2 = v ∨ e ∈ l := by
  induction l with
  | nil =>
    cases List.mem_singleton.1 member
    exact .inl rfl
  | cons head rest ih =>
    unfold put at member
    split at member
    · rcases List.mem_cons.1 member with rfl | later
      · exact .inl rfl
      · exact .inr (.tail _ later)
    · rcases List.mem_cons.1 member with rfl | later
      · exact .inr (.head _)
      · exact (ih later).imp_right (.tail _)

theorem value_mem_of_ofList {pairs : List (K × V)} {e : K × V}
    (member : e ∈ (ofList pairs).entries) : e.2 ∈ pairs.map (·.2) := by
  have grown : ∀ m : OrderedMap K V, e ∈ (pairs.foldl (fun m e => m.insert e.1 e.2) m).entries →
      e ∈ m.entries ∨ e.2 ∈ pairs.map (·.2) := by
    clear member
    induction pairs with
    | nil => exact fun m member => .inl member
    | cons head rest ih =>
      intro m member
      rcases ih (m.insert head.1 head.2) member with old | new
      · rcases mem_put_value old with same | present
        · exact .inr (same ▸ .head _)
        · exact .inl present
      · exact .inr (.tail _ new)
  exact (grown empty member).resolve_left List.not_mem_nil

/-- Of the pairs with one key, the last gives the value. -/
theorem get?_ofList [EquivBEq K] (pairs : List (K × V)) (k : K) :
    (ofList pairs).get? k = (pairs.reverse.find? fun e => e.1 == k).map (·.2) := by
  induction pairs using List.reverseRecOn with
  | nil => rfl
  | append_singleton before e ih =>
    have step : ofList (before ++ [e]) = (ofList before).insert e.1 e.2 := List.foldl_concat ..
    rw [step, get?_insert, List.reverse_concat, ih]
    by_cases hit : e.1 == k <;> simp [hit]

theorem get?_ofList_eq_some_iff [LawfulBEq K] {pairs : List (K × V)} {k : K} {v : V} :
    (ofList pairs).get? k = some v ↔ LastWith (fun e => e.1 = k) pairs (k, v) := by
  simp only [get?_ofList, Option.map_eq_some_iff, List.find?_eq_some_iff_append, beq_iff_eq,
    Bool.not_eq_true', beq_eq_false_iff_ne]
  constructor
  · rintro ⟨⟨_, _⟩, ⟨rfl, after, before, split, missing⟩, rfl⟩
    refine ⟨before.reverse, after.reverse, ?_, rfl, fun e member => ?_⟩
    · rw [← List.reverse_reverse pairs, split]
      simp
    · exact missing e (List.mem_reverse.1 member)
  · rintro ⟨before, after, rfl, _, missing⟩
    refine ⟨(k, v), ⟨rfl, after.reverse, before.reverse, by simp, fun e member => ?_⟩, rfl⟩
    exact missing e (List.mem_reverse.1 member)

theorem get?_ofList_iff_of_forall₂ [LawfulBEq K] {α : Type} {form : α → K × V → Prop}
    {items : List α} {pairs : List (K × V)} (forms : List.Forall₂ form items pairs)
    (unique : ∀ a e e', form a e → form a e' → e = e') {named : α → Prop} {k : K}
    (same : ∀ a e, form a e → (named a ↔ e.1 = k)) {v : V} :
    (ofList pairs).get? k = some v ↔ ∃ a, LastWith named items a ∧ form a (k, v) := by
  rw [get?_ofList_eq_some_iff]
  constructor
  · rintro ⟨before, after, rfl, own, last⟩
    obtain ⟨front, a, back, rfl, head, later⟩ := exists_split_of_forall₂ forms
    refine ⟨a, ⟨front, back, rfl, (same a _ head).2 own, ?_⟩, head⟩
    exact (forall_mem_iff_of_forall₂ later fun b e written => not_congr (same b e written)).2 last
  · rintro ⟨a, ⟨front, back, rfl, own, last⟩, head⟩
    obtain ⟨before, e, after, rfl, written, later⟩ := exists_split_of_forall₂ forms.flip
    cases unique a _ _ head written
    refine ⟨before, after, rfl, (same a _ head).1 own, ?_⟩
    exact (forall_mem_iff_of_forall₂ later fun e b written =>
      not_congr (same b e written).symm).2 last

/-- All pairs are kept exactly where their keys differ. -/
theorem ofList_keeps_iff [LawfulBEq K] {pairs : List (K × V)} :
    ((ofList pairs).keys.length = pairs.length ∧ ∀ e ∈ pairs, (ofList pairs).get? e.1 = some e.2) ↔
      (pairs.map (·.1)).Nodup := by
  have count : (ofList pairs).keys.length = pairs.length ↔ (pairs.map (·.1)).Nodup := by
    rw [keys_ofList, ← length_distinct_eq_iff, List.length_map]
  rw [count, and_iff_left_iff_imp]
  intro apart e member
  rw [get?_eq_some_iff, entries_ofList_of_nodup apart]
  exact member

theorem nodup_entries [LawfulBEq K] (m : OrderedMap K V) : m.entries.Nodup :=
  List.Nodup.of_map _ m.nodup_keys

theorem get?_eq_of_perm [LawfulBEq K] {m n : OrderedMap K V} (same : m.entries.Perm n.entries)
    (k : K) : m.get? k = n.get? k := by
  ext v
  rw [get?_eq_some_iff, get?_eq_some_iff]
  exact same.mem_iff

theorem get?_foldl_insert [EquivBEq K] (m : OrderedMap K V) {pairs : List (K × V)}
    (apart : pairs.Pairwise fun a b => (a.1 == b.1) = false) (k : K) :
    (pairs.foldl (fun m e => m.insert e.1 e.2) m).get? k =
      ((pairs.find? fun e => e.1 == k).map (·.2)).or (m.get? k) := by
  induction pairs generalizing m with
  | nil => simp
  | cons head rest ih =>
    obtain ⟨first, later⟩ := List.pairwise_cons.1 apart
    rw [List.foldl_cons, ih _ later, get?_insert]
    by_cases hit : head.1 == k
    · -- No later pair has the key, so the first one stays.
      have missing : rest.find? (fun e => e.1 == k) = none := by
        apply List.find?_eq_none.2
        intro e member
        rw [← BEq.congr_right hit, BEq.comm, first e member]
        exact Bool.false_ne_true
      simp [hit, missing]
    · simp [hit]

theorem get?_overlay [EquivBEq K] (m other : OrderedMap K V) (k : K) :
    (m.overlay other).get? k = (other.get? k).or (m.get? k) :=
  get?_foldl_insert m other.distinct k

theorem mem_keys_overlay [LawfulBEq K] {m other : OrderedMap K V} {k : K} :
    k ∈ (m.overlay other).keys ↔ k ∈ other.keys ∨ k ∈ m.keys := by
  simp only [← contains_eq_true_iff, contains_eq_isSome, get?_overlay, Option.isSome_or,
    Bool.or_eq_true]

/-- Overlaying keeps the entries of the upper map and those of the lower one that it has no key
for. -/
theorem perm_overlay [LawfulBEq K] (m other : OrderedMap K V) :
    (m.overlay other).entries.Perm
      (other.entries ++ m.entries.filter fun e => !other.contains e.1) := by
  have apart : (other.entries ++ m.entries.filter fun e => !other.contains e.1).Nodup := by
    refine List.Nodup.append other.nodup_entries (m.nodup_entries.filter _) ?_
    intro e upper lower
    have absent := (List.mem_filter.1 lower).2
    have present : other.contains e.1 = true := List.any_eq_true.2 ⟨e, upper, BEq.rfl⟩
    simp [present] at absent
  rw [List.perm_ext_iff_of_nodup (nodup_entries _) apart]
  rintro ⟨k, v⟩
  rw [← get?_eq_some_iff, get?_overlay, List.mem_append, List.mem_filter, ← get?_eq_some_iff,
    ← get?_eq_some_iff, contains_eq_isSome]
  cases other.get? k <;> simp

def filter (p : K × V → Bool) (m : OrderedMap K V) : OrderedMap K V :=
  ⟨m.entries.filter p, m.distinct.filter p⟩

end ConfigWords.OrderedMap
