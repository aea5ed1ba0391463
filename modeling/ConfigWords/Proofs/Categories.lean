import ConfigWords.Proofs.OrderedMap
import ConfigWords.Schema

/-! A catalogue by its categories.
Settings come in by runs of additions, and an addition whose index is taken changes nothing. The
categories split the catalogue: each setting stands in the group of its own category, once, and the
order inside a group is that of the additions. -/
namespace ConfigWords.Schema

def afterAdd (schema : Schema) (s : Setting) : Schema :=
  match schema.add s with
  | .ok next => next
  | .error _ => schema

def after (calls : List Setting) : Schema := calls.foldl afterAdd empty

/-- Of the settings with one index the catalogue holds the one that came first, and it holds them
in the order in which they came. -/
structure Holds (calls : List Setting) (schema : Schema) : Prop where
  in_order : schema.toList.Sublist calls
  first : ∀ index, schema.get? index = calls.find? fun s => s.index == index
  indexed : schema.toList.map (·.index) = schema.indices

section Run

variable {calls : List Setting} {schema : Schema} {s : Setting}

theorem add_of_taken (taken : schema.contains s.index = true) : schema.add s = .error ⟨s.index⟩ :=
  if_pos taken

theorem add_of_free (free : schema.contains s.index = false) :
    schema.add s = .ok ⟨schema.settings.insert s.index s⟩ :=
  if_neg (ne_true_of_eq_false free)

theorem afterAdd_of_taken (taken : schema.contains s.index = true) : schema.afterAdd s = schema := by
  rw [afterAdd, add_of_taken taken]

theorem exists_add_error_iff :
    (∃ fault, schema.add s = .error fault) ↔ schema.contains s.index = true := by
  cases taken : schema.contains s.index with
  | true => exact iff_of_true ⟨_, add_of_taken taken⟩ rfl
  | false => simp [add_of_free taken]

theorem after_concat (calls : List Setting) (s : Setting) :
    after (calls ++ [s]) = (after calls).afterAdd s :=
  List.foldl_concat ..

theorem Holds.contains_iff (holds : Holds calls schema) {index : Int} :
    schema.contains index = true ↔ index ∈ calls.map (·.index) := by
  have found := holds.first index
  rw [get?] at found
  rw [contains, OrderedMap.contains_eq_isSome, found]
  simp

theorem holds_empty : Holds [] empty where
  in_order := .slnil
  first := fun _ => rfl
  indexed := rfl

theorem Holds.afterAdd (holds : Holds calls schema) (s : Setting) :
    Holds (calls ++ [s]) (schema.afterAdd s) := by
  cases taken : schema.contains s.index with
  | true =>
    rw [afterAdd_of_taken taken]
    refine ⟨holds.in_order.trans (List.sublist_append_left calls [s]), ?_, holds.indexed⟩
    intro index
    rw [holds.first, List.find?_append]
    by_cases same : s.index = index
    · -- An earlier setting has the index, so the refused one is not found.
      obtain ⟨old, found⟩ : ∃ old, calls.find? (fun s => s.index == index) = some old := by
        rw [← holds.first, get?, ← Option.isSome_iff_exists, ← OrderedMap.contains_eq_isSome]
        exact same ▸ taken
      rw [found, Option.some_or]
    · simp [same]
  | false =>
    have added : schema.afterAdd s = ⟨schema.settings.insert s.index s⟩ := by
      rw [Schema.afterAdd, add_of_free taken]
    have entries := OrderedMap.entries_insert_of_fresh (v := s) taken
    have listed : (schema.afterAdd s).toList = schema.toList ++ [s] := by
      rw [added, toList, OrderedMap.values, entries, List.map_append]
      rfl
    refine ⟨?_, ?_, ?_⟩
    · rw [listed]
      exact holds.in_order.append (List.Sublist.refl [s])
    · intro index
      have old := holds.first index
      rw [get?] at old
      rw [added, get?, OrderedMap.get?_insert, List.find?_append, ← old]
      by_cases same : s.index = index
      · have missing : schema.settings.get? index = none := by
          rw [← Option.not_isSome_iff_eq_none, ← OrderedMap.contains_eq_isSome, ← same]
          exact ne_true_of_eq_false taken
        simp [same, missing]
      · simp [same]
    · rw [listed, List.map_append, holds.indexed, indices, indices, added, OrderedMap.keys,
        OrderedMap.keys, entries, List.map_append]
      rfl

theorem holds_after (calls : List Setting) : Holds calls (after calls) := by
  induction calls using List.reverseRecOn with
  | nil => exact holds_empty
  | append_singleton before s ih =>
    rw [after_concat]
    exact ih.afterAdd s

end Run

/-- The categories are listed in the order in which they first occur, and their groups part the
catalogue, each group in the order of the catalogue. -/
structure Parted (schema : Schema) : Prop where
  categories_nodup : schema.categories.Nodup
  mem_categories_iff : ∀ c, c ∈ schema.categories ↔ ∃ s ∈ schema.toList, s.category = c
  first_seen : schema.categories.Pairwise fun c d =>
    (schema.toList.map (·.category)).idxOf c < (schema.toList.map (·.category)).idxOf d
  perm : (schema.categories.flatMap schema.ofCategory).Perm schema.toList
  once : (schema.categories.flatMap schema.ofCategory).Nodup
  group_iff : ∀ c s, s ∈ schema.ofCategory c ↔ s ∈ schema.toList ∧ s.category = c
  in_order : ∀ c, (schema.ofCategory c).Sublist schema.toList
  others_empty : ∀ c, c ∉ schema.categories → schema.ofCategory c = []

theorem parted {schema : Schema} (apart : schema.toList.Nodup) : schema.Parted := by
  have nodup : schema.categories.Nodup := nodup_distinct _
  have listed : ∀ c, c ∈ schema.categories ↔ ∃ s ∈ schema.toList, s.category = c := fun c => by
    rw [categories, mem_distinct, List.mem_map]
  have perm : (schema.categories.flatMap schema.ofCategory).Perm schema.toList :=
    perm_flatMap_filter nodup fun s member => (listed _).2 ⟨s, member, rfl⟩
  have group : ∀ c s, s ∈ schema.ofCategory c ↔ s ∈ schema.toList ∧ s.category = c := fun c s => by
    rw [ofCategory, List.mem_filter, beq_iff_eq]
  refine ⟨nodup, listed, pairwise_idxOf_distinct _, perm, perm.nodup_iff.2 apart, group,
    fun c => List.filter_sublist, ?_⟩
  intro c absent
  refine List.eq_nil_iff_forall_not_mem.2 fun s member => absent ?_
  obtain ⟨present, own⟩ := (group c s).1 member
  exact (listed c).2 ⟨s, present, own⟩

/-- After any run of additions, the next one is refused exactly for an index that an earlier call
had. The catalogue holds the first setting of each index in the order of the calls, and its
categories part it. -/
theorem parted_after (calls : List Setting) :
    (∀ s, (∃ fault, (after calls).add s = .error fault) ↔ s.index ∈ calls.map (·.index)) ∧
    (∀ s, s.index ∈ calls.map (·.index) → after (calls ++ [s]) = after calls) ∧
    Holds calls (after calls) ∧ (after calls).Parted := by
  have holds := holds_after calls
  have apart : (after calls).toList.Nodup := by
    apply List.Nodup.of_map (·.index)
    rw [holds.indexed]
    exact OrderedMap.nodup_keys _
  refine ⟨fun s => ?_, fun s known => ?_, holds, parted apart⟩
  · rw [exists_add_error_iff, holds.contains_iff]
  · rw [after_concat, afterAdd_of_taken (holds.contains_iff.2 known)]

end ConfigWords.Schema
