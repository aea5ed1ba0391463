/-! Finite maps that keep their keys in the order in which they first came.
A key that comes again keeps its place and takes the new value. Keys are compared with `==`,
which need not be equality: `get?_insert` asks only that it is an equivalence. -/
namespace ConfigWords

structure OrderedMap (K V : Type) [BEq K] where
  entries : List (K × V)
  distinct : entries.Pairwise fun a b => (a.1 == b.1) = false

namespace OrderedMap

variable {K V W : Type} [BEq K]

def empty : OrderedMap K V := ⟨[], .nil⟩

instance : Inhabited (OrderedMap K V) := ⟨empty⟩

def get? (m : OrderedMap K V) (k : K) : Option V :=
  (m.entries.find? fun e => e.1 == k).map (·.2)

def contains (m : OrderedMap K V) (k : K) : Bool := m.entries.any fun e => e.1 == k

def keys (m : OrderedMap K V) : List K := m.entries.map (·.1)

def values (m : OrderedMap K V) : List V := m.entries.map (·.2)

def size (m : OrderedMap K V) : Nat := m.entries.length

def put (k : K) (v : V) : List (K × V) → List (K × V)
  | [] => [(k, v)]
  | e :: rest => if e.1 == k then (e.1, v) :: rest else e :: put k v rest

theorem mem_put_key {k : K} {v : V} {l : List (K × V)} {e : K × V} (h : e ∈ put k v l) :
    e.1 = k ∨ ∃ old ∈ l, old.1 = e.1 := by
  induction l with
  | nil => simp_all [put]
  | cons head rest ih =>
    unfold put at h
    split at h
    · rcases List.mem_cons.1 h with rfl | tail
      · exact .inr ⟨head, by simp, rfl⟩
      · exact .inr ⟨e, by simp [tail], rfl⟩
    · rcases List.mem_cons.1 h with rfl | tail
      · exact .inr ⟨e, by simp, rfl⟩
      · rcases ih tail with new | ⟨old, member, same⟩
        · exact .inl new
        · exact .inr ⟨old, by simp [member], same⟩

theorem pairwise_put {k : K} {v : V} {l : List (K × V)}
    (h : l.Pairwise fun a b => (a.1 == b.1) = false) :
    (put k v l).Pairwise fun a b => (a.1 == b.1) = false := by
  induction l with
  | nil => simp [put]
  | cons head rest ih =>
    obtain ⟨first, later⟩ := List.pairwise_cons.1 h
    unfold put
    split
    · exact List.pairwise_cons.2 ⟨first, later⟩
    · rename_i other
      refine List.pairwise_cons.2 ⟨fun e member => ?_, ih later⟩
      rcases mem_put_key member with same | ⟨old, present, same⟩
      · rw [same]; simpa using other
      · rw [← same]; exact first old present

/-- A key with its value: a present key keeps its place, a new one comes last. -/
def insert (m : OrderedMap K V) (k : K) (v : V) : OrderedMap K V :=
  ⟨put k v m.entries, pairwise_put m.distinct⟩

def ofList (pairs : List (K × V)) : OrderedMap K V :=
  pairs.foldl (fun m e => m.insert e.1 e.2) empty

def overlay (m other : OrderedMap K V) : OrderedMap K V :=
  other.entries.foldl (fun m e => m.insert e.1 e.2) m

def mapValues (f : K → V → W) (m : OrderedMap K V) : OrderedMap K W :=
  ⟨m.entries.map fun e => (e.1, f e.1 e.2), by
    rw [List.pairwise_map]
    exact m.distinct⟩

theorem find?_put [EquivBEq K] (k j : K) (v : V) (l : List (K × V)) :
    ((put k v l).find? fun e => e.1 == j).map (·.2) =
      if k == j then some v else (l.find? fun e => e.1 == j).map (·.2) := by
  induction l with
  | nil => by_cases h : k == j <;> simp [put, h]
  | cons head rest ih =>
    unfold put
    by_cases same : head.1 == k
    · have agree : (head.1 == j) = (k == j) := BEq.congr_left same
      by_cases h : k == j <;> simp [same, agree, h]
    · by_cases hit : head.1 == j
      · have other : (k == j) = false := by
          cases kj : k == j with
          | false => rfl
          | true => exact absurd (BEq.trans hit (BEq.symm kj)) same
        simp [same, hit, other]
      · simp [same, hit, ih]

theorem get?_insert [EquivBEq K] (m : OrderedMap K V) (k j : K) (v : V) :
    (m.insert k v).get? j = if k == j then some v else m.get? j :=
  find?_put k j v m.entries

theorem contains_eq_isSome (m : OrderedMap K V) (k : K) :
    m.contains k = (m.get? k).isSome := by
  simp only [contains, get?, Option.isSome_map]
  induction m.entries with
  | nil => rfl
  | cons head rest ih => by_cases h : head.1 == k <;> simp [h, ih]

theorem keys_mapValues (f : K → V → W) (m : OrderedMap K V) :
    (m.mapValues f).keys = m.keys := by
  simp [keys, mapValues]

theorem put_of_fresh {k : K} {v : V} {l : List (K × V)}
    (h : ∀ e ∈ l, (e.1 == k) = false) : put k v l = l ++ [(k, v)] := by
  induction l with
  | nil => rfl
  | cons head rest ih =>
    simp [put, h head (by simp), ih fun e member => h e (by simp [member])]

theorem entries_insert_of_fresh {m : OrderedMap K V} {k : K} {v : V}
    (h : m.contains k = false) : (m.insert k v).entries = m.entries ++ [(k, v)] :=
  put_of_fresh (by simpa [contains] using h)

end OrderedMap
end ConfigWords
