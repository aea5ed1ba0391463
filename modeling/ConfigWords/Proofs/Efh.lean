import ConfigWords.Efh
import ConfigWords.Proofs.OrderedMap

/-! What the family's own description comes to.
It is read once, by evaluation; everything else about it follows from the parts and the indices that
it then has. -/
namespace ConfigWords.Efh

/-- The parts are those of the family, and every index is short enough to be written out. -/
structure Bundled (d : Description) : Prop where
  keys : d.variants.keys = parts.map fun p => .text p.part
  writable : d.schema.indices.all Numeral.writable = true

theorem exists_description : ∃ d, description = .ok d ∧ Bundled d := by
  -- One evaluation for both facts: reading the description is what takes time.
  have evaluated : (match description with
      | .ok d => decide (d.variants.keys = parts.map fun p => .text p.part) &&
          d.schema.indices.all Numeral.writable
      | .error _ => false) = true := by decide +kernel
  cases read : description with
  | error _ => simp [read] at evaluated
  | ok d =>
    simp only [read, Bool.and_eq_true, decide_eq_true_eq] at evaluated
    exact ⟨d, rfl, evaluated.1, evaluated.2⟩

section

variable {d : Description} (bundled : Bundled d)

include bundled

theorem Bundled.parts_catalogue : (catalogue d).parts = .ok (parts.map (·.part)) := by
  rw [catalogue, bundled.keys]
  decide +kernel

theorem Bundled.verify_catalogue : (catalogue d).verify = .ok () := by
  rw [Catalogue.verify, bundled.parts_catalogue]
  rfl

theorem Bundled.exists_device {part : String} (known : part ∈ parts.map (·.part)) :
    ∃ device, Device.ofDescription d (.text part) = .ok device ∧ device.description = d := by
  obtain ⟨p, member, rfl⟩ := List.mem_map.1 known
  have listed : Scalar.text p.part ∈ d.variants.keys := by
    rw [bundled.keys]
    exact List.mem_map.2 ⟨p, member, rfl⟩
  obtain ⟨e, present, key⟩ := List.mem_map.1 listed
  have found : d.variants.get? (.text p.part) = some e.2 :=
    OrderedMap.get?_of_mem (key ▸ present)
  exact ⟨⟨d, e.2⟩, by rw [Device.ofDescription, found], rfl⟩

end
end ConfigWords.Efh
