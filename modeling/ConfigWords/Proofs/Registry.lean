import ConfigWords.Proofs.OrderedMap
import ConfigWords.Registry

/-! Runs of registrations and changes of part lists.
The index of all parts is made again for every lookup. It is made exactly where no part is listed
twice, by one family or by two, and then a part leads to the one family whose class lists it now.
A run keeps the first class under every name; everything else is read off the registry as it is. -/
namespace ConfigWords

namespace Catalogue

variable {c : Catalogue} {index : OrderedMap String String} {fault : CatalogueFault}

def enter (index : OrderedMap String String) (claim : String × String) :
    Except CatalogueFault (OrderedMap String String) :=
  match index.get? claim.1 with
  | some first => .error (.partClaimedTwice claim.1 first claim.2)
  | none => .ok (index.insert claim.1 claim.2)

theorem partIndex_eq (c : Catalogue) : c.partIndex = c.claims.foldlM enter OrderedMap.empty := rfl

theorem enter_eq_error_iff {claim : String × String} :
    enter index claim = .error fault ↔
      ∃ first, index.get? claim.1 = some first ∧
        fault = .partClaimedTwice claim.1 first claim.2 := by
  unfold enter
  cases index.get? claim.1 with
  | none => simp
  | some first => simp [eq_comm]

theorem foldlM_enter_eq_ok_iff {claims : List (String × String)} :
    claims.foldlM enter OrderedMap.empty = .ok index ↔ index.entries = claims := by
  have entries : claims.foldlM enter OrderedMap.empty = .ok index ↔
      index.entries = OrderedMap.empty.entries ++ claims.map id := by
    apply OrderedMap.foldlM_eq_ok_iff_entries
    · intro m claim taken
      obtain ⟨first, found⟩ := OrderedMap.contains_iff_exists.1 taken
      exact ⟨_, enter_eq_error_iff.2 ⟨first, found, rfl⟩⟩
    · intro m claim free
      have absent : m.get? claim.1 = none := by
        simpa [OrderedMap.contains_eq_isSome] using free
      rw [enter, absent]
      rfl
  rw [entries, List.map_id]
  rfl

theorem partIndex_eq_ok_iff : c.partIndex = .ok index ↔ index.entries = c.claims :=
  foldlM_enter_eq_ok_iff

theorem exists_partIndex (once : (c.claims.map (·.1)).Nodup) :
    ∃ index, c.partIndex = .ok index ∧ index.entries = c.claims :=
  ⟨OrderedMap.ofList c.claims, partIndex_eq_ok_iff.2 (OrderedMap.entries_ofList_of_nodup once),
    OrderedMap.entries_ofList_of_nodup once⟩

theorem exists_claimed_twice (again : ¬ (c.claims.map (·.1)).Nodup) :
    ∃ before part first second after, c.claims = before ++ (part, second) :: after ∧
      (before.map (·.1)).Nodup ∧ (part, first) ∈ before ∧
      c.partIndex = .error (.partClaimedTwice part first second) := by
  cases made : c.partIndex with
  | ok index =>
    refine absurd ?_ again
    rw [← partIndex_eq_ok_iff.1 made]
    exact OrderedMap.nodup_keys index
  | error fault =>
    rw [partIndex_eq] at made
    obtain ⟨before, claim, after, index, split, run, stop⟩ := foldlM_eq_error_iff.1 made
    obtain ⟨first, found, rfl⟩ := enter_eq_error_iff.1 stop
    obtain rfl := foldlM_enter_eq_ok_iff.1 run
    exact ⟨index.entries, claim.1, first, claim.2, after, split, OrderedMap.nodup_keys index,
      OrderedMap.get?_eq_some_iff.1 found, rfl⟩

end Catalogue

namespace Registry

variable {C D ε : Type} {r next : Registry C}

/-- All parts in the order of the registrations, as their classes list them now. -/
def listed (r : Registry C) : List String := r.families.entries.flatMap fun e => r.lists e.2

theorem map_claims (r : Registry C) : r.catalogue.claims.map (·.1) = r.listed := by
  simp [Catalogue.claims, catalogue, OrderedMap.mapValues, listed, List.flatMap_map,
    List.map_flatMap, Function.comp_def]

theorem mem_claims_iff {part family : String} :
    (part, family) ∈ r.catalogue.claims ↔ ∃ c, (family, c) ∈ r.families.entries ∧
      part ∈ r.lists c := by
  simp only [Catalogue.claims, catalogue, OrderedMap.mapValues, List.mem_flatMap, List.mem_map]
  constructor
  · rintro ⟨_, ⟨e, member, rfl⟩, _, held, same⟩
    cases same
    exact ⟨e.2, member, held⟩
  · rintro ⟨c, member, held⟩
    exact ⟨_, ⟨_, member, rfl⟩, part, held, rfl⟩

/-! One call. -/

section Calls

variable {family : String} {c : C}

theorem run_register (family : String) (c : C) (r : Registry C) :
    (register family c).run.run r =
      if r.families.contains family then (.error (.familyTaken family), r)
      else (.ok (), { r with families := r.families.insert family c }) := by
  have read : (get : ExceptT CatalogueFault (StateM (Registry C)) (Registry C)).run.run r =
      (.ok r, r) := rfl
  rw [register, run_bind_of_ok read]
  cases r.families.contains family with
  | true => rfl
  | false => rfl

theorem register_error_iff {fault : CatalogueFault} :
    (register family c).run.run r = (.error fault, next) ↔
      r.families.contains family = true ∧ fault = .familyTaken family ∧ next = r := by
  rw [run_register]
  cases r.families.contains family with
  | true =>
    constructor
    · rintro ⟨⟩
      exact ⟨rfl, rfl, rfl⟩
    · rintro ⟨_, rfl, rfl⟩
      rfl
  | false => constructor <;> rintro ⟨⟨⟩, _⟩

theorem register_ok_iff :
    (register family c).run.run r = (.ok (), next) ↔
      r.families.contains family = false ∧
        next = { r with families := r.families.insert family c } := by
  rw [run_register]
  cases r.families.contains family with
  | true => constructor <;> rintro ⟨⟨⟩, _⟩
  | false =>
    constructor
    · rintro ⟨⟩
      exact ⟨rfl, rfl⟩
    · rintro ⟨_, rfl⟩
      rfl

/-- What a registration does to the registry. -/
structure Admits (r : Registry C) : Prop where
  distinct : r.families.keys.Nodup
  refused : ∀ family c, (∃ fault next, (register family c).run.run r = (.error fault, next)) ↔
    family ∈ r.families.keys
  unchanged : ∀ family c fault next, (register family c).run.run r = (.error fault, next) →
    fault = .familyTaken family ∧ next = r
  appended : ∀ family c next, (register family c).run.run r = (.ok (), next) →
    next.families.entries = r.families.entries ++ [(family, c)] ∧ next.lists = r.lists

theorem admits (r : Registry C) : r.Admits := by
  refine ⟨OrderedMap.nodup_keys _, ?_, ?_, ?_⟩
  · intro family c
    simp only [register_error_iff, exists_and_left, exists_eq, and_true]
    exact OrderedMap.contains_eq_true_iff
  · intro family c fault next refused
    exact (register_error_iff.1 refused).2
  · intro family c next accepted
    obtain ⟨free, rfl⟩ := register_ok_iff.1 accepted
    exact ⟨OrderedMap.entries_insert_of_fresh free, rfl⟩

end Calls

/-! A run of events. -/

section Run

def Event.registration? : Event C → Option (String × C)
  | .register family c => some (family, c)
  | .relist _ _ => none

def registrations (events : List (Event C)) : List (String × C) :=
  events.filterMap Event.registration?

theorem registrations_register (events : List (Event C)) (family : String) (c : C) :
    registrations (events ++ [.register family c]) = registrations events ++ [(family, c)] := by
  simp [registrations, Event.registration?]

theorem registrations_relist (events : List (Event C)) (c : C) (parts : List String) :
    registrations (events ++ [.relist c parts]) = registrations events := by
  simp [registrations, Event.registration?]

variable [DecidableEq C]

def Event.parts? (c : C) : Event C → Option (List String)
  | .register _ _ => none
  | .relist k parts => if c = k then some parts else none

/-- The families stand in the order of their first registrations, with the classes of these, and
every class lists what it was last made to list. -/
structure Follows (lists : C → List String) (events : List (Event C)) (r : Registry C) : Prop where
  names : r.families.keys = distinct ((registrations events).map (·.1))
  classes : ∀ family, r.families.get? family =
    ((registrations events).find? fun e => e.1 == family).map (·.2)
  lists : ∀ c, r.lists c = (events.reverse.findSome? (Event.parts? c)).getD (lists c)

section Follows

variable {lists : C → List String} {events : List (Event C)} (follows : r.Follows lists events)

include follows

theorem Follows.relist (c : C) (parts : List String) :
    (r.relist c parts).Follows lists (events ++ [.relist c parts]) := by
  have passed := registrations_relist events c parts
  refine ⟨passed ▸ follows.names, passed ▸ follows.classes, fun k => ?_⟩
  rw [List.reverse_append, List.reverse_singleton, List.singleton_append, List.findSome?_cons,
    Event.parts?]
  by_cases same : k = c
  · simp [Registry.relist, same]
  · simp only [Registry.relist, if_neg same]
    exact follows.lists k

theorem Follows.registered_iff {family : String} : r.families.contains family = true ↔
    family ∈ (registrations events).map (·.1) := by
  rw [OrderedMap.contains_eq_true_iff, follows.names, mem_distinct]

theorem Follows.refused {family : String} (taken : r.families.contains family = true) (c : C) :
    r.Follows lists (events ++ [.register family c]) := by
  -- The name has come before, and so neither its place nor its first class is another one.
  refine ⟨?_, fun other => ?_, fun k => ?_⟩
  · rw [registrations_register, List.map_append, List.map_singleton, distinct_concat,
      if_pos (follows.registered_iff.1 taken), follows.names]
  · rw [registrations_register, List.find?_append, Option.map_or, ← follows.classes]
    by_cases same : family = other
    · obtain ⟨first, found⟩ := OrderedMap.contains_iff_exists.1 taken
      rw [← same, found]
      rfl
    · simp [same]
  · rw [follows.lists, List.reverse_append]
    rfl

theorem Follows.accepted {family : String} (free : r.families.contains family = false) (c : C) :
    Follows lists (events ++ [.register family c])
      { r with families := r.families.insert family c } := by
  have new : family ∉ (registrations events).map (·.1) := by
    rw [← follows.registered_iff, free]
    exact Bool.false_ne_true
  have absent : r.families.get? family = none := by
    simpa [OrderedMap.contains_eq_isSome] using free
  refine ⟨?_, fun other => ?_, fun k => ?_⟩
  · rw [registrations_register, List.map_append, List.map_singleton, distinct_concat, if_neg new,
      OrderedMap.keys_insert, free, follows.names]
    rfl
  · rw [registrations_register, List.find?_append, Option.map_or, ← follows.classes, OrderedMap.get?_insert]
    by_cases same : family = other
    · simp [← same, absent]
    · simp [same]
  · rw [follows.lists, List.reverse_append]
    rfl

theorem Follows.step (event : Event C) : (r.step event).Follows lists (events ++ [event]) := by
  cases event with
  | relist c parts => exact follows.relist c parts
  | register family c =>
    rw [Registry.step, run_register]
    cases known : r.families.contains family with
    | true => exact follows.refused known c
    | false => exact follows.accepted known c

end Follows

theorem follows_after (lists : C → List String) (events : List (Event C)) :
    (after lists events).Follows lists events := by
  induction events using List.reverseRecOn with
  | nil => exact ⟨rfl, fun _ => rfl, fun _ => rfl⟩
  | append_singleton before event ih =>
    rw [after, List.foldl_concat]
    exact ih.step event

end Run

/-! The lookups of a registry. -/

/-- The index of all parts cannot be made, or a part is not in it: all three lookups say so. -/
structure Refuses (construct : C → String → Except ε D) (r : Registry C) (part : String)
    (fault : CatalogueFault) : Prop where
  family : r.familyOf part = .error fault
  cls : r.classOf part = .error (.catalogue fault)
  device : r.create construct part = .error (.lookup (.catalogue fault))

/-- The part leads to the family, to its class, and to what the class constructs for it. -/
structure Serves (construct : C → String → Except ε D) (r : Registry C) (part family : String)
    (c : C) : Prop where
  family : r.familyOf part = .ok family
  cls : r.classOf part = .ok c
  device : r.create construct part = (construct c part).mapError .construction

section Lookups

variable (construct : C → String → Except ε D) {part family : String} {c : C}

theorem refuses_of_familyOf {fault : CatalogueFault} (refused : r.familyOf part = .error fault) :
    Refuses construct r part fault := by
  have cls : r.classOf part = .error (.catalogue fault) := by
    rw [classOf, refused]
    rfl
  refine ⟨refused, cls, ?_⟩
  rw [create, cls]
  rfl

theorem serves_of_familyOf (found : r.familyOf part = .ok family)
    (member : (family, c) ∈ r.families.entries) : Serves construct r part family c := by
  have cls : r.classOf part = .ok c := by
    rw [classOf, found]
    simp only [Except.mapError, ok_bind, OrderedMap.get?_of_mem member]
    rfl
  refine ⟨found, cls, ?_⟩
  rw [create, cls]
  rfl

theorem exists_partIndex (once : r.listed.Nodup) :
    ∃ index, r.catalogue.partIndex = .ok index ∧ index.entries = r.catalogue.claims ∧
      index.keys = r.listed := by
  obtain ⟨index, made, entries⟩ := r.catalogue.exists_partIndex (r.map_claims ▸ once)
  exact ⟨index, made, entries, by rw [OrderedMap.keys, entries, map_claims]⟩

theorem parts_eq (once : r.listed.Nodup) : r.parts = .ok r.listed := by
  obtain ⟨index, made, _, keys⟩ := exists_partIndex once
  rw [parts, Catalogue.parts, made, ← keys]
  rfl

theorem familyOf_of_not_mem (once : r.listed.Nodup) (absent : part ∉ r.listed) :
    r.familyOf part = .error (.unknownPart part r.listed) := by
  obtain ⟨index, made, _, keys⟩ := exists_partIndex once
  have missing : index.get? part = none := by
    rw [← keys, ← OrderedMap.contains_eq_true_iff] at absent
    simpa [OrderedMap.contains_eq_isSome] using absent
  rw [familyOf, Catalogue.familyOf, made, ok_bind, missing, keys]
  rfl

theorem exists_owner (once : r.listed.Nodup) (held : part ∈ r.listed) :
    ∃ family c, (family, c) ∈ r.families.entries ∧ r.familyOf part = .ok family ∧
      ∀ e ∈ r.families.entries, part ∈ r.lists e.2 ↔ e = (family, c) := by
  obtain ⟨index, made, entries, _⟩ := exists_partIndex once
  obtain ⟨⟨family, c⟩, member, lists⟩ := List.mem_flatMap.1 held
  have lookup {other : String} {k : C} (present : (other, k) ∈ r.families.entries)
      (also : part ∈ r.lists k) : index.get? part = some other :=
    OrderedMap.get?_eq_some_iff.2 (entries ▸ mem_claims_iff.2 ⟨k, present, also⟩)
  refine ⟨family, c, member, ?_, fun e present => ⟨fun also => ?_, ?_⟩⟩
  · rw [familyOf, Catalogue.familyOf, made, ok_bind, lookup member lists]
    rfl
  · -- Two families that list the part would be two answers of the index, and two classes of one
    -- family two values under its name.
    obtain ⟨other, k⟩ := e
    have same : other = family :=
      Option.some.inj ((lookup present also).symm.trans (lookup member lists))
    subst same
    have value := OrderedMap.get?_of_mem present
    rw [OrderedMap.get?_of_mem member] at value
    rw [Option.some.inj value]
  · rintro rfl
    exact lists

end Lookups

/-- What the lookups of a registry answer. They fail together where a part is listed twice.
Otherwise they know the listed parts and no others, and agree on the one family that lists a part. -/
structure Answers (construct : C → String → Except ε D) (r : Registry C) : Prop where
  parts : r.listed.Nodup → r.parts = .ok r.listed
  claimed_twice : ¬ r.listed.Nodup → ∃ part first second,
    (part, first) ∈ r.catalogue.claims ∧ (part, second) ∈ r.catalogue.claims ∧
      r.parts = .error (.partClaimedTwice part first second) ∧
      ∀ asked, Refuses construct r asked (.partClaimedTwice part first second)
  unknown : r.listed.Nodup → ∀ part ∉ r.listed,
    Refuses construct r part (.unknownPart part r.listed)
  served : r.listed.Nodup → ∀ part ∈ r.listed, ∃ family c,
    (∀ e ∈ r.families.entries, part ∈ r.lists e.2 ↔ e = (family, c)) ∧
      (family, c) ∈ r.families.entries ∧ Serves construct r part family c
  /-- Where the classes can be built for the parts that they list, whatever is listed is created. -/
  created : r.listed.Nodup →
    (∀ e ∈ r.families.entries, ∀ part ∈ r.lists e.2, ∃ d, construct e.2 part = .ok d) →
      ∀ part, (∃ d, r.create construct part = .ok d) ↔ part ∈ r.listed

theorem answers (construct : C → String → Except ε D) (r : Registry C) : r.Answers construct := by
  have unknown : r.listed.Nodup → ∀ part ∉ r.listed,
      Refuses construct r part (.unknownPart part r.listed) := fun once _ absent =>
    refuses_of_familyOf construct (familyOf_of_not_mem once absent)
  have served : r.listed.Nodup → ∀ part ∈ r.listed, ∃ family c,
      (∀ e ∈ r.families.entries, part ∈ r.lists e.2 ↔ e = (family, c)) ∧
        (family, c) ∈ r.families.entries ∧ Serves construct r part family c := by
    intro once part held
    obtain ⟨family, c, member, found, only⟩ := exists_owner once held
    exact ⟨family, c, only, member, serves_of_familyOf construct found member⟩
  refine ⟨parts_eq, fun again => ?_, unknown, served, fun once builds part => ⟨?_, ?_⟩⟩
  · obtain ⟨before, part, first, second, after, split, _, earlier, stopped⟩ :=
      r.catalogue.exists_claimed_twice (r.map_claims ▸ again)
    refine ⟨part, first, second, by simp [split, earlier], by simp [split], ?_,
      fun asked => refuses_of_familyOf construct ?_⟩
    · rw [Registry.parts, Catalogue.parts, stopped]
      rfl
    · rw [familyOf, Catalogue.familyOf, stopped]
      rfl
  · rintro ⟨d, made⟩
    by_contra absent
    rw [(unknown once part absent).device] at made
    cases made
  · intro held
    obtain ⟨family, c, only, member, serves⟩ := served once part held
    obtain ⟨d, made⟩ := builds _ member part ((only _ member).2 rfl)
    exact ⟨d, by rw [serves.device, made]; rfl⟩

/-- After every run of registrations and changes, whatever was refused: the registry has the first
class under every name and the last list of every class, refuses a name exactly where it is taken,
and answers every lookup by the lists as they are. -/
theorem answers_after [DecidableEq C] (lists : C → List String) (events : List (Event C))
    (construct : C → String → Except ε D) :
    (after lists events).Follows lists events ∧ (after lists events).Admits ∧
      (after lists events).Answers construct :=
  ⟨follows_after lists events, admits _, answers construct _⟩

/-! A part that two classes list until one of them stops. The last registration is refused. -/

def sampleLists (c : String) : List String :=
  if c = "Dummy" then ["DUMMY064", "DUMMY100"] else []

def sampleEvents : List (Event String) := [
  .register "dummy" "Dummy", .register "other" "Other", .relist "Other" ["DUMMY064"],
  .register "dummy" "Other", .relist "Dummy" ["DUMMY100"]]

def sampleConstruct (c part : String) : Except Unit (String × String) :=
  if part ∈ (after sampleLists sampleEvents).lists c then .ok (c, part) else .error ()

theorem answers_after_sample :
    (∀ asked, Refuses sampleConstruct (after sampleLists (sampleEvents.take 3)) asked
      (.partClaimedTwice "DUMMY064" "dummy" "other")) ∧
    (after sampleLists sampleEvents).parts = .ok ["DUMMY100", "DUMMY064"] ∧
    Serves sampleConstruct (after sampleLists sampleEvents) "DUMMY064" "other" "Other" ∧
    ∃ d, (after sampleLists sampleEvents).create sampleConstruct "DUMMY064" = .ok d := by
  obtain ⟨_, _, early⟩ := answers_after sampleLists (sampleEvents.take 3) sampleConstruct
  obtain ⟨_, _, late⟩ := answers_after sampleLists sampleEvents sampleConstruct
  have once : (after sampleLists sampleEvents).listed.Nodup := by decide
  have held : "DUMMY064" ∈ (after sampleLists sampleEvents).listed := by decide
  have member : ("other", "Other") ∈ (after sampleLists sampleEvents).families.entries := by decide
  obtain ⟨part, first, second, _, _, parts, refuses⟩ := early.claimed_twice (by decide)
  obtain ⟨family, c, only, _, serves⟩ := late.served once _ held
  refine ⟨?_, late.parts once, ?_, (late.created once ?_ _).2 held⟩
  · have evaluated : (after sampleLists (sampleEvents.take 3)).parts =
        .error (.partClaimedTwice "DUMMY064" "dummy" "other") := rfl
    rw [evaluated] at parts
    cases parts
    exact refuses
  · cases (only _ member).1 (by decide)
    exact serves
  · intro e _ part listed
    exact ⟨_, if_pos listed⟩

end Registry
end ConfigWords
