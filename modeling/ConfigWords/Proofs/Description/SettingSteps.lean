import ConfigWords.Proofs.Description.Declarations
import ConfigWords.Proofs.Description.Steps

/-! The steps of reading the settings.
A number that cannot be read or written out is a fault of its entry, so only an infinite number
stops the settings with a number fault. The entries before it have been added to the catalogue and
the layout by then. -/
namespace ConfigWords.Description

def fieldStep (registers : Registers) (options field : Tree) : Step :=
  match options with
  | .mapping labels => .all [
      .under field "register" fun name =>
        .check (∃ register, name = .scalar register ∧ registers.contains register = true),
      .under field "name" .text, .under field "bit_start" .number,
      .under field "bit_width" .number,
      .all (labels.map fun e => .all [.text (.scalar e.1), .number e.2])]
  | .scalar _ | .list _ => .check False

def valueOr (tree : Tree) (key : String) (default : Tree) : Tree :=
  match tree with
  | .mapping entries => (Tree.lookup entries key).getD default
  | .scalar _ | .list _ => default

def placeStep (registers : Registers) (entry options : Tree) : Step :=
  .all [
    .check ((valueOr entry "informational" (.bool false)).truth ≠
      isPresent (valueOr entry "field" .null)),
    if isPresent (valueOr entry "field" .null) then
      fieldStep registers options (valueOr entry "field" .null)
    else .all []]

def settingStep (registers : Registers) (entry : Tree) : Step :=
  .all [.under entry "index" .number, .under entry "options" (placeStep registers entry)]

/-- The entries declare settings and fields that go together. A number that is not a fault of its
entry stops the settings, if the entries before it do. -/
def settingsStep (registers : Registers) (part : Tree) : Step :=
  ⟨∃ items found, part.items = .ok items ∧ DeclareAll registers items found,
    fun n => n.isValue = false ∧ ∃ before entry after found,
      part.items = .ok (before ++ entry :: after) ∧ DeclareAll registers before found ∧
        (settingStep registers entry).stopped n⟩

theorem optional_mapping (entries : List (Scalar × Tree)) (key : String) (default : Tree) :
    (Tree.mapping entries).optional key default = pure (valueOr (.mapping entries) key default) :=
  rfl

theorem blameEntry_eq_number_iff {fault : DescriptionFault} {n : NumberFault} :
    blameEntry fault = .number n ↔ fault = .number n ∧ n.isValue = false := by
  cases fault with
  | number m =>
    unfold blameEntry
    dsimp only
    cases value : m.isValue <;> simp <;> rintro rfl <;> simp [value]
  | entry cause =>
    unfold blameEntry
    dsimp only
    split <;> simp
  | _ => simp [blameEntry]

theorem follows_readTarget (index : Int) (registers : Registers) (name : Tree) :
    Follows (readTarget index registers name)
      (.check (∃ register, name = .scalar register ∧ registers.contains register = true)) := by
  cases name with
  | scalar register =>
    unfold readTarget
    dsimp only
    split
    · exact follows_ok_iff.2 ⟨⟨register, rfl, ‹_›⟩, fun _ => id⟩
    · rename_i foreign
      refine follows_refused ?_ rfl
      rintro ⟨_, same, declared⟩
      cases same
      exact foreign declared
  | list _ => exact follows_refused (by simp) rfl
  | mapping _ => exact follows_refused (by simp) rfl

theorem follows_checkKind (index : Int) (informational : Bool) (field : Tree) :
    Follows (checkKind index informational field) (.check (informational ≠ isPresent field)) := by
  unfold checkKind
  by_cases same : informational = isPresent field
  · rw [if_pos (beq_iff_eq.2 same)]
    exact follows_refused (fun differ => differ same) rfl
  · rw [if_neg (by simpa using same)]
    exact follows_ok_iff.2 ⟨same, fun _ => id⟩

theorem follows_readValues (labels : List (Scalar × Tree)) :
    Follows (readValues labels)
      (.all (labels.map fun e => .all [.text (.scalar e.1), .number e.2])) := by
  unfold readValues
  refine .map _ (follows_mapM labels fun e => ?_)
  refine (follows_written (.scalar e.1)).seq fun label _ => Follows.single ?_
  exact (follows_integer e.2).map _

/-! What is read after the numbers of an entry does not stop with a number that is not the fault of
a value. -/

section Quiet

variable {α β : Type} {n : NumberFault} {x : Except DescriptionFault α}

theorem quiet_pure (a : α) : Quiet n (pure a) := fun stop => by cases stop

theorem quiet_refused {fault : DescriptionFault} (reported : fault.failure?.isSome = true) :
    Quiet n (.error fault : Except DescriptionFault α) :=
  fun stop => ne_number_of_reported reported n (Except.error.inj stop)

theorem Quiet.bind {f : α → Except DescriptionFault β} (first : Quiet n x)
    (later : ∀ a, Quiet n (f a)) : Quiet n (x >>= f) := by
  intro stop
  rcases bind_eq_error.1 stop with here | ⟨a, _, there⟩
  · exact first here
  · exact later a there

theorem quiet_mapM {f : α → Except DescriptionFault β} {xs : List α}
    (each : ∀ x, Quiet n (f x)) : Quiet n (xs.mapM f) := by
  intro stop
  obtain ⟨x, _, here⟩ := exists_mem_of_mapM_eq_error stop
  exact each x here

theorem quiet_mapError {ε : Type} {y : Except ε α} {f : ε → DescriptionFault}
    (reported : ∀ cause, (f cause).failure?.isSome = true) : Quiet n (y.mapError f) := by
  intro stop
  obtain ⟨cause, _, same⟩ := mapError_eq_error.1 stop
  exact ne_number_of_reported (reported cause) n same

theorem quiet_entries (tree : Tree) : Quiet n tree.entries := by
  cases tree with
  | mapping entries => exact quiet_pure entries
  | scalar _ => exact quiet_refused rfl
  | list _ => exact quiet_refused rfl

theorem quiet_items (tree : Tree) : Quiet n tree.items := by
  unfold Tree.items
  split
  · exact quiet_pure _
  · exact quiet_pure _
  · exact quiet_pure _
  · exact quiet_refused rfl

theorem quiet_required (tree : Tree) (key : String) : Quiet n (tree.required key) := by
  unfold Tree.required
  refine (quiet_entries tree).bind fun entries => ?_
  split
  · exact quiet_pure _
  · exact quiet_refused rfl

theorem quiet_optional (tree : Tree) (key : String) (default : Tree) :
    Quiet n (tree.optional key default) :=
  (quiet_entries tree).bind fun _ => quiet_pure _

variable (kind : n.isValue = false)

include kind

theorem quiet_written (tree : Tree) : Quiet n tree.written := by
  intro stop
  obtain ⟨_, rfl⟩ := ((follows_written tree).stopped n).1 stop
  cases kind

theorem quiet_requiredText (tree : Tree) (key : String) : Quiet n (tree.requiredText key) :=
  (quiet_required tree key).bind (quiet_written kind)

theorem quiet_optionalText (tree : Tree) (key default : String) :
    Quiet n (tree.optionalText key default) :=
  (quiet_optional tree key _).bind (quiet_written kind)

theorem quiet_readPragmas (index : Int) (part : Tree) : Quiet n (readPragmas index part) := by
  unfold readPragmas
  split
  · exact quiet_pure _
  · refine (quiet_entries part).bind fun entries => ?_
    refine Quiet.bind (quiet_mapM fun e => ?_) fun pragmas => ?_
    · unfold readPragma
      split
      · exact quiet_pure _
      · exact quiet_refused rfl
    · exact Quiet.bind (quiet_mapM fun e => quiet_written kind _) fun _ => quiet_pure _

theorem quiet_readLabels (options : Tree) (field : Option Field) :
    Quiet n (readLabels options field) := by
  cases field with
  | some f => exact quiet_pure _
  | none => exact (quiet_items options).bind fun _ => quiet_mapM fun _ => quiet_written kind _

end Quiet

section Settings

variable {n : NumberFault} (kind : n.isValue = false)

include kind

theorem stopsAt_readField (index : Int) (registers : Registers) (entry options field : Tree) :
    StopsAt n (readField index registers entry options field)
      (fieldStep registers options field) := by
  unfold readField fieldStep
  cases options with
  | scalar _ => exact stopsAt_refused rfl
  | list _ => exact stopsAt_refused rfl
  | mapping labels =>
    have target := follows_required field "register" (follows_readTarget index registers)
    refine .assoc (target.seq_stopsAt fun register _ => ?_)
    refine (follows_requiredText field "name").seq_stopsAt fun name _ => ?_
    refine (follows_requiredInt field "bit_start").seq_stopsAt fun start _ => ?_
    refine (follows_requiredInt field "bit_width").seq_stopsAt fun width _ => ?_
    refine StopsAt.quiet ((follows_readValues labels).single.stopped n) fun values => ?_
    refine (quiet_optional entry "pragmas" .null).bind fun part => ?_
    refine (quiet_readPragmas kind index part).bind fun pragmas => ?_
    exact quiet_mapError fun _ => rfl

theorem stopsAt_readMapped (index : Int) (registers : Registers) (entry options field : Tree) :
    StopsAt n (readMapped index registers entry options field)
      (if isPresent field then fieldStep registers options field else .all []) := by
  unfold readMapped
  cases isPresent field with
  | true =>
    have stops := stopsAt_readField kind index registers entry options field
    exact stops.quiet fun f => quiet_pure (some f)
  | false => exact (follows_pure none).stopped n

theorem stopsAt_readSetting (registers : Registers) (entry : Tree) :
    StopsAt n (readSetting registers entry) (settingStep registers entry) := by
  unfold readSetting settingStep
  refine (follows_requiredInt entry "index").seq_stopsAt fun index read => ?_
  refine StopsAt.single (stopsAt_required entry "options" fun options => ?_)
  cases entry with
  | scalar _ => cases read
  | list _ => cases read
  | mapping entries =>
    rw [optional_mapping, pure_bind, optional_mapping, pure_bind]
    refine (follows_checkKind index _ _).seq_stopsAt fun _ _ => StopsAt.single ?_
    refine (stopsAt_readMapped kind index registers _ options _).quiet fun mapped => ?_
    refine (quiet_readLabels kind options mapped).bind fun labels => ?_
    refine (quiet_requiredText kind _ "name").bind fun name => ?_
    refine (quiet_optionalText kind _ "category" _).bind fun category => ?_
    refine (quiet_requiredText kind _ "default").bind fun default => ?_
    refine (quiet_optionalText kind _ "description" _).bind fun description => ?_
    exact Quiet.bind (quiet_mapError fun _ => rfl) fun setting => quiet_pure _

theorem stopsAt_placeSetting (registers : Registers) (tables : Schema × Layout) (entry : Tree) :
    StopsAt n (placeSetting registers tables entry) (settingStep registers entry) := by
  unfold placeSetting
  refine (stopsAt_readSetting kind registers entry).quiet ?_
  rintro ⟨setting, field⟩
  refine Quiet.bind (quiet_mapError fun _ => rfl) fun schema => ?_
  cases field with
  | none => exact quiet_pure _
  | some f => exact Quiet.bind (quiet_mapError fun _ => rfl) fun layout => quiet_pure _

end Settings

theorem addSetting_eq_number_iff {registers : Registers} {tables : Schema × Layout} {entry : Tree}
    {n : NumberFault} :
    addSetting registers tables entry = .error (.number n) ↔
      n.isValue = false ∧ (settingStep registers entry).stopped n := by
  unfold addSetting
  rw [mapError_eq_error]
  constructor
  · rintro ⟨cause, stop, blamed⟩
    obtain ⟨rfl, kind⟩ := blameEntry_eq_number_iff.1 blamed
    exact ⟨kind, (stopsAt_placeSetting kind registers tables entry).1 stop⟩
  · rintro ⟨kind, stop⟩
    exact ⟨_, (stopsAt_placeSetting kind registers tables entry).2 stop,
      blameEntry_eq_number_iff.2 ⟨rfl, kind⟩⟩

theorem foldlM_addSetting_passed_iff {registers : Registers} {items : List Tree} :
    (∃ tables, items.foldlM (addSetting registers) (Schema.empty, Layout.empty) = .ok tables) ↔
      ∃ found, DeclareAll registers items found := by
  simp only [foldlM_addSetting_eq_ok_iff]
  constructor
  · rintro ⟨tables, found, all, _⟩
    exact ⟨found, all⟩
  · rintro ⟨found, all⟩
    obtain ⟨tables, collected⟩ := all.collected
    exact ⟨tables, found, all, collected⟩

theorem follows_readSettings (registers : Registers) (part : Tree) :
    Follows (readSettings registers part) (settingsStep registers part) := by
  constructor
  · simp only [readSettings, settingsStep, bind_eq_ok, exists_and_left,
      ← foldlM_addSetting_passed_iff]
    rw [exists_comm]
    simp only [exists_and_left]
  · intro n
    unfold StopsAt readSettings settingsStep
    rw [bind_eq_error]
    constructor
    · rintro (stop | ⟨items, reach, stop⟩)
      · exact (quiet_items part stop).elim
      · obtain ⟨before, entry, after, tables, rfl, placed, stop⟩ := foldlM_eq_error_iff.1 stop
        obtain ⟨kind, stop⟩ := addSetting_eq_number_iff.1 stop
        obtain ⟨found, all⟩ := foldlM_addSetting_passed_iff.1 ⟨tables, placed⟩
        exact ⟨kind, before, entry, after, found, reach, all, stop⟩
    · rintro ⟨kind, before, entry, after, found, reach, all, stop⟩
      obtain ⟨tables, placed⟩ := foldlM_addSetting_passed_iff.2 ⟨found, all⟩
      refine .inr ⟨_, reach, foldlM_eq_error_iff.2 ⟨before, entry, after, tables, rfl, placed, ?_⟩⟩
      exact addSetting_eq_number_iff.2 ⟨kind, stop⟩

end ConfigWords.Description
