import ConfigWords.Description.Pins
import ConfigWords.Description.Settings
import ConfigWords.Proofs.Description.TableSteps

/-! The steps of reading the parts of a description outside the settings.
Each part is read by a few small readings, and each of these has its steps: which keys it looks
under, and whether what it finds is read as a number or written out. -/
namespace ConfigWords.Description

def registersStep (part : Tree) : Step :=
  .all [.check (part.truth = true), .entries part fun e => .under e.2 "address" .number]

def variantsStep (part : Tree) : Step :=
  .entries part fun e => .all [.under e.2 "pins" .number, .underIf e.2 "flash_kb" .number,
    .underIf e.2 "ram_kb" .number]

def groupPinStep (pin : Tree) : Step :=
  .all [.under pin "selector" .number, .under pin "pin" .text, .underIf pin "min_pins" .number]

def groupsStep (part : Tree) : Step :=
  .entries part fun e => .all [.number (.scalar e.1), .items e.2 groupPinStep]

def inputStep (input : Tree) : Step :=
  .all [.under input "group" .number, .underIf input "selectors" (.items · .number),
    .under input "signal" .text, .underIf input "register" .text,
    .underIf input "description" .text, .underIf input "category" .text]

def outputValueStep (value : Tree) : Step :=
  .all [.under value "selector" .number, .under value "signal" .text,
    .underIf value "description" .text, .underIf value "category" .text]

def outputGroupsStep (part : Tree) : Step :=
  .entries part fun e => .all [.number (.scalar e.1), .items e.2 outputValueStep]

/-- The group of output pins has signals; if not, the number of the group is written out. -/
def declaredStep (values : OrderedMap Int (List OutputValue)) (group : Int) : Step :=
  .shown (values.contains group = true) [group]

def outputPinsStep (values : OrderedMap Int (List OutputValue)) (e : Scalar × Tree) : Step :=
  .all [.number (.scalar e.1), .given (Tree.scalar e.1).integer (declaredStep values),
    .items e.2 .text]

theorem follows_readRegisters (part : Tree) :
    Follows (readRegisters part) (registersStep part) := by
  unfold readRegisters registersStep
  cases full : part.truth with
  | true =>
    refine .skip (a := ()) (follows_ok_iff.2 ⟨rfl, fun _ => id⟩) (Follows.single ?_)
    refine .assoc (.map _ (follows_entries part fun e => ?_))
    exact (follows_requiredInt e.2 "address").map _
  | false => exact .stop (follows_refused Bool.false_ne_true rfl)

theorem follows_readVariants (part : Tree) : Follows (readVariants part) (variantsStep part) := by
  unfold readVariants variantsStep
  refine .assoc (.map _ (follows_entries part fun e => ?_))
  refine (follows_requiredInt e.2 "pins").seq fun pins _ => ?_
  refine (follows_optionalInt e.2 "flash_kb" 0).seq fun flash _ => ?_
  exact ((follows_optionalInt e.2 "ram_kb" 0).map _).single

theorem follows_readGroupPin (pin : Tree) : Follows (readGroupPin pin) (groupPinStep pin) := by
  unfold readGroupPin groupPinStep
  refine (follows_requiredInt pin "selector").seq fun selector _ => ?_
  refine (follows_requiredText pin "pin").seq fun name _ => ?_
  exact ((follows_optionalInt pin "min_pins" 0).map _).single

theorem follows_readGroups (part : Tree) : Follows (readGroups part) (groupsStep part) := by
  unfold readGroups groupsStep
  refine follows_entries part fun e => ?_
  refine (follows_integer (.scalar e.1)).seq fun number _ => Follows.single ?_
  exact .assoc ((follows_items e.2 follows_readGroupPin).map _)

theorem follows_readInput (groups : List PinGroup) (input : Tree) :
    Follows (readInput groups input) (inputStep input) := by
  unfold readInput inputStep
  refine (follows_requiredInt input "group").seq fun group _ => ?_
  -- Nothing that follows asks which selectors were taken.
  have rest : ∀ selectors : List Int, Follows (do
      let signal ← input.requiredText "signal"
      let register ← input.optionalText "register" (signal ++ "R")
      let description ← input.optionalText "description" ""
      let category ← input.optionalText "category" "Other"
      return (⟨signal, register, group, selectors, description, category⟩ : InputSignal))
      (.all [.under input "signal" .text, .underIf input "register" .text,
        .underIf input "description" .text, .underIf input "category" .text]) := by
    intro selectors
    refine (follows_requiredText input "signal").seq fun signal _ => ?_
    refine (follows_optionalText input "register" _).seq fun register _ => ?_
    refine (follows_optionalText input "description" _).seq fun description _ => ?_
    exact ((follows_optionalText input "category" _).map _).single
  cases input with
  | mapping entries =>
    simp only [Tree.entries, bind, Except.bind, Step.underIf]
    cases Tree.lookup entries "selectors" with
    | some selectors =>
      exact .assoc ((follows_items selectors follows_integer).seq fun chosen _ => rest chosen)
    | none => exact .skip (follows_pure (selectorsOf groups group)) (rest _)
  | scalar _ => exact .stop (follows_refused id rfl)
  | list _ => exact .stop (follows_refused id rfl)

theorem follows_readOutputValue (value : Tree) :
    Follows (readOutputValue value) (outputValueStep value) := by
  unfold readOutputValue outputValueStep
  refine (follows_requiredInt value "selector").seq fun selector _ => ?_
  refine (follows_requiredText value "signal").seq fun signal _ => ?_
  refine (follows_optionalText value "description" _).seq fun description _ => ?_
  exact ((follows_optionalText value "category" _).map _).single

theorem follows_readOutputGroups (part : Tree) :
    Follows (readOutputGroups part) (outputGroupsStep part) := by
  unfold readOutputGroups outputGroupsStep
  refine .assoc (.map _ (follows_entries part fun e => ?_))
  refine (follows_integer (.scalar e.1)).seq fun number _ => Follows.single ?_
  exact .assoc ((follows_items e.2 follows_readOutputValue).map _)

theorem follows_readOutputPins (values : OrderedMap Int (List OutputValue)) (e : Scalar × Tree) :
    Follows (readOutputPins values e.1 e.2) (outputPinsStep values e) := by
  unfold readOutputPins outputPinsStep
  refine (follows_integer (.scalar e.1)).seq fun number read => ?_
  cases found : values.get? number with
  | none =>
    have missing : values.contains number = false := by simp [OrderedMap.contains_eq_isSome, found]
    refine .stop (.given read (follows_error_iff.2 ⟨Bool.eq_false_iff.1 missing, fun n => ?_⟩))
    rw [ofPins_eq_number_iff]
    simp [declaredStep, Step.shown, missing, PinFault.shown]
  | some group =>
    have declared : values.contains number = true := by simp [OrderedMap.contains_eq_isSome, found]
    have known : Follows (.ok group) (declaredStep values number) :=
      follows_ok_iff.2 ⟨declared, fun n stop => stop.2.1 declared⟩
    refine .skip (.given read known) (Follows.single ?_)
    exact follows_items e.2 fun pin => (follows_written pin).map _

def readLists (part : Tree) :
    Except DescriptionFault (List PinGroup × List InputSignal × List OutputPin) := do
  let groups ← readGroups (← part.optional "groups" (.mapping []))
  let inputs ← (← (← part.optional "inputs" (.list [])).items).mapM (readInput groups)
  let values ← readOutputGroups (← part.optional "output_groups" (.mapping []))
  let outputs ← (← (← part.optional "outputs" (.mapping [])).entries).mapM fun e =>
    readOutputPins values e.1 e.2
  return (groups, inputs, outputs.flatten)

def listsStep (part : Tree) : Step :=
  .all [.underIf part "groups" groupsStep, .underIf part "inputs" (.items · inputStep),
    .underIf part "output_groups" outputGroupsStep,
    .given (do readOutputGroups (← part.optional "output_groups" (.mapping []))) fun values =>
      .underIf part "outputs" (.entries · (outputPinsStep values))]

def pinsStep (part : Tree) : Step :=
  .all [listsStep part, .given (readLists part) fun lists =>
    tablesStep lists.1 lists.2.1 lists.2.2]

theorem readPins_eq (part : Tree) :
    readPins part = readLists part >>= fun lists =>
      (PinTables.build lists.1 lists.2.1 lists.2.2).mapError .ofPins := by
  simp only [readPins, readLists, bind_assoc, pure_bind]

theorem follows_readLists (part : Tree) : Follows (readLists part) (listsStep part) := by
  unfold readLists listsStep
  refine .assoc (.seq ?_ fun groups _ => ?_)
  · exact follows_optional part "groups" follows_readGroups (follows_pure [])
  refine .assoc (.assoc (.seq ?_ fun inputs _ => ?_))
  · have each := fun list => follows_items list (follows_readInput groups)
    rw [bind_assoc]
    exact follows_optional part "inputs" each (follows_pure [])
  refine .assoc (.seq ?_ fun values read => Follows.single (.given read ?_))
  · exact follows_optional part "output_groups" follows_readOutputGroups
      (follows_pure OrderedMap.empty)
  refine .assoc (.assoc (.map _ ?_))
  have each := fun pins => follows_entries pins (follows_readOutputPins values)
  rw [bind_assoc]
  exact follows_optional part "outputs" each (follows_pure [])

theorem follows_readPins (part : Tree) : Follows (readPins part) (pinsStep part) := by
  rw [readPins_eq]
  refine (follows_readLists part).seq fun lists read => Follows.single (.given read ?_)
  exact follows_build _ _ _

end ConfigWords.Description
