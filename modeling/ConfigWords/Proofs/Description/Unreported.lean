import ConfigWords.Description.Reading
import ConfigWords.Description.Sheet
import ConfigWords.Proofs.Description.Parts
import ConfigWords.Proofs.Description.SettingSteps

/-! Numbers that stop the reading of a description.
A number that cannot be read is a fault of its entry only inside the settings, and an infinite one
not even there. Everywhere else the reading stops with the number fault itself, which no failure
reports. -/
namespace ConfigWords.Description

/-- The steps of the whole reading: the registers, the settings, the name of the family, the parts,
the pin tables. -/
def descriptionStep (tree : Tree) : Step :=
  .all [.under tree "registers" registersStep,
    .given (do readRegisters (← tree.required "registers")) fun registers =>
      .under tree "settings" (settingsStep registers),
    .under tree "family" .text, .underIf tree "devices" variantsStep,
    .underIf tree "pps" pinsStep]

theorem follows_ofTree (tree : Tree) : Follows (ofTree tree) (descriptionStep tree) := by
  unfold ofTree descriptionStep
  cases tree with
  | scalar _ => exact .stop (follows_refused id rfl)
  | list _ => exact .stop (follows_refused id rfl)
  | mapping entries =>
    refine .assoc (.seq (follows_required _ _ follows_readRegisters) fun registers read => ?_)
    have settings := follows_required (.mapping entries) "settings" (follows_readSettings registers)
    refine .assoc (.seq (.given read settings) ?_)
    rintro ⟨schema, layout⟩ _
    refine (follows_requiredText _ "family").seq fun family _ => ?_
    refine .assoc (.seq ?_ fun variants _ => ?_)
    · exact follows_optional _ "devices" follows_readVariants (follows_pure OrderedMap.empty)
    obtain ⟨empty, built⟩ : ∃ pins, readPins (.mapping []) = .ok pins := ⟨_, rfl⟩
    refine Follows.single (.assoc (.map _ ?_))
    exact follows_optional _ "pps" follows_readPins (built ▸ follows_pure empty)

/-- The reading gives a description, or a fault that is reported as a failure. -/
def Reported (tree : Tree) : Prop :=
  (∃ d, ofTree tree = .ok d) ∨
    ∃ fault failure, ofTree tree = .error fault ∧ fault.failure? = some failure

theorem failure?_isSome_or (fault : DescriptionFault) :
    (∃ failure, fault.failure? = some failure) ∨ ∃ n, fault = .number n := by
  cases fault with
  | number n => exact .inr ⟨n, rfl⟩
  | _ => exact .inl ⟨_, rfl⟩

theorem not_reported {tree : Tree} {n : NumberFault} (stop : ofTree tree = .error (.number n)) :
    ¬ Reported tree := by
  rintro (⟨d, read⟩ | ⟨fault, failure, refused, shown⟩)
  · cases read.symm.trans stop
  · cases refused.symm.trans stop
    cases shown

/-- A tree is read or refused with a failure exactly if no step of the reading stops with a number
fault; and where one does, that fault is all that comes of it. -/
theorem ofTree_reported_iff (tree : Tree) :
    (Reported tree ↔ ∀ n, ¬ (descriptionStep tree).stopped n) ∧
      ∀ n, ofTree tree = .error (.number n) ↔ (descriptionStep tree).stopped n := by
  have stopped := (follows_ofTree tree).stopped
  refine ⟨?_, stopped⟩
  constructor
  · intro reported n stop
    exact not_reported ((stopped n).2 stop) reported
  · intro silent
    cases read : ofTree tree with
    | ok d => exact .inl ⟨d, read⟩
    | error fault =>
      rcases failure?_isSome_or fault with ⟨failure, shown⟩ | ⟨n, rfl⟩
      · exact .inr ⟨fault, failure, read, shown⟩
      · exact (silent n ((stopped n).1 read)).elim

open Sheet in
/-- The address of the register stands in quotes. -/
def quotedAddress : Tree :=
  record [
    ("family", .text "CLOCK"),
    ("registers", record [("CFG", record [("address", .text "0x1FC0FFC8")])]),
    ("settings", .list [])]

open Sheet in
/-- The index of the setting is an infinite float. -/
def endlessIndex : Tree :=
  record [
    ("family", .text "CLOCK"),
    ("registers", record [("CFG", registerTree 0x1FC0FFC8)]),
    ("settings", .list [record [("index", .scalar (.float (.infinite false)))]])]

theorem number_unreported : ¬ Reported quotedAddress ∧ ¬ Reported endlessIndex := by
  have unread : Numeral.read "0x1FC0FFC8" = .error (.badNumeral "0x1FC0FFC8") := by decide +kernel
  have stop : (descriptionStep quotedAddress).stopped (.badNumeral "0x1FC0FFC8") :=
    .inl (.inr ⟨rfl, .inl (.inl ⟨unread, by simp⟩)⟩)
  have first := ((follows_ofTree quotedAddress).stopped _).2 stop
  have second : ofTree endlessIndex = .error (.number .infinite) := rfl
  exact ⟨not_reported first, not_reported second⟩

end ConfigWords.Description
