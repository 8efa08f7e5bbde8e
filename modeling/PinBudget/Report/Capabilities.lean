import PinBudget.Json.Basic
import PinBudget.Peripheral.Validator

/-!
What the board offers: the pins of each kind, and its channels or units where it has them.
-/
namespace PinBudget

namespace Report

private def channels (validator : Validator) : List Int :=
  match validator.channels with
  | .ok found => found.filterMap id
  | .error _ => []

/-- The heading of what a kind counts, its field name and the numbers themselves. -/
private def numbering? (validator : Validator) : Option (String × String × List Int) :=
  match validator.kind with
  | .adc => some ("Available channels", "channels", channels validator)
  | _ => validator.units?.map fun units => ("Available units", "units", units)

private def kindLines (validator : Validator) : List String :=
  let numbering := match numbering? validator with
    | some (heading, _, numbers) =>
      let listed := ", ".intercalate (numbers.map toString)
      [s!"  {heading}: {listed}"]
    | none => []
  [s!"{validator.kind.name}:"] ++ numbering ++ [s!"  Valid pins: {validator.validPinsText}"]

def capabilities : List String :=
  "RBoard hardware capabilities (PIC32MX170F256B)" ::
    Kind.all.flatMap fun kind => kindLines (Validator.standard kind)

private def kindDocument (validator : Validator) : Json :=
  let numbering := match numbering? validator with
    | some (_, field, numbers) => [(field, Json.arr (numbers.map .int))]
    | none => []
  .obj (("valid_pins", .strs (validator.validPins.map Pin.name)) :: numbering)

def capabilitiesDocument : Json :=
  .obj (Kind.all.map fun kind => (kind.name, kindDocument (Validator.standard kind)))

end Report

end PinBudget
