import PinBudget.Fault
import PinBudget.Text.Blank
import PinBudget.Text.Upper

/-!
The six kinds of peripherals.
-/
namespace PinBudget

inductive Kind where
  | adc
  | pwm
  | gpio
  | i2c
  | spi
  | uart
  deriving DecidableEq, Repr

namespace Kind

/-- The class that source text constructs for the kind. -/
def name : Kind → String
  | adc => "ADC"
  | pwm => "PWM"
  | gpio => "GPIO"
  | i2c => "I2C"
  | spi => "SPI"
  | uart => "UART"

/-- Every kind, in the order of reports. -/
def all : List Kind := [adc, pwm, gpio, i2c, spi, uart]

def ofName? (name : String) : Option Kind :=
  all.find? fun kind => kind.name == name

/-- The kind that a text names, whatever its case and the blanks around it. -/
def parse (text : String) : Except Fault Kind :=
  match ofName? (Text.upperString (Text.trimString text)) with
  | some kind => .ok kind
  | none => .error (.unknownKind text)

end Kind

end PinBudget
