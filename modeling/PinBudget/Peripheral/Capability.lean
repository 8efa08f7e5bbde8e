import PinBudget.Dict
import PinBudget.Peripheral.Kind
import PinBudget.Pin.Basic

/-!
What each pin of the board can do for each kind of peripheral. A pin without an entry in a kind's
table cannot serve that kind.
-/
namespace PinBudget

/-- One use of a pin by a peripheral. -/
structure Capability where
  register : String
  function : Option String := none
  channel : Option Int := none
  name : Option String := none
  group : Option String := none
  units : List Int := []
  module : Option String := none
  remappable : Bool := false
  deriving DecidableEq, Repr

namespace Capability

/-- The units of an entry, as messages show them. -/
def unitLabel (entry : Capability) : String :=
  "/".intercalate (entry.units.map toString)

end Capability

/-- The pins that serve a kind, with their entries. -/
abbrev CapabilityTable := Dict Pin (List Capability)

namespace CapabilityTable

private def a (number : Fin 5) : Pin := ⟨.a, number.val, number.isLt⟩

private def b (number : Fin 16) : Pin := ⟨.b, number.val, number.isLt⟩

private def analog (pin : Pin) (channel : Nat) : Pin × List Capability :=
  (pin, [{ register := pin.register, channel := some channel, name := some s!"AN{channel}" }])

/-- Analog inputs, by channel. -/
def adc : CapabilityTable :=
  [analog (a 0) 0, analog (a 1) 1, analog (b 0) 2, analog (b 1) 3, analog (b 2) 4,
    analog (b 3) 5, analog (b 15) 9, analog (b 14) 10, analog (b 13) 11, analog (b 12) 12]

private def compareGroup (unit : Nat) (pins : List Pin) : CapabilityTable :=
  pins.map fun pin =>
    let entry : Capability :=
      { register := s!"RP{pin.port.name}{pin.number}"
        group := some s!"OC{unit}"
        units := [(unit : Int)] }
    (pin, [entry])

/-- Four output-compare units, each routed to one pin of its group. -/
def pwm : CapabilityTable :=
  compareGroup 1 [a 0, b 3, b 4, b 15, b 7] ++ compareGroup 2 [a 1, b 5, b 1, b 11, b 8] ++
    compareGroup 3 [a 3, b 14, b 0, b 10, b 9] ++ compareGroup 4 [a 2, b 6, a 4, b 13, b 2]

/-- Every physical pin is a digital pin. -/
def gpio : CapabilityTable :=
  Pin.all.map fun pin => (pin, [{ register := pin.register }])

private def serial (pin : Pin) (function : String) (units : List Int) : Capability :=
  { register := pin.register, function := some function, units := units }

private def bus (pin : Pin) (function : String) : Pin × List Capability :=
  (pin, [{ serial pin function [2] with module := some "I2C2" }])

/-- The one module that is wired, on fixed pins. -/
def i2c : CapabilityTable := [bus (b 2) "SDA", bus (b 3) "SCL"]

/-- The clock is fixed for each unit; the first unit has input pins of its own, and the second
shares its input pins with the output, which either unit can drive. -/
def spi : CapabilityTable :=
  ([a 1, b 1, b 5, b 8, b 11].map fun pin => (pin, [serial pin "SDI" [1]])) ++
    [(b 14, [serial (b 14) "SCK" [1]]), (b 15, [serial (b 15) "SCK" [2]])] ++
    ([a 2, b 2, b 6, b 13].map fun pin => (pin, [serial pin "SDI" [2], serial pin "SDO" [1, 2]])) ++
    [(a 4, [serial (a 4) "SDO" [1, 2]])]

private def transmitter (pin : Pin) (unit : Int) : Pin × List Capability :=
  (pin, [{ serial pin "TX" [unit] with remappable := true }])

/-- Receive pins of the two units, and the default transmit pin of each. -/
def uart : CapabilityTable :=
  ([a 2, b 6, a 4, b 13, b 2].map fun pin => (pin, [serial pin "RX" [1]])) ++
    ([a 1, b 5, b 1, b 11, b 8].map fun pin => (pin, [serial pin "RX" [2]])) ++
    [transmitter (b 4) 1, transmitter (b 9) 2]

def ofKind : Kind → CapabilityTable
  | .adc => adc
  | .pwm => pwm
  | .gpio => gpio
  | .i2c => i2c
  | .spi => spi
  | .uart => uart

end CapabilityTable

/-- The pins of a serial bus that the firmware uses when only a unit is given. -/
structure SpiPins where
  sck : Pin
  mosi : Pin
  miso : Pin
  deriving DecidableEq, Repr

def spiDefaults : List (Int × SpiPins) :=
  [(1, ⟨⟨.b, 14, by decide⟩, ⟨.b, 6, by decide⟩, ⟨.b, 5, by decide⟩⟩),
    (2, ⟨⟨.b, 15, by decide⟩, ⟨.b, 13, by decide⟩, ⟨.a, 2, by decide⟩⟩)]

/-- The pins that an SPI unit takes by default. -/
def SpiPins.ofUnit? (unit : Int) : Option SpiPins :=
  spiDefaults.lookup unit

structure UartPins where
  tx : Pin
  rx : Pin
  deriving DecidableEq, Repr

def uartDefaults : Dict Int UartPins :=
  [(1, ⟨⟨.b, 4, by decide⟩, ⟨.a, 4, by decide⟩⟩), (2, ⟨⟨.b, 9, by decide⟩, ⟨.b, 8, by decide⟩⟩)]

def baudRates : List Nat := [9600, 19200, 38400, 57600, 115200]

end PinBudget
