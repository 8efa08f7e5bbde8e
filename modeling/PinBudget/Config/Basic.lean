import PinBudget.Config.Quantity
import PinBudget.Config.Section
import PinBudget.Peripheral.Kind

/-!
The analyzer's configuration: limits of the board, cost constants and thresholds. Every number that
an estimate compares with stands here.
-/
namespace PinBudget

/-- Limits of the chip and of the virtual machine. -/
inductive HardwareKey where
  | name
  | flashSize
  | ramSize
  | cpuFrequency
  | busFrequency
  | vmCount
  | registerLimit
  | symbolLimit
  | reservedTimer
  | timerCount
  | interruptLevels
  | criticalLevels
  | consolePins
  deriving DecidableEq, Repr

/-- Byte costs by source shape, and limits on memory. Items cost their bytes for each comma, and the
`Line` costs are for each line with an array or a hash. -/
inductive MemoryKey where
  | integer
  | floating
  | textOverhead
  | arrayBase
  | arrayItem
  | hashBase
  | hashItem
  | object
  | other
  | arrayLine
  | hashLine
  | textLimit
  | ramWarningRatio
  | ramErrorRatio
  deriving DecidableEq, Repr

/-- Millisecond costs and ceilings. -/
inductive TimingKey where
  | longDelay
  | executionLimit
  | blockingCall
  | loopOverhead
  | blockingMethods
  deriving DecidableEq, Repr

/-- The cost of one peripheral, and its usage thresholds. -/
inductive CostKey where
  | cpu
  | power
  | response
  | bottleneckAbove
  | bottleneckMessage
  | optimizationAbove
  | optimizationMessage
  deriving DecidableEq, Repr

/-- Thresholds for bytecode size and for the performance rating. -/
inductive LimitKey where
  | flashWarningRatio
  | flashErrorRatio
  | excellentBelow
  | goodBelow
  deriving DecidableEq, Repr

instance : SettingKey HardwareKey where
  all := [.name, .flashSize, .ramSize, .cpuFrequency, .busFrequency, .vmCount, .registerLimit,
    .symbolLimit, .reservedTimer, .timerCount, .interruptLevels, .criticalLevels, .consolePins]
  label
    | .name => "name"
    | .flashSize => "flash_size"
    | .ramSize => "ram_size"
    | .cpuFrequency => "cpu_frequency_hz"
    | .busFrequency => "peripheral_bus_hz"
    | .vmCount => "max_vm_count"
    | .registerLimit => "max_regs"
    | .symbolLimit => "max_symbols"
    | .reservedTimer => "reserved_timer"
    | .timerCount => "timer_count"
    | .interruptLevels => "interrupt_levels"
    | .criticalLevels => "critical_interrupt_levels"
    | .consolePins => "console_pins"
  isSequence key := key == .criticalLevels || key == .consolePins

instance : SettingKey MemoryKey where
  all := [.integer, .floating, .textOverhead, .arrayBase, .arrayItem, .hashBase, .hashItem, .object,
    .other, .arrayLine, .hashLine, .textLimit, .ramWarningRatio, .ramErrorRatio]
  label
    | .integer => "integer"
    | .floating => "floating"
    | .textOverhead => "string_overhead"
    | .arrayBase => "array_base"
    | .arrayItem => "array_per_element"
    | .hashBase => "hash_base"
    | .hashItem => "hash_per_entry"
    | .object => "object"
    | .other => "default"
    | .arrayLine => "array_line"
    | .hashLine => "hash_line"
    | .textLimit => "string_limit_bytes"
    | .ramWarningRatio => "ram_warning_ratio"
    | .ramErrorRatio => "ram_error_ratio"

instance : SettingKey TimingKey where
  all := [.longDelay, .executionLimit, .blockingCall, .loopOverhead, .blockingMethods]
  label
    | .longDelay => "long_delay_ms"
    | .executionLimit => "max_execution_ms"
    | .blockingCall => "blocking_io_ms"
    | .loopOverhead => "loop_overhead_ms"
    | .blockingMethods => "blocking_methods"
  isSequence key := key == .blockingMethods

instance : SettingKey CostKey where
  all := [.cpu, .power, .response, .bottleneckAbove, .bottleneckMessage, .optimizationAbove,
    .optimizationMessage]
  label
    | .cpu => "cpu_pct"
    | .power => "power_ma"
    | .response => "response_ms"
    | .bottleneckAbove => "bottleneck_above"
    | .bottleneckMessage => "bottleneck_message"
    | .optimizationAbove => "optimization_above"
    | .optimizationMessage => "optimization_message"

instance : SettingKey LimitKey where
  all := [.flashWarningRatio, .flashErrorRatio, .excellentBelow, .goodBelow]
  label
    | .flashWarningRatio => "flash_warning_ratio"
    | .flashErrorRatio => "flash_error_ratio"
    | .excellentBelow => "rating_excellent_below"
    | .goodBelow => "rating_good_below"

/-- All settings of the analyzer, and the mark that a bytecode file begins with. -/
structure Config where
  hardware : Section HardwareKey
  memory : Section MemoryKey
  timing : Section TimingKey
  peripherals : Kind → Section CostKey
  limits : Section LimitKey
  mark : List UInt8

namespace Config

private def standardHardware : Section HardwareKey
  | .name => .str "PIC32MX170F256B"
  | .flashSize => .nat (256 * 1024)
  | .ramSize => .nat (64 * 1024)
  | .cpuFrequency => .nat 48000000
  | .busFrequency => .nat 48000000
  | .vmCount => .nat 5
  | .registerLimit => .nat 110
  | .symbolLimit => .nat 255
  | .reservedTimer => .nat 1
  | .timerCount => .nat 5
  | .interruptLevels => .nat 7
  | .criticalLevels => .arr [.nat 1, .nat 2]
  | .consolePins => .strs ["B4", "A4"]

private def standardMemory : Section MemoryKey
  | .integer => .nat 16
  | .floating => .nat 24
  | .textOverhead => .nat 24
  | .arrayBase => .nat 64
  | .arrayItem => .nat 16
  | .hashBase => .nat 128
  | .hashItem => .nat 32
  | .object => .nat 48
  | .other => .nat 16
  | .arrayLine => .nat 64
  | .hashLine => .nat 128
  | .textLimit => .nat 4096
  | .ramWarningRatio => .float 0.6
  | .ramErrorRatio => .float 0.8

private def standardTiming : Section TimingKey
  | .longDelay => .float 1000.0
  | .executionLimit => .float 10000.0
  | .blockingCall => .float 10.0
  | .loopOverhead => .float 5.0
  | .blockingMethods => .strs ["read", "transfer", "gets", "puts", "write"]

private def plainCost (cpu power response : Float) : Section CostKey
  | .cpu => .float cpu
  | .power => .float power
  | .response => .float response
  | .bottleneckAbove | .optimizationAbove => .null
  | .bottleneckMessage | .optimizationMessage => .str ""

/-- A cost with a threshold above which usage is a bottleneck. -/
private def withBottleneck (above : Nat) (message : String) (cost : Section CostKey) :
    Section CostKey :=
  (cost.set .bottleneckAbove (.nat above)).set .bottleneckMessage (.str message)

/-- A cost with a threshold above which an optimization is suggested. -/
private def withOptimization (above : Nat) (message : String) (cost : Section CostKey) :
    Section CostKey :=
  (cost.set .optimizationAbove (.nat above)).set .optimizationMessage (.str message)

private def standardCost : Kind → Section CostKey
  | .adc =>
    withBottleneck 5 "High ADC usage (\x7bcount\x7d calls) may impact performance"
      (withOptimization 5 "Consider using ADC interrupt mode for better performance"
        (plainCost 5.0 2.5 0.1))
  | .pwm =>
    withBottleneck 4 "All PWM units in use - no expansion possible" (plainCost 2.0 1.0 0.0)
  | .gpio =>
    withOptimization 15 "Consider port-based GPIO operations for better performance"
      (plainCost 0.5 0.1 0.0)
  | .i2c =>
    withBottleneck 2 "Multiple I2C operations (\x7bcount\x7d calls) may cause bus contention"
      (withOptimization 2 "Consider I2C transaction batching" (plainCost 15.0 5.0 10.0))
  | .spi => plainCost 8.0 3.0 1.0
  | .uart => plainCost 10.0 4.0 5.0

private def standardLimits : Section LimitKey
  | .flashWarningRatio => .float 0.6
  | .flashErrorRatio => .float 0.8
  | .excellentBelow => .float 50.0
  | .goodBelow => .float 75.0

private def asciiBytes (text : String) : List UInt8 :=
  text.toList.map fun c => UInt8.ofNat c.toNat

/-- The configuration of the board as it is sold. -/
def standard : Config :=
  { hardware := standardHardware
    memory := standardMemory
    timing := standardTiming
    peripherals := standardCost
    limits := standardLimits
    mark := asciiBytes "RITE" }

variable (config : Config)

/-- The RAM use above which a warning is due. -/
def ramWarningBytes : Except Fault Json :=
  product (config.hardware .ramSize) (config.memory .ramWarningRatio)

/-- The RAM use above which the program does not fit. -/
def ramErrorBytes : Except Fault Json :=
  product (config.hardware .ramSize) (config.memory .ramErrorRatio)

/-- The bytecode size above which a warning is due. -/
def flashWarningBytes : Except Fault Json :=
  product (config.hardware .flashSize) (config.limits .flashWarningRatio)

/-- The bytecode size above which the program does not fit. -/
def flashErrorBytes : Except Fault Json :=
  product (config.hardware .flashSize) (config.limits .flashErrorRatio)

end Config

end PinBudget
