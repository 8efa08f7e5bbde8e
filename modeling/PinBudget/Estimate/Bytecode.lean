import PinBudget.Config.Override
import PinBudget.Config.Setting
import PinBudget.Estimate.Finding

/-!
Compiled bytecode: the header's mark and the size that it states, compared with the flash memory.
-/
namespace PinBudget

namespace Bytecode

def sizeOffset : Nat := 8

/-- The bytes that a header has at least. -/
def headerSize : Nat := sizeOffset + 4

/-- The number of bytes with the least one first. -/
def littleEndian (bytes : List UInt8) : Nat :=
  bytes.foldr (fun byte number => byte.toNat + 256 * number) 0

def readSize (mark data : List UInt8) : Except Fault Nat :=
  if data.length < headerSize then .error (.headerTruncated data.length)
  else if !mark.isPrefixOf data then .error (.headerMissing (Config.markText mark))
  else .ok (littleEndian ((data.drop sizeOffset).take 4))

end Bytecode

/-- What is known of the bytecode of one source. -/
structure BytecodeCheck where
  sizeBytes : Option Nat := none
  flashPercent : Option Float := none
  findings : List Finding := []

namespace BytecodeCheck

def sizeFindings (config : Config) (sourceId : String) (size : Nat) :
    Except Fault (List Finding) := do
  let limit ← Config.number (← config.flashErrorBytes)
  if limit.less (.int size) then
    let allowed ← Numeral.shown (← limit.truncate)
    return [{
      severity := .error
      category := .bytecode
      message := s!"Bytecode too large: {size} bytes (max ~{allowed} bytes)"
      sourceId := sourceId }]
  else if (← Config.number (← config.flashWarningBytes)).less (.int size) then
    return [{
      severity := .warning
      category := .bytecode
      message := s!"Large bytecode: {size} bytes. Consider optimization."
      sourceId := sourceId }]
  else return []

/-- The check of a file's bytes. A malformed header is a finding. -/
def ofBytes (config : Config) (data : List UInt8) (sourceId : String) :
    Except Fault BytecodeCheck := do
  match Bytecode.readSize config.mark data with
  | .error fault =>
    return {
      findings := [{
        severity := .error
        category := .bytecode
        message := fault.message
        sourceId := sourceId }] }
  | .ok size =>
    let flash ← Config.number (config.hardware .flashSize)
    let percent ← Number.quotient (100.0 * Float.ofNat size) flash
    let findings ← sizeFindings config sourceId size
    return {
      sizeBytes := some size
      flashPercent := some (roundToPlaces 2 percent)
      findings := findings }

end BytecodeCheck

end PinBudget
