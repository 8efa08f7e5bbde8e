import PinBudget.Config.Basic
import PinBudget.Json.Printer
import PinBudget.Text.Printable

/-!
Configurations as JSON documents: an override replaces the settings that it names, and the document
of a configuration names all of them.
-/
namespace PinBudget

namespace Config

/-- Where a text first leaves ASCII: the first and the last position of that stretch, and its first
character. -/
def beyondAscii? (text : List Char) : Option (Nat × Nat × Char) :=
  let (ascii, rest) := text.span fun c => c.toNat < 128
  match rest with
  | [] => none
  | c :: _ =>
    let stretch := rest.takeWhile fun other => 128 ≤ other.toNat
    some (ascii.length, ascii.length + stretch.length - 1, c)

/-- The numbered form of a character beyond ASCII. -/
def numbered (c : Char) : String :=
  let (letter, width) :=
    if c.toNat < 0x100 then ('x', 2) else if c.toNat < 0x10000 then ('u', 4) else ('U', 8)
  String.ofList ('\\' :: letter :: Text.hexPadded width c.toNat)

def ascii (text : String) : Except Fault (List UInt8) :=
  match beyondAscii? text.toList with
  | some (first, last, c) => .error (.notAscii first last (numbered c))
  | none => .ok (text.toList.map fun c => UInt8.ofNat c.toNat)

private def byte (json : Json) : Except Fault UInt8 :=
  match json with
  | .number (.int n) =>
    if 0 ≤ n && n < 256 then .ok (UInt8.ofNat n.toNat) else .error .markByteOutOfRange
  | .bool value => .ok (if value then 1 else 0)
  | _ => .error .wrongType

/-- The zero bytes that a mark can have by its length alone. -/
private def lengthLimit : Int := (Nat.pow 2 63 : Nat) - 34

def zeros (count : Int) : Except Fault (List UInt8) :=
  if count < 0 then
    if count < -(Nat.pow 2 63 : Nat) then .error .overflow else .error .negativeMarkLength
  else if lengthLimit < count then .error .overflow
  else if memoryLimit < count then .error .outOfMemory
  else .ok (List.replicate count.toNat 0)

/-- The bytes that a setting gives: an ASCII text, a list of byte values, or a number of zero
bytes. -/
def markOf : Json → Except Fault (List UInt8)
  | .str text => ascii text
  | .arr items => items.mapM byte
  | .number (.int count) => zeros count
  | .bool value => zeros (if value then 1 else 0)
  | .obj [] => .ok []
  | .null | .number (.float _) | .obj (_ :: _) => .error .wrongType

/-- The bytes as text; what is not ASCII shows as the replacement character. -/
def markText (mark : List UInt8) : String :=
  String.ofList (mark.map fun byte =>
    if byte.toNat < 128 then Char.ofNat byte.toNat else Char.ofNat 0xfffd)

/-- The items of a value that could be a pair. -/
private def pairItems : Json → Except Fault (List Json)
  | .arr items => .ok items
  | .str text => .ok (text.toList.map fun c => .str (String.singleton c))
  | .obj fields => .ok (fields.map fun field => .str field.1)
  | .null | .bool _ | .number _ => .error .wrongType

/-- The fields of an override, and whether something else than a text stands for a name. -/
structure Fields where
  named : Dict String Json := []
  hasOther : Bool := false

private def Fields.add (fields : Fields) (key value : Json) : Except Fault Fields :=
  match key with
  | .str name => .ok { fields with named := fields.named.set name value }
  | .null | .bool _ | .number _ => .ok { fields with hasOther := true }
  | .arr _ | .obj _ => .error .wrongType

/-- Adds pairs of a name and a value, from an index on. -/
private def Fields.addPairs (index : Nat) (fields : Fields) : List Json → Except Fault Fields
  | [] => .ok fields
  | item :: rest => do
    match ← pairItems item with
    | [key, value] => (← fields.add key value).addPairs (index + 1) rest
    | other => throw (.configNotPairs index other.length)

/-- The fields of an override. Nothing at all overrides nothing; a list of pairs counts as an
object. -/
def fieldsOf : Json → Except Fault Fields
  | .obj fields => .ok { named := fields }
  | .null | .bool false | .str "" | .arr [] => .ok {}
  | .number value => if value.same (.int 0) then .ok {} else .error .wrongType
  | .bool true => .error .wrongType
  | .arr items => Fields.addPairs 0 {} items
  | .str _ => .error (.configNotPairs 0 1)

def overrideSection {K : Type} [DecidableEq K] [SettingKey K] (fields : Dict String Json)
    (name : String) (settings : Section K) : Except Fault (Section K) :=
  match fields.get? name with
  | none => .ok settings
  | some overrides => settings.override name overrides

def overrideCost (costs : Kind → Section CostKey) (field : String × Json) :
    Except Fault (Kind → Section CostKey) := do
  let kind ← Kind.parse field.1
  let cost ← (costs kind).override s!"peripherals.{kind.name}" field.2
  return fun other => if other = kind then cost else costs other

def overrideCosts (fields : Dict String Json) (costs : Kind → Section CostKey) :
    Except Fault (Kind → Section CostKey) :=
  match fields.get? "peripherals" with
  | none => .ok costs
  | some (.obj entries) => entries.foldlM overrideCost costs
  | some _ => .error .noSuchOperation

def overrideMark (fields : Dict String Json) (mark : List UInt8) :
    Except Fault (List UInt8) :=
  match fields.get? "bytecode_magic" with
  | none => .ok mark
  | some value => markOf value

/-- The names at the top of a configuration that are not thresholds. -/
def parts : List String :=
  ["hardware", "memory", "timing", "peripherals", "bytecode_magic"]

/-- The thresholds with their overrides. All that is left over must be the name of one. -/
def overrideLimits (fields : Fields) (limits : Section LimitKey) :
    Except Fault (Section LimitKey) :=
  if fields.hasOther then .error .wrongType
  else limits.override "" (.obj (fields.named.filter fun field => !parts.contains field.1))

/-- The configuration with the settings that a document names. -/
def override (config : Config) (document : Json) : Except Fault Config := do
  let fields ← fieldsOf document
  let hardware ← overrideSection fields.named "hardware" config.hardware
  let memory ← overrideSection fields.named "memory" config.memory
  let timing ← overrideSection fields.named "timing" config.timing
  let peripherals ← overrideCosts fields.named config.peripherals
  let mark ← overrideMark fields.named config.mark
  let limits ← overrideLimits fields config.limits
  return {
    hardware := hardware
    memory := memory
    timing := timing
    peripherals := peripherals
    limits := limits
    mark := mark }

/-- The standard configuration with the settings that a document names. -/
def ofJson (document : Json) : Except Fault Config :=
  standard.override document

def limitFields (limits : Section LimitKey) : List (String × Json) :=
  SettingKey.all.map fun key => (SettingKey.label key, limits key)

/-- The settings of the sections by name. -/
def sections (config : Config) : Dict String Json :=
  [("hardware", config.hardware.document), ("memory", config.memory.document),
    ("timing", config.timing.document),
    ("peripherals",
      .obj (Kind.all.map fun kind => (kind.name, (config.peripherals kind).document)))]

def settings (config : Config) : Dict String Json :=
  config.sections ++ ("bytecode_magic", .str (markText config.mark)) :: limitFields config.limits

/-- The document that names every setting. -/
def document (config : Config) : Json :=
  .obj config.settings

/-- The nesting that the sections of a written configuration can have. -/
def nestingLimit : Nat := 497

/-- The document of a configuration. Its sections are copied value by value, as far as they are not
nested too deeply; the thresholds are passed on as they are. -/
def written (config : Config) : Except Fault Json :=
  if (Json.obj config.sections).depth ≤ nestingLimit then .ok config.document
  else .error .nestedTooDeeply

def agrees (first second : Config) : Bool :=
  first.document.compact == second.document.compact && first.mark == second.mark

/-- Whether the document of a configuration leads back to it. -/
def isRestored (config : Config) : Except Fault Bool :=
  (ofJson config.document).map config.agrees

end Config

end PinBudget
