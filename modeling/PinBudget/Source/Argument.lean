import PinBudget.Source.Literal

/-!
Argument lists: positional values and values with a name.
-/
namespace PinBudget.Source

structure Arguments where
  positional : List Value := []
  named : Dict String Value := []

/-- A name, an arrow and the text behind it; a colon may precede the name. -/
def arrowArgument? (text : List Char) : Option (List Char × List Char) :=
  let body := match text with
    | ':' :: rest => rest
    | _ => text
  match Text.name? body with
  | none => none
  | some (name, rest) =>
    (after? ['=', '>'] (Text.trimLeft rest)).map fun right => (name, Text.trimLeft right)

/-- A name, a colon that is not doubled, and the text behind it. -/
def colonArgument? (text : List Char) : Option (List Char × List Char) :=
  match Text.name? text with
  | some (_, ':' :: ':' :: _) => none
  | some (name, ':' :: right) => some (name, Text.trimLeft right)
  | _ => none

/-- The name and the text of an argument with a name. -/
def namedArgument? (text : List Char) : Option (List Char × List Char) :=
  arrowArgument? text <|> colonArgument? text

namespace Arguments

/-- Adds one argument. A name that comes again takes its new value. -/
def add (bindings : Bindings) (arguments : Arguments) (part : List Char) :
    Except Fault Arguments :=
  match namedArgument? part with
  | some (name, right) =>
    (readValueIn bindings right).map fun value =>
      { arguments with named := arguments.named.set (String.ofList name) value }
  | none =>
    (readValueIn bindings part).map fun value =>
      { arguments with positional := arguments.positional ++ [value] }

def read (bindings : Bindings) (text : List Char) : Except Fault Arguments :=
  (splitArguments text).foldlM (add bindings) {}

end Arguments

end PinBudget.Source
