import PinBudget.Peripheral.Kind
import PinBudget.Source.Pattern
import PinBudget.Source.Scan

/-!
Where a statement constructs peripherals, what it assigns them to, and which arguments it passes.
-/
namespace PinBudget.Usage

open Source

/-- A kind's class and its constructor at the front of a text. -/
def constructor? (text : List Char) : Option (Kind × List Char) :=
  Kind.all.findSome? fun kind =>
    match after? (kind.name.toList ++ ".new".toList) text with
    | some rest => if rest.head?.any Text.isWord then none else some (kind, rest)
    | none => none

/-- A constructor behind a variable and an equals sign. -/
def boundConstructor? (text : List Char) : Option ((List Char × Kind) × List Char) :=
  match behindVariable? text with
  | none => none
  | some rest =>
    match Text.trimLeft rest with
    | '=' :: right =>
      (constructor? (Text.trimLeft right)).map fun (kind, behind) =>
        ((variableAt text, kind), behind)
    | _ => none

/-- A construction at the front of a text: the variable it is assigned to, if any, and its kind. -/
def construction : Pattern (Option (List Char) × Kind) := fun before text =>
  match boundConstructor? text with
  | some ((name, kind), rest) => some ((some name, kind), rest)
  | none =>
    if Text.atWordEdge before text then
      (constructor? text).map fun (kind, rest) => ((none, kind), rest)
    else none

/-- A method call at the front of a text: the receiver and the method. -/
def methodCall : Pattern (List Char × List Char) := fun _ text =>
  match behindVariable? text with
  | some ('.' :: rest) =>
    match Text.name? rest with
    | none => none
    | some (method, after) =>
      let receiver := variableAt text
      match after with
      | '?' :: behind => some ((receiver, method ++ ['?']), behind)
      | '!' :: behind => some ((receiver, method ++ ['!']), behind)
      | _ => some ((receiver, method), after)
  | _ => none

/-- Beginnings that cannot be an argument without parentheses. -/
def nonArguments : List String := [".", ")", "]", "\x7d", "do", "\x7b"]

/-- The argument text behind a constructor that ends at `stop`: what stands between its parentheses,
or the rest of the statement. Nothing where the parentheses never close. -/
def argumentText? (statement masked : List Char) (stop : Nat) : Option (List Char) :=
  let rest := masked.drop stop
  let shown := Text.trimLeft rest
  if shown.head? == some '(' then
    let opening := stop + (rest.length - shown.length)
    (findClosing? statement opening).map fun closing =>
      (statement.take closing).drop (opening + 1)
  else if shown.isEmpty || (oneOf? nonArguments shown).isSome then some []
  else some (Text.trim (statement.drop stop))

end PinBudget.Usage
