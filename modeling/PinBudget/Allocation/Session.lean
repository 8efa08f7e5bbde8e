import PinBudget.Allocation.Registry

/-!
Sessions: what callers ask of one registry, call after call. A call that meets a fault leaves the
registry as far as it got, and the next call goes on from there.
-/
namespace PinBudget

/-- A claim whose kind is given by name. A kind itself goes by its own name. -/
structure Bid where
  kindName : String
  value : Value
  sourceId : String
  line : Int
  function : Option String := none
  holder : Option String := none
  unit : Option Int := none

/-- The claim that a bid makes once its kind is known. -/
def Bid.claim (bid : Bid) (kind : Kind) : Claim :=
  { value := bid.value
    kind := kind
    sourceId := bid.sourceId
    line := bid.line
    function := bid.function
    holder := bid.holder
    unit := bid.unit }

inductive Call where
  | bid (bid : Bid)
  | event (event : Event)
  | events (events : List Event)
  | reset

namespace Registry

/-- The registry that a session begins with: all of the board's validators, and nothing held. -/
abbrev fresh : Registry := {}

variable (registry : Registry)

/-- Submits a bid and tells whether it was granted. -/
def submit (bid : Bid) : Reached × Bool :=
  registry.claimFor bid.kindName bid.claim bid.sourceId bid.line

/-- Answers one call. -/
def answer : Call → Reached
  | .bid bid => (registry.submit bid).1
  | .event event => registry.process event
  | .events events => registry.processAll events
  | .reset => { registry := registry.reset }

/-- The registry after calls in order, whether or not they meet faults. -/
def afterCalls (calls : List Call) : Registry :=
  calls.foldl (fun reached call => (reached.answer call).registry) registry

def afterBids (bids : List Bid) : Registry :=
  bids.foldl (fun reached bid => (reached.submit bid).1.registry) registry

end Registry

end PinBudget
