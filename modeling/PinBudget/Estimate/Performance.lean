import PinBudget.Config.Setting
import PinBudget.Estimate.Finding
import PinBudget.Text.Template
import PinBudget.Usage.Extraction

/-!
Performance: fixed costs in processor time, current and response time for each construction. The
thresholds for advice are compared with usage, which counts method calls too.
-/
namespace PinBudget

inductive Rating where
  | excellent
  | good
  | poor
  deriving DecidableEq, Repr

namespace Rating

def name : Rating → String
  | excellent => "EXCELLENT"
  | good => "GOOD"
  | poor => "POOR"

/-- The rating of a load in percent. -/
def ofLoad (config : Config) (percent : Number) : Except Fault Rating := do
  if ← Config.below percent (config.limits .excellentBelow) then return excellent
  else if ← Config.below percent (config.limits .goodBelow) then return good
  else return poor

end Rating

/-- What the peripherals of one source cost. -/
structure PerformanceEstimate where
  cpuPercent : Float
  powerMa : Float
  responseMs : Float
  instanceCounts : Dict Kind Nat
  usageCounts : Dict Kind Nat
  bottlenecks : List String
  optimizations : List String
  rating : Rating
  findings : List Finding

namespace PerformanceEstimate

/-- The sums over the kinds so far, and the advice so far. -/
structure Totals where
  cpu : Float := 0.0
  power : Float := 0.0
  response : Float := 0.0
  bottlenecks : List String := []
  optimizations : List String := []

/-- Adds a number of equal costs to a sum. -/
def charge (sum : Float) (count : Nat) (setting : Json) : Except Fault Float :=
  match Config.times count setting with
  | .error fault => .error fault
  | .ok cost => cost.toFloat.map (sum + ·)

/-- The advice that is due where usage lies above a threshold; no threshold asks for none. -/
def advice (used : Nat) (threshold message : Json) : Except Fault (List String) := do
  match threshold with
  | .null => return []
  | limit =>
    if ← Config.above (.int used) limit then
      match message with
      | .str template => return [← Template.fill used template]
      | _ => throw .noSuchOperation
    else return []

/-- Adds the costs of one kind. -/
def addKind (config : Config) (extraction : Extraction) (totals : Totals) (kind : Kind) :
    Except Fault Totals := do
  let cost := config.peripherals kind
  let count := extraction.instanceCount kind
  let used := extraction.usageCount kind
  let cpu ← charge totals.cpu count (cost .cpu)
  let power ← charge totals.power count (cost .power)
  let response ← charge totals.response count (cost .response)
  let bottlenecks ← advice used (cost .bottleneckAbove) (cost .bottleneckMessage)
  let optimizations ← advice used (cost .optimizationAbove) (cost .optimizationMessage)
  return {
    cpu := cpu
    power := power
    response := response
    bottlenecks := totals.bottlenecks ++ bottlenecks
    optimizations := totals.optimizations ++ optimizations }

/-- The kinds with a count above zero, with their counts. -/
def positiveCounts (count : Kind → Nat) : Dict Kind Nat :=
  (Kind.all.filter fun kind => 0 < count kind).map fun kind => (kind, count kind)

private def ratingFindings (sourceId : String) (cpu : Float) : Rating → List Finding
  | .poor =>
    let shown := generalText cpu
    [{ severity := .warning
       category := .performance
       message :=
         s!"Estimated CPU usage {shown}% - performance rating POOR, optimization needed"
       sourceId := sourceId }]
  | .excellent | .good => []

/-- The estimate for what was found in a source. Sums are rounded to two places at the end. -/
def ofExtraction (config : Config) (extraction : Extraction) :
    Except Fault PerformanceEstimate := do
  let totals ← Kind.all.foldlM (addKind config extraction) {}
  let cpu := roundToPlaces 2 totals.cpu
  let rating ← Rating.ofLoad config (.float cpu)
  return {
    cpuPercent := cpu
    powerMa := roundToPlaces 2 totals.power
    responseMs := roundToPlaces 2 totals.response
    instanceCounts := positiveCounts extraction.instanceCount
    usageCounts := positiveCounts extraction.usageCount
    bottlenecks := totals.bottlenecks
    optimizations := totals.optimizations
    rating := rating
    findings := ratingFindings extraction.sourceId cpu rating }

end PerformanceEstimate

end PinBudget
