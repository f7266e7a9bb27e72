import Rulebook.Binary64.Decimal
import Rulebook.Metrics

/-!
# Samples

What the metrics of a service show to the outside: for a counter its total, for a histogram how
many observations there were up to each of its bounds, how many in all, and their sum. Samples that
are zero are not shown. Samples stand in the order of their names, then of their labels.
-/

namespace Rulebook

/-- A number under a name and labels. -/
structure Sample where
  name : String
  /-- The labels in the order of their names. -/
  labels : List (String × String)
  value : Binary64

namespace Sample

/-- Labels in the order of their names. -/
def sortLabels (labels : List (String × String)) : List (String × String) :=
  labels.mergeSort fun l m => decide (l.1 ≤ m.1)

/-- A sample under labels in any order. -/
def of (name : String) (labels : List (String × String)) (value : Binary64) : Sample :=
  ⟨name, sortLabels labels, value⟩

/-- Is a list of labels before another one? -/
def labelsBefore : List (String × String) → List (String × String) → Bool
  | [], _ => true
  | _ :: _, [] => false
  | l :: ls, m :: ms =>
    if l = m then labelsBefore ls ms
    else if l.1 = m.1 then decide (l.2 < m.2)
    else decide (l.1 < m.1)

/-- Is a sample before another one, or in the same place? -/
def before (s t : Sample) : Bool :=
  if s.name = t.name then labelsBefore s.labels t.labels else decide (s.name < t.name)

end Sample

namespace MetricsLog

/-- The bounds of a histogram, as decimals in thousandths. -/
def boundThousandths : List Nat :=
  [5, 10, 25, 50, 75, 100, 250, 500, 750, 1000, 2500, 5000, 7500, 10000]

/-- The bounds of a histogram; the last one holds every number. -/
def bounds : List Binary64 :=
  boundThousandths.map (fun n => Decimal.toBinary64 false ⟨n, -3⟩) ++ [.infinite false]

/-- The text of a bound. -/
def boundText (bound : Binary64) : String :=
  match bound with
  | .infinite _ => "+Inf"
  | x => Layout.plain.write x

/-- The label under which the bound of a bucket stands. -/
def boundLabel : String := "le"

/-- The label values under which a metric has entries, each once. -/
def labelSets (log : MetricsLog) (metric : Metric) : List (List String) :=
  ((log.entries.filter fun e => e.metric = metric).map (·.labels)).eraseDups

/-- How many amounts are at most a bound. -/
def countUpTo (amounts : List Binary64) (bound : Binary64) : Binary64 :=
  .ofNat (amounts.countP fun x => x.le bound)

/-- The samples of a metric under some label values. -/
def samplesOf (log : MetricsLog) (metric : Metric) (values : List String) : List Sample :=
  let labels := metric.labelNames.zip values
  let amounts := log.amounts metric values
  if metric.isHistogram then
    bounds.map (fun bound => Sample.of (metric.name ++ "_bucket")
      ((boundLabel, boundText bound) :: labels) (countUpTo amounts bound)) ++
    [Sample.of (metric.name ++ "_count") labels (countUpTo amounts (.infinite false)),
      Sample.of (metric.name ++ "_sum") labels (Binary64.sum amounts)]
  else [Sample.of metric.name labels (Binary64.sum amounts)]

/-- The version that every service names. -/
def version : String := "1.0.0"

/-- The sample that describes the service. -/
def infoSample (log : MetricsLog) : Sample :=
  Sample.of "service_info_info" [("service", log.service), ("version", version)] .one

/-- All samples that are not zero, in order. -/
def samples (log : MetricsLog) : List Sample :=
  let all := log.infoSample :: log.kept.flatMap fun metric =>
    (log.labelSets metric).flatMap (log.samplesOf metric)
  (all.filter fun s => !s.value.isZero).mergeSort Sample.before

end MetricsLog

end Rulebook
