import LogSearch.Number.Decimal

/-!
# Metrics of searches

Two histograms: how long the requests took, and how wide the searched windows were, both in
seconds. A histogram here is the list of its samples; counts, sums and the text for a collector are
views of it. Sums are of floating-point numbers, in the order of the samples.
-/

namespace LogSearch

/-! ## Histograms -/

/-- How the samples of a metric are shown. -/
structure MetricFamily where
  name : String
  help : String
  /-- The upper bounds of the buckets, ascending. -/
  bounds : List Binary64

namespace MetricFamily

/-- The sum of samples. -/
def sum (samples : List Binary64) : Binary64 := samples.foldl Binary64.add (.zero false)

/-- How many samples are not above a bound. -/
def countUpTo (bound : Binary64) (samples : List Binary64) : Nat :=
  (samples.filter fun x => !bound.numLt x).length

/-- One line of the text. -/
def line (words : List String) : String := String.intercalate " " words ++ "\n"

/-- The line of a bucket. -/
def bucketLine (name bound : String) (count : Nat) : String :=
  line [name ++ "_bucket\x7ble=\"" ++ bound ++ "\"\x7d", toString count]

/-- The text of a metric for a collector. -/
def render (family : MetricFamily) (samples : List Binary64) : String :=
  line ["# HELP", family.name, family.help]
    ++ line ["# TYPE", family.name, "histogram"]
    ++ String.join (family.bounds.map fun bound =>
        bucketLine family.name (DecimalLayout.plain.render bound) (countUpTo bound samples))
    ++ bucketLine family.name "+Inf" samples.length
    ++ line [family.name ++ "_sum", DecimalLayout.plain.render (sum samples)]
    ++ line [family.name ++ "_count", toString samples.length]

end MetricFamily

/-! ## Metrics of searches -/

/-- What was measured. -/
structure Metrics where
  requests : List Binary64
  ranges : List Binary64
  deriving DecidableEq, Repr

namespace Metrics

/-- How long requests took. -/
def requestFamily : MetricFamily :=
  { name := "searches_elasticsearch_requests_seconds"
    help := "Search request latency in seconds"
    bounds := ([5, 10, 25, 50, 100, 250, 500, 1000, 2500, 5000, 10000] : List Nat).map fun n =>
      .ofDecimal false n (-3) }

/-- How wide windows were: from a minute to a year. -/
def rangeFamily : MetricFamily :=
  { name := "searches_elasticsearch_ranges_seconds"
    help := "Width of searched time ranges in seconds"
    bounds := ([60, 300, 900, 3600, 14400, 86400, 604800, 2592000, 31536000] : List Nat).map
      Binary64.ofNat }

/-- Nothing measured. -/
def empty : Metrics := ⟨[], []⟩

/-- One more request. -/
def recordRequest (metrics : Metrics) (seconds : Binary64) : Metrics :=
  { metrics with requests := metrics.requests ++ [seconds] }

/-- One more window; a negative width counts as none. -/
def recordRange (metrics : Metrics) (seconds : Int) : Metrics :=
  { metrics with ranges := metrics.ranges ++ [.ofInt (max seconds 0)] }

/-- The number of requests. -/
def requestCount (metrics : Metrics) : Nat := metrics.requests.length

/-- The number of windows. -/
def rangeCount (metrics : Metrics) : Nat := metrics.ranges.length

/-- The sum of the widths. -/
def rangeSum (metrics : Metrics) : Binary64 := MetricFamily.sum metrics.ranges

/-- The text of all metrics for a collector, in the order of their names. -/
def render (metrics : Metrics) : String :=
  rangeFamily.render metrics.ranges ++ requestFamily.render metrics.requests

end Metrics

end LogSearch
