import Passcode.Keyed
import Passcode.Value

/-!
# Metrics

Three counters by label, the number of outstanding codes, and a histogram of how long
sweeps take. `Metrics.lines` writes them out, one sample a line, each metric after a line
that describes it and a line that names its type. The samples of a counter stand in the
order in which their labels were first used.
-/

namespace Passcode

/-- Counts by label, labels in the order of first use. -/
abbrev Counter := Keyed String Nat

def Counter.count (c : Counter) (label : String) : Nat := (c.find? label).getD 0

def Counter.increment (c : Counter) (label : String) : Counter :=
  c.put label (c.count label + 1)

theorem Counter.count_increment (c : Counter) (label other : String) :
    (c.increment label).count other = c.count other + if other = label then 1 else 0 := by
  by_cases h : other = label
  · subst h; simp [increment, count]
  · simp [increment, count, Keyed.find?_put_of_ne _ _ h, h]

/-- The upper bounds of the buckets of sweep durations, in seconds; the last bucket has
none. -/
def durationBounds : List Float :=
  [0.0001, 0.0005, 0.001, 0.005, 0.01, 0.05, 0.1, 0.5, 1.0, 1.0 / 0.0]

/-- Durations by bucket, and their sum. -/
structure Histogram where
  counts : List Nat := durationBounds.map fun _ => 0
  sum : Float := 0
deriving Repr

/-- Adds a duration: to the sum, and to the first bucket whose bound it does not exceed. -/
def Histogram.observe (h : Histogram) (x : Float) : Histogram :=
  { counts := match durationBounds.findIdx? (x ≤ ·) with
      | some i => h.counts.modify i (· + 1)
      | none => h.counts
    sum := h.sum + x }

/-- What has been measured. -/
structure Metrics where
  challenges : Counter := .empty
  outcomes : Counter := .empty
  deliveryFailures : Counter := .empty
  active : Number := .int 0
  sweeps : Histogram := {}
deriving Repr

namespace Metrics

/-! ## Text -/

/-- The text of a sample. From a million on a power of ten is used. -/
def sampleText (x : Float) : String :=
  if x.isNaN then "NaN"
  else if x.isInf then if x > 0 then "+Inf" else "-Inf"
  else
    let s := (Decimal.floatText x).toList
    let point := s.findIdx (· = '.')
    if x > 0 ∧ point < s.length ∧ 6 < point then
      let mantissa := s.take 1 ++ ['.'] ++ (s.take point).drop 1 ++ s.drop (point + 1)
      let kept := (mantissa.reverse.dropWhile fun c => c = '0' || c = '.').reverse
      String.ofList kept ++ Decimal.exponentText (point - 1)
    else String.ofList s

/-- A label value with backslashes, quotes and line ends written after a backslash. -/
def labelText (s : String) : String :=
  String.ofList (s.toList.flatMap fun c =>
    if c = '\\' then ['\\', '\\'] else if c = '\n' then ['\\', 'n']
    else if c = '"' then ['\\', '"'] else [c])

def labelled (metric label value sample : String) : String :=
  metric ++ "\x7b" ++ label ++ "=\"" ++ labelText value ++ "\"\x7d " ++ sample

/-- The two lines before the samples of a metric. -/
def header (metric help type : String) : List String :=
  ["# HELP " ++ metric ++ " " ++ help, "# TYPE " ++ metric ++ " " ++ type]

def counterLines (metric label help : String) (c : Counter) : List String :=
  header metric help "counter"
    ++ c.entries.map fun e => labelled metric label e.1 (sampleText (Decimal.ofInt e.2))

/-- The counts of a histogram added up from bucket to bucket. -/
def cumulate (counts : List Nat) : List Nat :=
  (counts.foldl (fun (acc : Nat × List Nat) n => (acc.1 + n, acc.2 ++ [acc.1 + n])) (0, [])).2

def histogramLines (h : Histogram) : List String :=
  let metric := "otp_sweep_duration_seconds"
  let sums := cumulate h.counts
  header metric "Time spent evicting expired one-time passwords" "histogram"
    ++ (durationBounds.zip sums).map (fun b =>
      labelled (metric ++ "_bucket") "le" (sampleText b.1) (sampleText (Decimal.ofInt b.2)))
    ++ [metric ++ "_count " ++ sampleText (Decimal.ofInt (sums.getLast?.getD 0)),
        metric ++ "_sum " ++ sampleText h.sum]

def lines (m : Metrics) : List String :=
  counterLines "otp_challenges_total" "channel" "One-time password challenges issued" m.challenges
    ++ counterLines "otp_verifications_total" "outcome" "Verification outcomes by result" m.outcomes
    ++ counterLines "otp_delivery_failures_total" "channel" "One-time password delivery failures"
      m.deliveryFailures
    ++ header "otp_active_sessions" "Outstanding one-time passwords held in the session store"
      "gauge"
    ++ ["otp_active_sessions " ++ sampleText m.active.toFloat]
    ++ histogramLines m.sweeps

def mentions (line word : String) : Bool := 1 < (line.splitOn word).length

def countChallenge (m : Metrics) (channel : String) : Metrics :=
  { m with challenges := m.challenges.increment channel }

def countOutcome (m : Metrics) (label : String) : Metrics :=
  { m with outcomes := m.outcomes.increment label }

def countDeliveryFailure (m : Metrics) (channel : String) : Metrics :=
  { m with deliveryFailures := m.deliveryFailures.increment channel }

end Metrics

end Passcode
