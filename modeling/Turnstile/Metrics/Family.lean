import Turnstile.Number.Text

/-!
# Metric families and their text form

A family is a named metric of one kind with a help text and a sample per label
set.  Counters and gauges carry a value; a histogram carries how many
observations it has seen over its bucket bounds.

Families are listed by name, and the samples of a family by their label values,
compared in the order of the label names.  In the text form each family that is
shown starts with `# HELP name help` and `# TYPE name kind`, then one line per
sample: the name, the labels in braces as `name="value"` when there are any,
and the value.  A histogram sample is written as its `_count` line.  In help
texts a backslash and a newline are escaped; in label values a double quote as
well.

Latencies and load times are wall-clock readings: the histogram's buckets and
sums and the load-time gauge's value are not part of this model, so a family
can be shown with no sample lines.
-/

namespace Turnstile.Metrics

/-- The kinds of metric. -/
inductive Kind where
  | counter
  | gauge
  | histogram
  deriving DecidableEq, Repr, Inhabited

/-- The lower-case name of a kind, as the text form writes it. -/
def Kind.name : Kind → String
  | .counter => "counter"
  | .gauge => "gauge"
  | .histogram => "histogram"

/-- The upper-case name of a kind. -/
def Kind.label : Kind → String
  | .counter => "COUNTER"
  | .gauge => "GAUGE"
  | .histogram => "HISTOGRAM"

/-- What a sample reads. -/
inductive Reading where
  | value (v : Binary64)
  | observed (count : Nat) (bounds : List Binary64)
  deriving Inhabited

/-- One sample: label pairs in the order of their names, and its reading. -/
structure Sample where
  labels : List (String × String)
  reading : Reading
  deriving Inhabited

/-- A family of samples. -/
structure Family where
  name : String
  help : String
  kind : Kind
  samples : List Sample
  /-- Whether the family is listed even without samples. -/
  always : Bool := false
  deriving Inhabited

/-- Whether a family is listed. -/
def Family.shown (f : Family) : Bool := f.always || !f.samples.isEmpty

/-- Lexicographic order on lists of texts. -/
def textsLe : List String → List String → Bool
  | [], _ => true
  | _ :: _, [] => false
  | a :: as, b :: bs => if a == b then textsLe as bs else decide (a < b)

/-- Samples sorted by their label values. -/
def sortSamples (ss : List Sample) : List Sample :=
  ss.mergeSort fun a b => textsLe (a.labels.map Prod.snd) (b.labels.map Prod.snd)

/-- Escape a help text. -/
def escapeHelp (s : String) : String :=
  String.join (s.toList.map fun c =>
    if c = '\\' then "\\\\" else if c = '\n' then "\\n" else String.singleton c)

/-- Escape a label value. -/
def escapeLabel (s : String) : String :=
  String.join (s.toList.map fun c =>
    if c = '\\' then "\\\\" else if c = '\n' then "\\n" else if c = '"' then "\\\""
    else String.singleton c)

/-- The label part of a sample line. -/
def labelText (labels : List (String × String)) : String :=
  if labels.isEmpty then ""
  else "\x7b" ++ ",".intercalate (labels.map fun (k, v) => k ++ "=\"" ++ escapeLabel v ++ "\"") ++ "\x7d"

/-- The line of one sample. -/
def sampleLine (name : String) (s : Sample) : String :=
  match s.reading with
  | .value v => name ++ labelText s.labels ++ " " ++ v.render .general
  | .observed count _ => name ++ "_count" ++ labelText s.labels ++ " " ++ toString count

/-- The lines of a family. -/
def Family.lines (f : Family) : List String :=
  if f.shown then
    ("# HELP " ++ f.name ++ " " ++ escapeHelp f.help) :: ("# TYPE " ++ f.name ++ " " ++ f.kind.name) ::
      f.samples.map (sampleLine f.name)
  else []

/-- The text form of families, in the order given. -/
def exposition (fs : List Family) : List String := fs.flatMap Family.lines

end Turnstile.Metrics
