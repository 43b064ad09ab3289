/-! # Runs of code points

A property of characters is a table of runs: evenly spaced code points from a first to a last one. The
tables of this folder list code points from `0x80` on; below, the ASCII classes of `Char` apply. -/

namespace SwaggerService.Text

/-- The code points `first`, `first + step`, … up to `last`. -/
structure CodeRun where
  first : Nat
  last : Nat
  step : Nat
  deriving DecidableEq, Repr

/-- Whether a code point belongs to the run. -/
def CodeRun.contains (run : CodeRun) (code : Nat) : Bool :=
  run.first ≤ code && code ≤ run.last && (code - run.first) % run.step == 0

/-- Whether a character beyond ASCII belongs to one of the runs. -/
def inRuns (runs : List CodeRun) (c : Char) : Bool :=
  runs.any fun run => run.contains c.toNat

/-- The ASCII characters, for which no table is needed. -/
def isAscii (c : Char) : Bool := c.toNat < 0x80

end SwaggerService.Text
