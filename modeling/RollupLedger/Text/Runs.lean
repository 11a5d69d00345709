/-!
Tables of code points by runs, each given by its first and its last code point.
-/

set_option autoImplicit false
set_option relaxedAutoImplicit false

namespace RollupLedger.Text

/-- Whether a code point is in one of the runs. -/
def inRuns (runs : List (Nat × Nat)) (point : Nat) : Bool :=
  runs.any fun run => run.1 ≤ point && point ≤ run.2

/-- What a table has for a code point. -/
def runValue? {α : Type} (runs : List (Nat × Nat × α)) (point : Nat) : Option α :=
  (runs.find? fun run => run.1 ≤ point && point ≤ run.2.1).map (·.2.2)

end RollupLedger.Text
