import CodeExecution.Library.Machine
import CodeExecution.Services.Sandbox

/-! The two loops of `splitForStream`, from one test to the next. -/

namespace CodeExecution

/-- The test that `splitForStream` makes next, with its variables. -/
inductive SplitPoint where
  /-- The test of the whole text. -/
  | entry (text : List UInt16)
  /-- The test of the outer loop. -/
  | outer (chunks : List (List UInt16)) (remaining : List UInt16)
  /-- The test of the inner loop, with the end of the slice. -/
  | inner (chunks : List (List UInt16)) (remaining : List UInt16) (length : Nat)
  /-- The function has returned. -/
  | returned (chunks : List (List UInt16))
  deriving DecidableEq, Repr

/-- From one test to the next. -/
def SplitPoint.step : SplitPoint → Option SplitPoint
  | .entry text =>
    if Utf16.byteLength text ≤ maxStreamChunkBytes then some (.returned [text])
    else some (.outer [] text)
  | .outer chunks remaining =>
    if remaining = [] then some (.returned chunks)
    else some (.inner chunks remaining (min remaining.length maxStreamChunkBytes))
  | .inner chunks remaining length =>
    if 1 < length ∧ maxStreamChunkBytes < Utf16.byteLength (remaining.take length) then
      some (.inner chunks remaining (length * 9 / 10))
    -- The slice is pushed, and the rest of the text is what remains.
    else some (.outer (chunks ++ [remaining.take length]) (remaining.drop length))
  | .returned _ => none

/-- `splitForStream` as a machine that no label influences. -/
def splitting : Machine SplitPoint Unit where
  step point _ := point.step

end CodeExecution
