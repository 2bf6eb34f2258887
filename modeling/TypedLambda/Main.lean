import TypedLambda.Explorer.Session
import TypedLambda.Tour

/-!
The command line: without arguments it gives the tour, and with the argument `explore` it runs
the explorer on standard input.
-/

namespace TypedLambda

def Outcome.report (o : Outcome) : IO UInt32 := do
  (← IO.getStdout).putStr o.out
  (← IO.getStderr).putStr o.err
  return UInt32.ofNat o.code

/-- Everything that is still to come on a stream. -/
partial def readAll (stream : IO.FS.Stream) (sofar : ByteArray) : IO ByteArray := do
  let bytes ← stream.read 4096
  if bytes.isEmpty then return sofar else readAll stream (sofar ++ bytes)

end TypedLambda

open TypedLambda in
def main (args : List String) : IO UInt32 := do
  match args with
  | [] => tourOutcome.report
  | ["explore"] =>
    let bytes ← readAll (← IO.getStdin) ByteArray.empty
    (Explorer.session bytes.data.toList).report
  | _ =>
    (← IO.getStderr).putStrLn "usage: [explore]"
    return 2
