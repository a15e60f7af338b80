/-
The command line: the dialogue on standard input and output.
-/
import JsonSelect.Dialogue

open JsonSelect.Dialogue

instance : Console IO where
  put text := do
    let output ← IO.getStdout
    output.putStr text
    output.flush
  getLine := do
    let input ← IO.getStdin
    input.getLine

partial def talk : IO Ending := do
  if ← exchange then talk else return .finished

def main : IO UInt32 := do
  try
    return (← talk).code
  catch error =>
    (← IO.getStderr).putStrLn error.toString
    return Ending.brokenOff.code
