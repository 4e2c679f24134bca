import TapScript.CommandLine

/-!
# The program

Reads the arguments and the script file, runs the script on the simulated device and prints what it
leaves behind.
-/

namespace TapScript

namespace CommandLine

/-- Why the file cannot be read. -/
def readError : IO.Error → ReadError
  | .noFileOrDirectory .. => .notFound
  | .inappropriateType _ code details =>
    if code = 21 then .isDirectory else if code = 20 then .notDirectory else .other details
  | e => .other (toString e)

/-- The bytes of the file. -/
def readFile (path : String) : IO (Except ReadError ByteArray) := do
  try return .ok (← IO.FS.readBinFile path)
  catch e => return .error (readError e)

/-- Sixty-four scrambled bits of a number. -/
def scramble (z : UInt64) : UInt64 :=
  let z := (z ^^^ (z >>> 30)) * 0xBF58476D1CE4E5B9
  let z := (z ^^^ (z >>> 27)) * 0x94D049BB133111EB
  z ^^^ (z >>> 31)

/-- The draws that the program makes from a seed: a counter, scrambled for each pick. -/
def drawsFrom (seed : Nat) : Draws where
  pick turn lo hi :=
    lo + (scramble (UInt64.ofNat (seed + turn * 0x9E3779B97F4A7C15))).toNat % (hi - lo + 1)
  pick_mem turn lo hi h := by
    have hpositive : 0 < hi - lo + 1 := by omega
    have hnonneg := Int.emod_nonneg
      (scramble (UInt64.ofNat (seed + turn * 0x9E3779B97F4A7C15))).toNat (Int.ne_of_gt hpositive)
    have hlt := Int.emod_lt_of_pos
      (scramble (UInt64.ofNat (seed + turn * 0x9E3779B97F4A7C15))).toNat hpositive
    omega

end CommandLine

end TapScript

/-- The program. -/
def main (args : List String) : IO UInt32 := do
  let response ← match TapScript.CommandLine.parse args with
    | .version => pure TapScript.CommandLine.version
    | .help => pure TapScript.CommandLine.help
    | .wrong why => pure (TapScript.CommandLine.wrong why)
    | .run options => do
      let seed ← IO.rand 0 0xFFFFFFFFFFFFFFFF
      let file ← TapScript.CommandLine.readFile options.input
      pure (TapScript.CommandLine.run options ⟨TapScript.CommandLine.drawsFrom seed⟩ file)
  IO.print response.stdout
  IO.eprint response.stderr
  return response.code.toUInt32
