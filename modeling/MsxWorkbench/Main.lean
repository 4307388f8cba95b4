import MsxWorkbench.Charset.Table
import MsxWorkbench.HexDump
import MsxWorkbench.Program.Tokens
/-
# The command line

`tables` makes the file of the character tables from its sources, `listing FILE` prints a tokenised
program as text, and `dump FILE` prints the bytes of a file.
-/
namespace MsxWorkbench.Main

/-- The sources that are there. -/
def readSources : IO Charset.SourceFiles := do
  let all : List Charset.SourceFile := [.common, .japanese, .brazilian, .russian, .arabic]
  let mut found := #[]
  for file in all do
    try
      let text ← IO.FS.readFile s!"{Charset.sourceDirectory}/{file.name}"
      found := found.push (file.name, text.toList)
    catch _ => pure ()
  return found.toList

/-- Reports a fault and ends with the status of a failure. -/
def fail (message : String) : IO UInt32 := do
  IO.eprintln message
  return 1

/-- Makes the file of the character tables. -/
def makeTables : IO UInt32 := do
  match Charset.buildFile (← readSources) with
  | .ok tables =>
    IO.FS.writeFile Charset.tablesFile (Charset.fileText tables)
    return 0
  | .error e => fail e.message

/-- Prints the listing of a tokenised program. -/
def printListing (file : String) : IO UInt32 := do
  match Program.listing (← IO.FS.readBinFile file).toList with
  | .ok text =>
    IO.print (String.ofList text)
    return 0
  | .error e => fail e.message

/-- Prints the bytes of a file. -/
def printDump (file : String) : IO UInt32 := do
  IO.println (String.ofList (HexDump.render (← IO.FS.readBinFile file).toList))
  return 0

end MsxWorkbench.Main

/-- Runs the command that the words name. -/
def main (words : List String) : IO UInt32 :=
  match words with
  | ["tables"] => MsxWorkbench.Main.makeTables
  | ["listing", file] => MsxWorkbench.Main.printListing file
  | ["dump", file] => MsxWorkbench.Main.printDump file
  | _ => MsxWorkbench.Main.fail "usage: tables | listing FILE | dump FILE"
