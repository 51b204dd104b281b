import ContractDictionary.CommandLine.Run

/-!
# The program

Access to the files of the machine, and the program's entry.  Nothing is logged on the way: the
filter for messages is read as an argument, and only the outcome of a run is told.  Of errors that
other libraries state, the kind and the place are kept without their texts.
-/

namespace ContractDictionary.CommandLine

def succeeds (operation : IO Unit) : IO Bool := do
  try
    operation
    return true
  catch _ => return false

def fileNamesOf (path : String) : IO (Option (List String)) := do
  try
    let entries ← (System.mkFilePath [path]).readDir
    let files ← entries.filterM fun entry => return !(← entry.path.isDir)
    return some (files.toList.map (·.fileName))
  catch _ => return none

def textOf (path : String) : IO (Option String) := do
  try
    let content ← IO.FS.readBinFile path
    return String.fromUTF8? content
  catch _ => return none

def machine : Disk IO where
  isDirectory path := (System.mkFilePath [path]).isDir
  isFile path := do
    let location := System.mkFilePath [path]
    return (← location.pathExists) && !(← location.isDir)
  fileNames := fileNamesOf
  readText := textOf
  createDirectories path := succeeds (IO.FS.createDirAll path)
  writeText path text := succeeds (IO.FS.writeFile path text)

def environment : IO Environment := do
  let dictionary ← IO.getEnv "ACTUS_DICTIONARY"
  let logFilter ← IO.getEnv "RUST_LOG"
  return { dictionary, logFilter }

/-- Run the program and tell whether everything was generated. -/
def runProgram (arguments : List String) : IO UInt32 := do
  match Arguments.ofList arguments (← environment) with
  | .error fault =>
      if fault.isRequest then
        IO.println fault.message
        return 0
      else
        IO.eprintln fault.message
        IO.eprintln usageText
        return 2
  | .ok arguments =>
      match ← machine.execute .plain arguments with
      | .error error =>
          IO.eprintln error.message
          return 1
      | .ok report =>
          (reportTexts report).forM fun text => IO.eprintln text
          return if report.isSuccess then 0 else 1

end ContractDictionary.CommandLine

def main (arguments : List String) : IO UInt32 :=
  ContractDictionary.CommandLine.runProgram arguments
