import QueryCompletion.Command.Report

/-!
The command line program. It reaches no network, so a schema has to be in a file.
-/

namespace QueryCompletion.Command

/-- The contents of the files at those of the given paths that can be read. -/
def readFiles (paths : List Text) : IO Files := do
  let mut files : Files := []
  for path in paths do
    try
      let contents ← IO.FS.readFile (String.ofList path)
      files := files ++ [(path, contents.toList)]
    catch _ => pure ()
  return files

end QueryCompletion.Command

open QueryCompletion

def main (arguments : List String) : IO UInt32 := do
  let schema := (← IO.getEnv "DJANGOQL_SCHEMA").map String.toList
  let texts := arguments.map String.toList
  let files ← Command.readFiles (Command.filesNamed texts ++ schema.toList)
  let report := Command.run { files, schema } texts
  for line in report.output do
    IO.println (String.ofList line)
  if let some remark := report.remark then
    IO.eprintln remark
  return report.exitCode.toUInt32
