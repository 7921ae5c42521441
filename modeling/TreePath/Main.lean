import TreePath.Query
namespace TreePath.CommandLine

structure Arguments where
  core : Bool
  labels : Option String
  showPaths : Bool
  pretty : Bool
  words : List String

def Arguments.initial : Arguments := ⟨false, none, false, false, []⟩

-- None if an option is unknown or lacks its value. Behind two hyphens everything is a word.
def read : List String → Arguments → Option Arguments
  | [], a => some a
  | "--" :: rest, a => some { a with words := a.words ++ rest }
  | "--core" :: rest, a => read rest { a with core := true }
  | "--paths" :: rest, a => read rest { a with showPaths := true }
  | "-p" :: rest, a => read rest { a with showPaths := true }
  | "--pretty" :: rest, a => read rest { a with pretty := true }
  | "--auto-id" :: field :: rest, a => read rest { a with labels := some field }
  | word :: rest, a =>
    match "--auto-id=".toList.isPrefixOf? word.toList with
    | some field => read rest { a with labels := some (String.ofList field) }
    | none =>
      if word.toList.head? = some '-' ∧ word ≠ "-" then none
      else read rest { a with words := a.words ++ [word] }

def Arguments.query? (a : Arguments) : Option (Query × List String) :=
  match a.words with
  | [] => none
  | expression :: files =>
    some (⟨expression, if a.core then .core else .extended, a.labels, a.showPaths, a.pretty⟩, files)

def usage : String :=
  "Usage: treepath [--core] [--auto-id FIELD] [-p | --paths] [--pretty] EXPRESSION [FILES...]"

partial def readInput (input : IO.FS.Stream) (read : String) : IO String := do
  let line ← input.getLine
  if line.isEmpty then return read else readInput input (read ++ line)

def readInputFile (name : String) : IO InputFile := do
  try
    let text ← IO.FS.readFile name
    return ⟨name, some text⟩
  catch _ => return ⟨name, none⟩

def run (q : Query) (files : List String) : IO (Except QueryError (List String)) := do
  if files.isEmpty then
    return q.runText (← readInput (← IO.getStdin) "")
  else
    return q.runFiles (← files.mapM readInputFile)

end TreePath.CommandLine

open TreePath in
def main (args : List String) : IO UInt32 := do
  match (CommandLine.read args .initial).bind CommandLine.Arguments.query? with
  | none =>
    IO.eprintln CommandLine.usage
    return 2
  | some (q, files) =>
    match ← CommandLine.run q files with
    | .ok lines =>
      lines.forM fun line => IO.println line
      return 0
    | .error error =>
      IO.eprintln error.message
      return 1
