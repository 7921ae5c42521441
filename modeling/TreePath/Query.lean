import TreePath.Path.Grammar
import TreePath.Selection.Find
import TreePath.Json.Reader
namespace TreePath

structure Query where
  expression : String
  profile : Profile
  labels : Option String
  showPaths : Bool
  pretty : Bool

structure InputFile where
  name : String
  text : Option String

inductive QueryError where
  | noInput
  | expression (error : SyntaxError)
  -- A text that holds no document; what is wrong with it depends on the text alone.
  | notJson {text : String}
  | unreadable (name : String)
deriving DecidableEq

def QueryError.message : QueryError → String
  | noInput => "No input provided. Pass JSON files or pipe JSON to stdin."
  | expression error => "Invalid expression: " ++ error.message
  | notJson => "Invalid JSON"
  | unreadable name => "Cannot read " ++ name

namespace Query

def compile (q : Query) : Except QueryError Path :=
  match Path.ofText q.profile q.expression with
  | .ok path => .ok path
  | .error error => .error (.expression error)

def valueText (q : Query) (value : Value) : String :=
  match q.pretty, value with
  | true, .array items => (Value.array items).pretty
  | true, .object members => (Value.object members).pretty
  | _, value => value.display

def line (q : Query) (m : Match) : String :=
  if q.showPaths then m.fullPath.text ++ "\t" ++ q.valueText m.value else q.valueText m.value

def linesOf (q : Query) (path : Path) (text : String) : Except QueryError (List String) :=
  match Value.ofJson? text with
  | some tree => .ok ((path.find q.labels tree).map q.line)
  | none => .error (@QueryError.notJson text)

def runText (q : Query) (text : String) : Except QueryError (List String) := do
  let path ← q.compile
  q.linesOf path text

def linesOfFiles (q : Query) (path : Path) : List InputFile → Except QueryError (List String)
  | [] => .ok []
  | file :: rest =>
    match file.text with
    | none => .error (.unreadable file.name)
    | some text => do
      let lines ← q.linesOf path text
      let others ← linesOfFiles q path rest
      return lines ++ others

def runFiles (q : Query) (files : List InputFile) : Except QueryError (List String) :=
  match files with
  | [] => .error .noInput
  | files => do
    let path ← q.compile
    q.linesOfFiles path files

end Query
end TreePath
