import Mathlib.Data.List.Forall2
import TreePath.Query
namespace TreePath

-- The tree in a file, if the file can be read and its text holds a document.
def InputFile.tree? (file : InputFile) : Option Value := file.text.bind Value.ofJson?

def InputFile.isFaulty (file : InputFile) : Bool := file.tree?.isNone

-- What is wrong with a faulty file.
def InputFile.fault (file : InputFile) : QueryError :=
  match file.text with
  | none => .unreadable file.name
  | some text => @QueryError.notJson text

namespace Query

-- The lines for one tree.
def linesIn (q : Query) (path : Path) (tree : Value) : List String := (path.find q.labels tree).map q.line

variable {q : Query} {path : Path} {file : InputFile} {files : List InputFile} {text : String} {tree : Value}

theorem linesOf_tree (read : Value.ofJson? text = some tree) : q.linesOf path text = .ok (q.linesIn path tree) := by
  rw [linesOf, read]
  rfl

theorem linesOf_fault (refused : Value.ofJson? text = none) : q.linesOf path text = .error (@QueryError.notJson text) := by
  rw [linesOf, refused]

theorem runText_compiled (compiled : q.compile = .ok path) (text : String) : q.runText text = q.linesOf path text := by
  rw [runText, compiled]
  rfl

theorem linesOfFiles_tree (read : file.tree? = some tree) : q.linesOfFiles path (file :: files) =
    (q.linesOfFiles path files).map (q.linesIn path tree ++ ·) := by
  obtain ⟨text, readable, decoded⟩ := Option.bind_eq_some_iff.mp read
  simp only [linesOfFiles, readable, linesOf_tree decoded]
  cases q.linesOfFiles path files <;> rfl

theorem linesOfFiles_fault (refused : file.tree? = none) :
    q.linesOfFiles path (file :: files) = .error file.fault := by
  cases readable : file.text with
  | none => simp only [linesOfFiles, InputFile.fault, readable]
  | some text =>
    rw [InputFile.tree?, readable, Option.bind_some] at refused
    simp only [linesOfFiles, InputFile.fault, readable, linesOf_fault refused]
    rfl

-- The files in front of the first faulty one leave no trace, nor do those behind it.
theorem linesOfFiles_eq : q.linesOfFiles path files =
    match files.find? InputFile.isFaulty with
    | none => .ok (files.flatMap fun file => file.tree?.elim [] (q.linesIn path))
    | some file => .error file.fault := by
  induction files with
  | nil => rfl
  | cons file files ih =>
    cases read : file.tree? with
    | none =>
      have faulty : file.isFaulty = true := by rw [InputFile.isFaulty, read, Option.isNone_none]
      rw [linesOfFiles_fault read, List.find?_cons_of_pos faulty]
    | some tree =>
      have whole : ¬file.isFaulty = true := by simp [InputFile.isFaulty, read]
      rw [linesOfFiles_tree read, ih, List.find?_cons_of_neg whole, List.flatMap_cons, read]
      cases files.find? InputFile.isFaulty <;> rfl

theorem runFiles_given (given : files ≠ []) : q.runFiles files = q.compile.bind (q.linesOfFiles · files) := by
  cases files with
  | nil => exact absurd rfl given
  | cons file files => rfl

theorem runFiles_compiled (given : files ≠ []) (compiled : q.compile = .ok path) :
    q.runFiles files = q.linesOfFiles path files := by
  rw [runFiles_given given, compiled]
  rfl

theorem runFiles_uncompiled {error : QueryError} (given : files ≠ []) (refused : q.compile = .error error) :
    q.runFiles files = .error error := by
  rw [runFiles_given given, refused]
  rfl

theorem runText_uncompiled {error : QueryError} (refused : q.compile = .error error) (text : String) :
    q.runText text = .error error := by
  rw [runText, refused]
  rfl

-- What a file gives whose text is run alone.
def Gives (q : Query) (file : InputFile) (lines : List String) : Prop :=
  ∃ text, file.text = some text ∧ q.runText text = .ok lines

theorem gives_tree (compiled : q.compile = .ok path) (read : file.tree? = some tree) :
    q.Gives file (q.linesIn path tree) := by
  obtain ⟨text, readable, decoded⟩ := Option.bind_eq_some_iff.mp read
  exact ⟨text, readable, (runText_compiled compiled text).trans (linesOf_tree decoded)⟩

theorem runText_fault (compiled : q.compile = .ok path) (refused : file.tree? = none)
    (readable : file.text = some text) : q.runText text = .error file.fault := by
  rw [InputFile.tree?, readable, Option.bind_some] at refused
  rw [runText_compiled compiled, linesOf_fault refused, InputFile.fault, readable]

end Query

-- To run over files is to run over their texts one by one, up to the first file that cannot be read or holds no
-- document: its error is the result, whatever files are in front of it and behind it. An expression that does not
-- compile is refused before any file is looked at.
theorem Query.runFiles_exact (q : Query) (files : List InputFile) (given : files ≠ []) :
    (∀ error, q.compile = .error error →
      q.runFiles files = .error error ∧ ∀ text, q.runText text = .error error) ∧
    ∀ path, q.compile = .ok path →
      match files.find? InputFile.isFaulty with
      | none => ∃ lines : List (List String),
        List.Forall₂ q.Gives files lines ∧ q.runFiles files = .ok lines.flatten
      | some file => q.runFiles files = .error file.fault ∧
        ∀ text, file.text = some text → q.runText text = .error file.fault := by
  refine ⟨fun error refused => ⟨runFiles_uncompiled given refused, runText_uncompiled refused⟩, ?_⟩
  intro path compiled
  rw [runFiles_compiled given compiled, linesOfFiles_eq]
  cases first : files.find? InputFile.isFaulty with
  | none =>
    refine ⟨files.map fun file => file.tree?.elim [] (q.linesIn path), ?_, rfl⟩
    rw [List.forall₂_map_right_iff, List.forall₂_same]
    intro file here
    have whole : ¬file.isFaulty = true := List.find?_eq_none.mp first file here
    obtain ⟨tree, read⟩ := Option.ne_none_iff_exists'.mp (mt Option.isNone_iff_eq_none.mpr whole)
    rw [read]
    exact gives_tree compiled read
  | some file =>
    have faulty : file.isFaulty = true := List.find?_some first
    exact ⟨rfl, fun text readable => runText_fault compiled (Option.isNone_iff_eq_none.mp faulty) readable⟩

-- The second text has no end, and the file behind it is not there.
theorem Query.runFiles_exact_second :
    let q : Query := ⟨"[0]", .extended, none, false, false⟩
    let files : List InputFile := [⟨"a", some "[1]"⟩, ⟨"b", some "[2"⟩, ⟨"c", none⟩]
    files ≠ [] ∧ q.runFiles files = .error (@QueryError.notJson "[2") ∧
      q.runText "[2" = .error (@QueryError.notJson "[2") := by
  intro q files
  have given : files ≠ [] := List.cons_ne_nil _ _
  have compiled : Query.compile ⟨"[0]", .extended, none, false, false⟩ = .ok (.index 0) := rfl
  have second : files.find? InputFile.isFaulty = some ⟨"b", some "[2"⟩ := rfl
  have run := (Query.runFiles_exact q files given).2 _ compiled
  rw [second] at run
  exact ⟨given, run.1, run.2 _ rfl⟩

end TreePath
