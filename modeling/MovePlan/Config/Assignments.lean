import MovePlan.Storage.FileTree

/-!
# Files of assignments

A file of lines `NAME=value`, perhaps with `export ` before the name. Blanks around names and values do
not count, and one pair of like quotes around a value is taken off. Lines that are blank, begin with
`#`, have no `=` or no name are passed over. Of two assignments to a name the later one counts.
-/

namespace MovePlan.Config

open Text Storage

/-- Names with their values, in order of first assignment. -/
abbrev Assignments := List (String × String)

namespace Assignments

def get? (a : Assignments) (name : String) : Option String := a.lookup name

/-- Assigns a value: in place if the name is there, else at the end. -/
def put (name value : String) : Assignments → Assignments
  | [] => [(name, value)]
  | (k, v) :: rest => if k = name then (k, value) :: rest else (k, v) :: put name value rest

/-- The text after `export ` where a line begins so, else the line. -/
def withoutExport (line : List Char) : List Char :=
  match line with
  | 'e' :: 'x' :: 'p' :: 'o' :: 'r' :: 't' :: ' ' :: rest => rest
  | line => line

/-- The texts before and after the first `=`. -/
def cut (line : List Char) : List Char × List Char :=
  (line.takeWhile (· != '='), (line.dropWhile (· != '=')).drop 1)

/-- A value without the pair of like quotes around it, if there is one. -/
def unquote (v : List Char) : List Char :=
  match v with
  | q :: rest =>
    match rest.reverse with
    | r :: inner => if q = r ∧ (q = '\'' ∨ q = '"') then inner.reverse else v
    | [] => v
  | [] => []

/-- The assignment that a line makes. -/
def ofLine? (line : List Char) : Option (String × String) :=
  let line := trim line
  if line.isEmpty || line.head? == some '#' || !line.contains '=' then none
  else
    let (name, value) := cut (withoutExport line)
    let name := trim name
    if name.isEmpty then none
    else some (String.ofList name, String.ofList (unquote (trim value)))

/-- The assignments that a text makes. -/
def ofText (s : String) : Assignments :=
  ((splitLines s.toList).filterMap ofLine?).foldl (fun a e => put e.1 e.2 a) []

/-- The assignments in a file, none if there is no such file. -/
def read (t : FileTree) (path : String) : Except Error Assignments := do
  let p := Path.parse path
  if ← t.isThere p then return ofText (← t.read p) else return []

end Assignments

end MovePlan.Config
