import MovePlan.Error
import MovePlan.Text.Encoding
import MovePlan.Text.Lines

/-!
# Files

A tree of directories and files, as a list of places with what stands there. A path is written with
slashes; empty and `.` components mean nothing, `..` leads to the parent of a directory that is there,
and a slash at the start leads to the root. Paths start at a working directory. What is outside of it
is not known: the root and the directories above are there, and nothing else until it is written.
Texts are read as UTF-8 with unified line ends.
-/

namespace MovePlan.Storage

open Text

/-- The components of a path. That of a path from the root begins with the slashes of the root. -/
abbrev Path := List String

namespace Path

/-- The texts between the slashes of a text. -/
def splitSlashes (s : List Char) : List String := (split [] s).map String.ofList
where
  split (word : List Char) : List Char → List (List Char)
    | [] => [word.reverse]
    | c :: rest => if c = '/' then word.reverse :: split [] rest else split (c :: word) rest

/-- The root. -/
def root : String := "/"

/-- The root written with two slashes, which is kept apart in texts. -/
def doubleRoot : String := "//"

/-- The component that leads to the parent. -/
def parent : String := ".."

/-- Whether a component leads to the root. -/
def isRoot (c : String) : Bool := c == root || c == doubleRoot

/-- The slashes that a written path from the root begins with: one, or two where there are just
two. -/
def rootOf : List Char → List String
  | '/' :: '/' :: '/' :: _ => [root]
  | '/' :: '/' :: _ => [doubleRoot]
  | '/' :: _ => [root]
  | _ => []

/-- The components of a written path. -/
def parse (s : String) : Path :=
  rootOf s.toList ++ (splitSlashes s.toList).filter fun c => c != "" && c != "."

/-- A path as text. -/
def text : Path → String
  | [] => "."
  | c :: rest =>
    let below := "/".intercalate rest
    if isRoot c then c ++ below else if rest.isEmpty then c else c ++ "/" ++ below

/-- The name at the end of a path, if it has one. -/
def name? (p : Path) : Option String := p.getLast?.filter fun c => !isRoot c

/-- The greatest number of bytes in a written path. -/
def longest : Nat := 4095

/-- Whether a component has the character with the code zero, which no file name has. -/
def hasZero (p : Path) : Bool := p.any fun c => c.toList.any fun c => c == '\x00'

end Path

/-- Whether an error is about where a file is, not about what it holds. -/
def isStorageFault : Error → Bool
  | .noSuchFile _ | .isDirectory _ | .notDirectory _ | .alreadyExists _ | .nameTooLong _
  | .busy _ | .refused _ => true
  | _ => false

/-- Whether an error is one that a file may meet with while it is written. -/
def isWritingFault : Error → Bool
  | .unencodable _ => true
  | e => isStorageFault e

/-- The contents of a file. -/
inductive Content where
  | text (s : String)
  | bytes (b : List UInt8)
  deriving Inhabited

/-- What stands at a path. -/
inductive Node where
  | directory
  | file (content : Content)
  deriving Inhabited

/-- Places and what stands there. A place is a path without detours: from the working directory, from
one of the directories above it, or from the root. -/
structure FileTree where
  entries : List (Path × Node) := []
  deriving Inhabited

namespace FileTree

/-- Whether a place is always there: the working directory, one above it, or the root. -/
def isGiven (place : Path) : Bool := place == [Path.root] || place.all (· == Path.parent)

/-- Whether a place is in the working directory. -/
def isInside (place : Path) : Bool :=
  !(place.head? == some Path.root || place.head? == some Path.parent)

/-- What stands at a place. -/
def node? (t : FileTree) (place : Path) : Option Node :=
  if isGiven place then some .directory else t.entries.lookup place

/-- The place above a place. Nothing is above the root. -/
def above (place : Path) : Path :=
  if place = [Path.root] then place
  else if place.all (· == Path.parent) then place ++ [Path.parent]
  else place.dropLast

/-- The longest name that a file may have, in bytes. -/
def longestName : Nat := 255

/-- The place that a component leads to from a directory. -/
def step (shown : String) (place : Path) (c : String) : Except Error Path :=
  if Path.isRoot c then .ok [Path.root]
  else if c = Path.parent then .ok (above place)
  else if longestName < c.utf8ByteSize then .error (.nameTooLong shown)
  else .ok (place ++ [c])

/-- Follows components from a place. All but the last have to be directories. -/
def follow (t : FileTree) (shown : String) (place : Path) : Path → Except Error Path
  | [] => .ok place
  | c :: rest =>
    match t.node? place with
    | none => .error (.noSuchFile shown)
    | some (.file _) => .error (.notDirectory shown)
    | some .directory =>
      match step shown place c with
      | .ok next => follow t shown next rest
      | .error e => .error e

/-- The place that a path leads to. -/
def resolve (t : FileTree) (p : Path) : Except Error Path :=
  if p.hasZero then .error .zeroInPath
  else if Path.longest < p.text.utf8ByteSize then .error (.nameTooLong p.text)
  else t.follow p.text [] p

/-- Whether anything stands at a path. A name that is too long is an error. -/
def isThere (t : FileTree) (p : Path) : Except Error Bool :=
  match t.resolve p with
  | .ok place => .ok (t.node? place).isSome
  | .error (.nameTooLong s) => .error (.nameTooLong s)
  | .error _ => .ok false

def isDirectory (t : FileTree) (p : Path) : Bool :=
  match t.resolve p with
  | .ok place => match t.node? place with
    | some .directory => true
    | _ => false
  | .error _ => false

/-! ## Reading -/

/-- The text of a file's contents. -/
def contentText (c : Content) : Except Error String :=
  match c with
  | .text s => .ok (String.ofList (unifyLineEnds s.toList))
  | .bytes b =>
    match Encoding.utf8.decode b with
    | .ok s => .ok (String.ofList (unifyLineEnds s))
    | .error u => .error (.undecodable (Encoding.utf8.describe u))

/-- Reads a file. -/
def read (t : FileTree) (p : Path) : Except Error String := do
  match t.node? (← t.resolve p) with
  | none => throw (.noSuchFile p.text)
  | some .directory => throw (.isDirectory p.text)
  | some (.file c) => contentText c

/-! ## Writing -/

/-- Puts a node at a place: instead of what is there, or at the end. -/
def setEntry (place : Path) (n : Node) : List (Path × Node) → List (Path × Node)
  | [] => [(place, n)]
  | (q, m) :: rest => if q = place then (place, n) :: rest else (q, m) :: setEntry place n rest

def put (t : FileTree) (place : Path) (n : Node) : FileTree := ⟨setEntry place n t.entries⟩

def drop (t : FileTree) (place : Path) : FileTree := ⟨t.entries.filter fun e => e.1 != place⟩

/-- Writes a file, new or instead of another. -/
def write (t : FileTree) (p : Path) (s : String) : Except Error FileTree := do
  let place ← t.resolve p
  match t.node? place with
  | some .directory => throw (.isDirectory p.text)
  | _ =>
    -- the parent of a new file has to be a directory
    let _ ← t.follow p.text place.dropLast (place.drop (place.length - 1))
    return t.put place (.file (.text s))

/-- Writes behind what a file holds, or a new file. -/
def append (t : FileTree) (p : Path) (s : String) : Except Error FileTree := do
  let place ← t.resolve p
  match t.node? place with
  | some (.file (.text before)) => return t.put place (.file (.text (before ++ s)))
  | some (.file (.bytes before)) =>
    return t.put place (.file (.bytes (before ++ s.toUTF8.toList)))
  | _ => t.write p s

/-- Makes one directory. -/
def makeDirectory (t : FileTree) (p : Path) : Except Error FileTree := do
  let place ← t.resolve p
  match t.node? place with
  | some _ => throw (.alreadyExists p.text)
  | none => return t.put place .directory

/-- Makes a directory if it is not there; anything else in its place is an error. -/
def ensureOne (t : FileTree) (p : Path) : Except Error FileTree :=
  match t.makeDirectory p with
  | .ok t => .ok t
  | .error e => if t.isDirectory p then .ok t else .error e

/-- Makes a directory and those above it that are missing; the components are given backward. -/
def ensureBackward (t : FileTree) : Path → Except Error FileTree
  | [] => .ok t
  | c :: above =>
    let p := (c :: above).reverse
    match t.makeDirectory p with
    | .ok t => .ok t
    | .error (.noSuchFile _) => do
      let t ← ensureBackward t above
      t.ensureOne p
    | .error e => if t.isDirectory p then .ok t else .error e

/-- Makes a directory and those above it that are missing. -/
def ensureDirectory (t : FileTree) (p : Path) : Except Error FileTree := t.ensureBackward p.reverse

/-- The tree that is left where a directory could not be made: those above it may have been. The
components are given backward. -/
def leftBackward (t : FileTree) : Path → FileTree
  | [] => t
  | c :: above =>
    match t.makeDirectory (c :: above).reverse with
    | .ok _ => t
    | .error (.noSuchFile _) =>
      match t.ensureBackward above with
      | .ok t => t
      | .error _ => leftBackward t above
    | .error _ => t

/-- Removes a file. -/
def remove (t : FileTree) (p : Path) : Except Error FileTree := do
  let place ← t.resolve p
  match t.node? place with
  | none => throw (.noSuchFile p.text)
  | some .directory => throw (.isDirectory p.text)
  | some (.file _) => return t.drop place

/-- Moves a file to another path, instead of the file there. The parent of a directory is in use. -/
def rename (t : FileTree) (source target : Path) : Except Error FileTree := do
  let a ← t.resolve source
  let b ← t.resolve target
  if target.name? == some Path.parent then throw (.busy target.text)
  match t.node? a, t.node? b with
  | none, _ => throw (.noSuchFile source.text)
  | some (.file _), some .directory => throw (.isDirectory target.text)
  | some n, _ => return (t.drop a).put b n

/-! ## Writing all or nothing -/

/-- The name under which a file of the given name is written before it takes its place; there is one
for each number. -/
def temporaryName (name : String) (n : Nat) : String := s!"{name}.tmp.{n}"

/-- The path beside a path under which its file is written first. -/
def temporary (p : Path) (n : Nat) : Except Error Path :=
  match p.name? with
  | none => .error (.emptyFileName p.text)
  | some name => .ok (p.dropLast ++ [temporaryName name n])

/-- Whether anything in the tree has the name, in whatever directory. -/
def isNameTaken (t : FileTree) (name : String) : Bool :=
  t.entries.any fun e => e.1.getLast? == some name

/-- The first number whose temporary name nothing in the tree has. -/
def freeNumber (t : FileTree) (p : Path) : Nat :=
  let free := (List.range (t.entries.length + 1)).find? fun n =>
    !t.isNameTaken (temporaryName (p.name?.getD "") n)
  free.getD t.entries.length

/-- A moment at which the writing of a file may fail. -/
inductive Moment where
  /-- While the directories above are made; those of so many components are. -/
  | making (made : Nat)
  /-- When the temporary file is to be opened. -/
  | opening
  /-- While the temporary file is written; so much stands in it. -/
  | writing (part : String)
  /-- When the temporary file is to take the place of the target. -/
  | renaming

/-- A failure that the tree does not foretell, such as a full disk or a character without bytes. -/
structure Mishap where
  moment : Moment
  error : Error
  isFault : isWritingFault error = true

/-- What an action comes to and the tree it leaves, where a failed one leaves the tree given. -/
def outcome (left : FileTree) : Except Error FileTree → Except Error Unit × FileTree
  | .ok t => (.ok (), t)
  | .error e => (.error e, left)

/-- Makes the directories above a target. -/
def makeAbove (mishap : Option Mishap) (t : FileTree) (p : Path) : Except Error Unit × FileTree :=
  match mishap with
  | some ⟨.making made, e, _⟩ => (.error e, (t.ensureDirectory (p.take made)).toOption.getD t)
  | _ => outcome (t.leftBackward p.reverse) (t.ensureDirectory p)

/-- Writes the temporary file. -/
def writeTemporary (mishap : Option Mishap) (t : FileTree) (tmp : Path) (s : String) :
    Except Error Unit × FileTree :=
  match mishap with
  | some ⟨.opening, e, _⟩ => (.error e, t)
  | some ⟨.writing part, e, _⟩ => (.error e, (t.write tmp part).toOption.getD t)
  | _ => outcome t (t.write tmp s)

/-- Puts the temporary file in the place of the target. -/
def replace (mishap : Option Mishap) (t : FileTree) (tmp p : Path) : Except Error Unit × FileTree :=
  match mishap with
  | some ⟨.renaming, e, _⟩ => (.error e, t)
  | _ => outcome t (t.rename tmp p)

/-- Removes the temporary file if it is there. -/
def clear (t : FileTree) (tmp : Path) : FileTree :=
  match t.isThere tmp with
  | .ok true => (t.remove tmp).toOption.getD t
  | _ => t

/-- Writes a file by way of a temporary one. -/
def writeThrough (mishap : Option Mishap) (t : FileTree) (tmp p : Path) (s : String) :
    Except Error Unit × FileTree :=
  match t.writeTemporary mishap tmp s with
  | (.ok (), t) => t.replace mishap tmp p
  | (.error e, t) => (.error e, t)

/-- Writes a file all or nothing: under the temporary name of the number first, which then takes the
place of the target. Where that fails the temporary file is removed. The directories above the target
are made if they are missing, and stay. -/
def writeWholeAs (mishap : Option Mishap) (n : Nat) (t : FileTree) (p : Path) (s : String) :
    Except Error Unit × FileTree :=
  match t.makeAbove mishap p.dropLast with
  | (.error e, t) => (.error e, t)
  | (.ok (), t) =>
    match temporary p n with
    | .error e => (.error e, t)
    | .ok tmp =>
      match t.writeThrough mishap tmp p s with
      | (.ok (), t) => (.ok (), t)
      | (.error e, t) => (.error e, if isWritingFault e then t.clear tmp else t)

/-- Writes a file all or nothing, under a temporary name that nothing has and without a mishap. -/
def writeWhole (t : FileTree) (p : Path) (s : String) : Except Error Unit × FileTree :=
  t.writeWholeAs none (t.freeNumber p) p s

/-! ## Views -/

/-- The files in the working directory with their paths and texts. -/
def files (t : FileTree) : List (String × String) :=
  (t.entries.filter fun e => isInside e.1).filterMap fun e =>
    match e.2 with
    | .directory => none
    | .file (.text s) => some (Path.text e.1, s)
    | .file (.bytes b) => some (Path.text e.1, String.ofList (Utf8.mend b))

/-- Puts a node at a path and makes the directories above it. Where a file is in the way nothing is
put. -/
def place (t : FileTree) (p : Path) (n : Node) : FileTree :=
  let made : Except Error FileTree := do
    let t ← t.ensureDirectory p.dropLast
    return t.put (← t.resolve p) n
  made.toOption.getD t

/-- A tree that holds directories and files. -/
def ofFiles (directories : List String) (files : List (String × Content)) : FileTree :=
  let nodes := directories.map (fun d => (d, Node.directory)) ++
    files.map fun f => (f.1, Node.file f.2)
  nodes.foldl (fun t n => t.place (Path.parse n.1) n.2) {}

end FileTree

end MovePlan.Storage
