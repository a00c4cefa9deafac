import MovePlan.Host.Table
import MovePlan.Host.Panel

/-!
# A console

One way to show what commands show, for running the program: without colours, in lines of a fixed
width. Nothing else depends on how it does so.

A mark is a small letter, a slash, a hash or an at sign and more text in square brackets. It has no place
in what is shown; a backslash before it makes it a part of the text. A mark with a slash ends the last one
of its name, and is an error if there is none.
-/

namespace MovePlan.Host

open Text Cli

/-! ## Marks -/

/-- The mark behind an opening bracket, if one begins there. -/
def markOf? (s : List Char) : Option (List Char) :=
  let mark := s.takeWhile fun c => c != ']' && c != '['
  match mark, s.drop mark.length with
  | c :: _, ']' :: _ =>
    if ('a' ≤ c && c ≤ 'z') || c == '#' || c == '/' || c == '@' then some mark else none
  | _, _ => none

/-- The name of a style as marks tell it. -/
def styleName (s : List Char) : List Char := trim ((s.takeWhile (· != '=')).map Char.toLower)

/-- The open marks after one that ends the last of its name; none if there is no such mark. -/
def closeMark? (name : List Char) : List (List Char) → Option (List (List Char))
  | [] => none
  | mark :: marks =>
    if name = [] ∨ mark = name then some marks else (closeMark? name marks).map (mark :: ·)

/-- What is raised about a mark that ends nothing. -/
def strayMark : Error := .foreign "MarkupError" false ""

/-- A text without its marks. `marks` are those that are open, the last one first, and the first `skip`
characters are done with already. -/
def plainText (marks : List (List Char)) (skip : Nat) : List Char → Except Error (List Char)
  | [] => .ok []
  | c :: rest =>
    match skip with
    | n + 1 => plainText marks n rest
    | 0 =>
      let slashes := (c :: rest).takeWhile (· == '\\')
      let behind := (c :: rest).drop slashes.length
      let mark? := match behind with
        | '[' :: inner => markOf? inner
        | _ => none
      match mark?, behind with
      | some mark, _ =>
        let escaped := List.replicate (slashes.length / 2) '\\'
        if slashes.length % 2 = 1 then
          (plainText marks slashes.length rest).map (escaped ++ ['['] ++ ·)
        else
          let done := slashes.length + mark.length + 1
          let marks? := match mark with
            | '/' :: name => closeMark? (styleName name) marks
            | name => some (styleName name :: marks)
          match marks? with
          | none => .error strayMark
          | some marks => (plainText marks done rest).map (escaped ++ ·)
      | none, '[' :: _ =>
        (plainText marks slashes.length rest).map (slashes.dropLast ++ ['['] ++ ·)
      | none, _ => (plainText marks 0 rest).map (c :: ·)

/-- A text without its marks. -/
def plain (s : String) : Except Error String := (plainText [] 0 s.toList).map String.ofList

/-! ## Showing -/

/-- Lines, each ended by a line feed. -/
def ended (lines : List (List Char)) : String :=
  String.ofList (lines.flatMap fun line => line ++ ['\n'])

/-- Shows something. -/
def console : Console
  | .line s => do return ended (shownLines (← plain s).toList)
  | .table t => do
    let title ← plain t.title
    let rows ← t.rows.mapM fun row => row.mapM plain
    return ended (Table.render { t with title, rows })
  | .panel p => do
    let title ← plain p.title
    let text ← plain p.text
    return ended (Panel.render { p with title, text })

end MovePlan.Host
