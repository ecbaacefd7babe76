/-
  FlatFile/Line/Basic.lean
  ========================
  **Lines of text.**

  A text is cut into lines by its terminators.  With a terminator of its own,
  only that character ends a line; without one, a line feed, a carriage return
  and the two together do.  Text after the last terminator is a line as well,
  unless it is empty.

  `splitLines` cuts a whole text.  `findEnd` looks for the end of the first line
  in text that may still grow, where a carriage return at the very end decides
  nothing as long as more can come.
-/
import FlatFile.Failure

namespace FlatFile.Line

/-- A line terminator of the settings: one character, or none for the usual three. -/
abbrev Terminator := Option Char

/-- The terminator that the settings name; it has to be one single character. -/
def terminator? : Option String → Except Failure Terminator
  | none => .ok none
  | some text =>
    match text.toList with
    | [c] => .ok (some c)
    | _ => .error (.configuration (.terminator text))

/-- A character that ends a line. -/
def ends (terminator : Terminator) (c : Char) : Bool :=
  match terminator with
  | some own => c == own
  | none => c == '\n' || c == '\r'

/-- Where the first line of a text ends, or how far the search for its end got. -/
inductive Search where
  /-- The line ends at `stop` and the next one starts at `next`. -/
  | found (stop next : Nat)
  /-- No line ends before `resume`, where the search goes on when there is more text. -/
  | unfinished (resume : Nat)
deriving DecidableEq, Repr

/-- Looks for the end of the first line; `position` is that of the text given, `ended`
    tells that no more text can come. -/
def findEnd (terminator : Terminator) (ended : Bool) (position : Nat) : List Char → Search
  | [] => .unfinished position
  | c :: rest =>
    match terminator with
    | some own =>
      if c = own then .found position (position + 1)
      else findEnd terminator ended (position + 1) rest
    | none =>
      if c = '\n' then .found position (position + 1)
      else if c = '\r' then
        match rest with
        | '\n' :: _ => .found position (position + 2)
        | _ :: _ => .found position (position + 1)
        | [] => if ended then .found position (position + 1) else .unfinished position
      else findEnd terminator ended (position + 1) rest

/-- The lines of a text, given the current line so far, last character first, and
    whether a carriage return has just ended the line before it. -/
def linesFrom (terminator : Terminator) : Bool → List Char → List Char → List (List Char)
  | _, line, [] => if line.isEmpty then [] else [line.reverse]
  | afterReturn, line, c :: rest =>
    match terminator with
    | some own =>
      if c = own then line.reverse :: linesFrom terminator false [] rest
      else linesFrom terminator false (c :: line) rest
    | none =>
      if c = '\n' then
        if afterReturn then linesFrom terminator false [] rest
        else line.reverse :: linesFrom terminator false [] rest
      else if c = '\r' then line.reverse :: linesFrom terminator true [] rest
      else linesFrom terminator false (c :: line) rest

/-- **The lines of a whole text.** -/
def splitLines (terminator : Terminator) (text : List Char) : List (List Char) :=
  linesFrom terminator false [] text

end FlatFile.Line
