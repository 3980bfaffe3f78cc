import SwapRouter.Text.Quoted

/-!
# Files and their paths

A path leads from the working directory, or from the root if it starts with a slash,
through directories to a file.  Its parts are walked one after the other: each step needs
a directory to stand on, `..` goes one directory up, and nothing lies above the root.

`Files.read` reads the file at the end of a path, and `PathFault.message` words why there
is nothing to read.  A path is named in its plain form, without empty parts and without
parts that stay in place.
-/

namespace SwapRouter

/-- A part of a path, between its slashes. -/
abbrev PathPart := List Char

/-- A place in the tree of files: whether the way there starts at the root, and the parts
of the way.  A way from the working directory may start with steps upwards. -/
structure Place where
  isAbsolute : Bool
  parts : List PathPart
  deriving DecidableEq, Repr

/-- The files and directories that there are, by their paths.  A directory on the way to
one of them need not be listed. -/
structure Files where
  entries : List (String × String) := []
  directories : List String := []

/-- Why a path does not lead to a file. -/
inductive PathFault where
  | missing
  | notDirectory
  | isDirectory
  | tooLong
  /-- A path holds no null character, and halves of pairs only where they stand for a
  byte. -/
  | malformed
  deriving DecidableEq, Repr

namespace Files

/-- The step to the directory above. -/
def upwards : PathPart := ['.', '.']

/-- The parts of a path, without those that stay in place. -/
def pathParts (path : String) : List PathPart :=
  (path.toList.splitOn '/').filter fun part => part ≠ [] && part ≠ ['.']

/-- What stands in front of the parts of a path: two slashes are kept, more are one. -/
def rootText : List Char → List Char
  | '/' :: '/' :: '/' :: _ => ['/']
  | '/' :: '/' :: _ => ['/', '/']
  | '/' :: _ => ['/']
  | _ => []

/-- The plain form of a path. -/
def plainPath (path : String) : String :=
  let plain := rootText path.toList ++ ((pathParts path).intersperse ['/']).flatten
  String.ofList (if plain = [] then ['.'] else plain)

/-- The place where a path starts. -/
def startOf (path : String) : Place := ⟨path.toList.head? = some '/', []⟩

end Files

namespace Place

open Files

/-- One step from a place that is a directory. -/
def step (p : Place) (part : PathPart) : Place :=
  if part = upwards then match p.parts.getLast? with
    | none => if p.isAbsolute then p else { p with parts := [upwards] }
    | some last =>
      { p with parts := if last = upwards then p.parts ++ [upwards] else p.parts.dropLast }
  else { p with parts := p.parts ++ [part] }

/-- The place to which a path leads through directories. -/
def ofPath (path : String) : Place := (pathParts path).foldl step (startOf path)

/-- Whether one place lies on the way to another one. -/
def isAbove (p q : Place) : Bool :=
  p.isAbsolute = q.isAbsolute && p.parts.isPrefixOf q.parts && p.parts ≠ q.parts

end Place

namespace Files

/-- The text of the file at a place. -/
def textAt? (files : Files) (p : Place) : Option String :=
  (files.entries.find? fun entry => Place.ofPath entry.1 = p).map (·.2)

/-- Whether a place is a directory. -/
def isDirectory (files : Files) (p : Place) : Bool :=
  p.parts.all (· = upwards)
    || files.directories.any (fun path => Place.ofPath path = p || p.isAbove (Place.ofPath path))
    || files.entries.any fun entry => p.isAbove (Place.ofPath entry.1)

/-- How many bytes a letter of a path takes.  A byte that is no character is named by a
half. -/
def byteCount (l : Text.Letter) : Nat := if l.half?.isSome then 1 else l.char.utf8Size

/-- How many bytes a part of a path takes. -/
def sizeOf (part : PathPart) : Nat :=
  (Text.lettersOf part).foldr (fun l size => byteCount l + size) 0

/-- The greatest size of a part of a path. -/
def maxPartSize : Nat := 255

/-- The greatest size of a path. -/
def maxPathSize : Nat := 4095

/-- Walks the parts of a path from a place. -/
def walk (files : Files) (p : Place) : List PathPart → Except PathFault Place
  | [] => .ok p
  | part :: parts =>
    if files.isDirectory p then
      if maxPartSize < sizeOf part then .error .tooLong else files.walk (p.step part) parts
    else if (files.textAt? p).isSome then .error .notDirectory
    else .error .missing

/-- Whether a letter may be part of a path.  The halves that name a byte are second ones. -/
def isPathLetter (l : Text.Letter) : Bool :=
  l.char ≠ '\x00' && match l.half? with
    | some half => 0xDC80 ≤ half && half < 0xDD00
    | none => true

/-- Reads the file to which a path leads. -/
def read (files : Files) (path : String) : Except PathFault String :=
  if !(Text.letters path).all isPathLetter then .error .malformed
  else if maxPathSize < sizeOf (plainPath path).toList then .error .tooLong
  else match files.walk (startOf path) (pathParts path) with
    | .error fault => .error fault
    | .ok p =>
      if files.isDirectory p then .error .isDirectory
      else match files.textAt? p with
        | some text => .ok text
        | none => .error .missing

end Files

/-- The wording of a fault by the system that keeps the files. -/
def PathFault.message (path : String) (fault : PathFault) : String :=
  let reason := match fault with
    | .missing => "[Errno 2] No such file or directory"
    | .notDirectory => "[Errno 20] Not a directory"
    | .isDirectory => "[Errno 21] Is a directory"
    | .tooLong => "[Errno 36] File name too long"
    | .malformed => "embedded null byte"
  reason ++ ": " ++ Text.quoted (Files.plainPath path)

end SwapRouter
