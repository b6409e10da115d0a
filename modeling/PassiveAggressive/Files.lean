import PassiveAggressive.Text.Quoted
import PassiveAggressive.Text.Split

/-!
# Files

The commands read and write files below one working folder.  `Files` holds the texts
in it, by their place, and the folders made in it.  Every place on the way to a file
is a folder as well.  A place is the list of names on the way to it; what lies outside
the working folder has the root in front.

A path is written with slashes and may step up again; it leads somewhere only if
every place it steps through is a folder.
-/

namespace PassiveAggressive

/-- A path as it is written, without the parts that do not move. -/
structure Path where
  absolute : Bool
  parts : List String
  deriving DecidableEq, Repr

namespace Path

/-- The path in a text. -/
def ofText (s : String) : Path :=
  let pieces := (Text.splitOn '/' [] s.toList).map String.ofList
  ⟨s.toList.head? = some '/', pieces.filter fun p => p ≠ "" && p ≠ "."⟩

/-- The path in its shortest writing. -/
def display (p : Path) : String :=
  match p.absolute, p.parts with
  | false, [] => "."
  | false, parts => Text.joinWith "/" parts
  | true, parts => "/" ++ Text.joinWith "/" parts

/-- The name in front of places outside the working folder. -/
def root : String := "/"

/-- The place where a path begins. -/
def start (p : Path) : List String := if p.absolute then [root] else []

/-- The path without its last part. -/
def parent (p : Path) : Path := { p with parts := p.parts.dropLast }

end Path

/-- What keeps a file from being read or written. -/
inductive FileFault where
  | missing (path : String)
  | isFolder (path : String)
  | notFolder (path : String)
  /-- A file stands where a folder is to be made. -/
  | inTheWay (path : String)
  deriving DecidableEq, Repr

/-- The wording of the fault. -/
def FileFault.message : FileFault → String
  | missing p => "[Errno 2] No such file or directory: " ++ Text.quote p
  | isFolder p => "[Errno 21] Is a directory: " ++ Text.quote p
  | notFolder p => "[Errno 20] Not a directory: " ++ Text.quote p
  | inTheWay p => "[Errno 17] File exists: " ++ Text.quote p

/-- A working folder. -/
structure Files where
  /-- The texts of the files, by the names on the way to them. -/
  texts : List (List String × String)
  /-- The folders made, by the names on the way to them. -/
  folders : List (List String)

/-- What stands at the end of a path. -/
inductive Place? where
  | file (text : String)
  | folder
  | nothing

namespace Files

/-- The working folder with the given files. -/
def ofList (files : List (String × String)) : Files :=
  ⟨files.map fun f => let p := Path.ofText f.1; (p.start ++ p.parts, f.2), []⟩

/-- Whether a place is a folder: it was made, or something lies below it. -/
def isFolder (w : Files) (place : List String) : Bool :=
  place.isEmpty || place = [Path.root] || w.folders.any (fun f => place.isPrefixOf f) ||
    w.texts.any fun t => place.isPrefixOf t.1 && place.length < t.1.length

/-- What stands at a place. -/
def at_ (w : Files) (place : List String) : Place? :=
  match w.texts.lookup place with
  | some text => .file text
  | none => if w.isFolder place then .folder else .nothing

/-- Whether a place has none above it that a path could step to. -/
def isTop (place : List String) : Bool := place.isEmpty || place = [Path.root]

/-- The place that the parts of a path lead to from a place, if they step through folders only. -/
def follow (w : Files) (place : List String) : List String → Option (List String)
  | [] => some place
  | part :: parts =>
    if !w.isFolder place then none
    else if part = ".." then
      if isTop place then none else w.follow place.dropLast parts
    else w.follow (place ++ [part]) parts

/-- What a path leads to. -/
def find (w : Files) (p : Path) : Place? :=
  match w.follow p.start p.parts with
  | some place => w.at_ place
  | none => .nothing

/-- Whether a path leads anywhere. -/
def has (w : Files) (p : Path) : Bool :=
  match w.find p with
  | .nothing => false
  | _ => true

/-- Whether a path leads anywhere as it is written: an empty one does not, and one that ends in a
slash leads to folders only. -/
def hasWritten (w : Files) (s : String) : Bool :=
  match w.find (.ofText s) with
  | .nothing => false
  | .folder => s ≠ ""
  | .file _ => s.toList.getLast? ≠ some '/'

/-- The text of the file that a path leads to. -/
def read (w : Files) (p : Path) : Except FileFault String :=
  match w.find p with
  | .file text => .ok text
  | .folder => .error (.isFolder p.display)
  | .nothing => .error (.missing p.display)

/-- A file that can be read is there. -/
theorem has_of_read {w : Files} {p : Path} {text : String} (h : w.read p = .ok text) :
    w.has p = true := by
  unfold read at h
  unfold has
  cases hfind : w.find p with
  | nothing =>
    rw [hfind] at h
    cases h
  | file | folder => rfl

/-- Makes every folder along `parts` from a place.  `whole` names the folder to be made, and `named`
the path to blame when there is a file in the place of the folder with so many parts to go. -/
def makeAlong (whole : String) (named : Nat → String) (w : Files) (place : List String) :
    List String → Except FileFault Files
  | [] => .ok w
  | part :: parts =>
    if part = ".." then
      if isTop place then .error (.missing whole)
      else makeAlong whole named w place.dropLast parts
    else
      let place := place ++ [part]
      match w.at_ place with
      | .file _ =>
        if parts.isEmpty then .error (.inTheWay whole) else .error (.notFolder (named parts.length))
      | .folder => makeAlong whole named w place parts
      | .nothing =>
        makeAlong whole named { w with folders := w.folders ++ [place] } place parts

/-- Makes a folder and every folder on the way to it. -/
def makeFolder (w : Files) (p : Path) : Except FileFault Files :=
  makeAlong p.display (fun _ => p.display) w p.start p.parts

/-- Makes a folder, whose path is as it is written, and every folder on the way to it, one after the
other; a file in the way is blamed on the first folder below it. -/
def makeFolders (w : Files) (s : String) : Except FileFault Files :=
  let p := Path.ofText s
  if s = "" then .error (.missing s)
  else
    let upTo (left : Nat) : Path := { p with parts := p.parts.take (p.parts.length - left + 1) }
    makeAlong s (fun left => if left ≤ 1 then s else (upTo left).display) w p.start p.parts

/-- The files with a text put in a place. -/
def put (place : List String) (text : String) :
    List (List String × String) → List (List String × String)
  | [] => [(place, text)]
  | t :: ts => if t.1 = place then (place, text) :: ts else t :: put place text ts

/-- Writes a file into an existing folder. -/
def write (w : Files) (p : Path) (text : String) : Except FileFault Files :=
  match w.find p with
  | .folder => .error (.isFolder p.display)
  | _ =>
    match w.follow p.start p.parts with
    | some place => .ok { w with texts := put place text w.texts }
    | none => .error (.missing p.display)

/-- The files that are new or have another text than before, by their paths, in the order of
these. -/
def changed (before after : Files) : List (String × String) :=
  let news := after.texts.filter fun t => before.texts.lookup t.1 ≠ some t.2
  (news.map fun t => (Text.joinWith "/" t.1, t.2)).mergeSort fun a b => a.1 ≤ b.1

end Files
end PassiveAggressive
