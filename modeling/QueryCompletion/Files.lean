import QueryCompletion.Text.Quoted
import QueryCompletion.Text.Utf8

/-!
Files by path. Empty and `.` segments of a path do not count; two slashes at its start differ from
one. A path is followed segment by segment, and every segment but the last has to be a directory.
-/

namespace QueryCompletion

namespace Path

/-- The segments that count. -/
def segments (path : Text) : List Text :=
  (Text.pieces '/' path).filter fun segment => !segment.isEmpty && segment ≠ ['.']

/-- The slashes at the start that count. -/
def root (path : Text) : Text :=
  match path.takeWhile (· = '/') with
  | [] => []
  | ['/', '/'] => ['/', '/']
  | _ => ['/']

/-- The path as it is shown in messages. -/
def shown (path : Text) : Text :=
  let rooted := root path ++ Text.joinWith ['/'] (segments path)
  if rooted.isEmpty then ['.'] else rooted

end Path

/-- A place in the tree of directories: below its root, or so many levels above the working
directory and then down again. -/
structure Place where
  rooted : Bool
  levels : Nat := 0
  names : List Text := []
deriving DecidableEq, Repr

namespace Place

/-- The place that one more segment leads to; above the root is the root again. -/
def step (place : Place) (segment : Text) : Place :=
  if segment = ['.', '.'] then
    match place.names with
    | [] => { place with levels := if place.rooted then 0 else place.levels + 1 }
    | _ :: _ => { place with names := place.names.dropLast }
  else { place with names := place.names ++ [segment] }

/-- Where a path starts. -/
def start (path : Text) : Place := { rooted := path.head? == some '/' }

/-- The place that a path spells, whatever stands on the way. -/
def ofPath (path : Text) : Place := (Path.segments path).foldl step (start path)

/-- Whether the second place lies below the first one. -/
def isAbove (place below : Place) : Bool :=
  place.rooted = below.rooted && place.levels = below.levels && place.names.isPrefixOf below.names &&
    place.names.length < below.names.length

end Place

/-- Why nothing can be read at a path. -/
inductive AccessError where
  | notFound
  | notDirectory
  | isDirectory
  | nameTooLong
  | zeroCharacter
deriving DecidableEq, Repr

def AccessError.message (path : Text) : AccessError → String
  | .notFound => "[Errno 2] No such file or directory: " ++ String.ofList (Text.quoted path)
  | .notDirectory => "[Errno 20] Not a directory: " ++ String.ofList (Text.quoted path)
  | .isDirectory => "[Errno 21] Is a directory: " ++ String.ofList (Text.quoted path)
  | .nameTooLong => "[Errno 36] File name too long: " ++ String.ofList (Text.quoted path)
  | .zeroCharacter => "embedded null byte"

/-- Paths of files and their contents. -/
abbrev Files := List (Text × Text)

namespace Files

/-- Directories that every system has, beside the files one is given. -/
def systemDirectories : List String :=
  ["/bin", "/dev", "/etc", "/home", "/lib", "/mnt", "/opt", "/proc", "/root", "/run", "/sbin", "/srv",
    "/sys", "/tmp", "/usr", "/var"]

/-- The given files and the empty one that every system has. -/
def all (files : Files) : Files := files ++ [("/dev/null".toList, [])]

/-- The contents of the file at a place. -/
def at? (files : Files) (place : Place) : Option Text :=
  (files.all.find? fun file => Place.ofPath file.1 = place).map Prod.snd

/-- Whether a place is a directory: the working directory, one above it, one on the way to a file or
one that every system has. -/
def isDirectory (files : Files) (place : Place) : Bool :=
  place.names.isEmpty || files.all.any (fun file => place.isAbove (Place.ofPath file.1)) ||
    systemDirectories.any fun directory => Place.ofPath directory.toList = place

/-- Follows segments from a place on. A name of more than 255 bytes is refused. -/
def follow (files : Files) (place : Place) : List Text → Except AccessError Place
  | [] => .ok place
  | segment :: rest =>
    let next := place.step segment
    if !files.isDirectory place then .error .notDirectory
    else if 255 < (Text.utf8 segment).length then .error .nameTooLong
    else if files.isDirectory next || (files.at? next).isSome then follow files next rest
    else .error .notFound

/-- The place at the end of a path. A path of more than 4095 bytes is refused. -/
def locate (files : Files) (path : Text) : Except AccessError Place :=
  if path.contains '\x00' then .error .zeroCharacter
  else if 4095 < (Text.utf8 (Path.shown path)).length then .error .nameTooLong
  else files.follow (Place.start path) (Path.segments path)

/-- The contents of the file at a path. -/
def read (files : Files) (path : Text) : Except AccessError Text := do
  let place ← files.locate path
  match files.at? place with
  | some contents => return contents
  | none => .error .isDirectory

/-- Whether there is anything at a path; a path that is too long does not tell. -/
def hasPath (files : Files) (path : Text) : Except AccessError Bool :=
  match files.locate path with
  | .ok _ => .ok true
  | .error .nameTooLong => .error .nameTooLong
  | .error _ => .ok false

end Files

end QueryCompletion
