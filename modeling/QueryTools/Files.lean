import QueryTools.Text.Blank
import QueryTools.Text.Encoding
import QueryTools.Text.Half
import QueryTools.Text.Quoted
import QueryTools.Keyed

/-!
# Files

The files that an operation can see, by their paths below the working directory.  A directory
exists where a file lies below it, or where it was made.  A path is followed part by part, and
reading says why it leads to no file.
-/

namespace QueryTools

/-- Files with their bytes under normal paths.  A path that ends in a slash is that of a directory
that was made. -/
abbrev Files := Keyed (List UInt8)

/-- Why a file cannot be opened, or a directory cannot be made. -/
inductive FileFault where
  | notFound
  | isDirectory
  | notDirectory
  | exists
  | nameTooLong
  /-- The path holds a character that ends paths. -/
  | embeddedNull
  /-- The path holds a half of a pair that stands for no byte. -/
  | unencodable
  /-- The system refuses the file for a reason of its own, in its own words. -/
  | refused (text : String)
  deriving DecidableEq, Repr

/-- Whether no bytes spell a character of a path: the halves of pairs from U+DC80 to U+DCFF stand for a byte
each, and all others for none. -/
def Files.isStray (c : Char) : Bool :=
  (Text.half? c).any fun unit => !(0xdc80 ≤ unit && unit ≤ 0xdcff)

/-- The wording where no bytes spell a path: which halves of pairs are to blame, from the first on. -/
def Files.strayMessage (path : String) : String :=
  let (before, rest) := path.toList.span fun c => !isStray c
  let halves := (rest.takeWhile fun c => (Text.half? c).isSome).filterMap Text.half?
  let blamed := match halves with
    | [unit] =>
      let digits := String.ofList (Text.hexDigits 4 unit)
      s!"character '\\u{digits}' in position {before.length}"
    | _ => s!"characters in position {before.length}-{before.length + halves.length - 1}"
  s!"'utf-8' codec can't encode {blamed}: surrogates not allowed"

/-- The wording of a fault with a file shown under the given path. -/
def FileFault.message (fault : FileFault) (path : String) : String :=
  let shown := Text.quoted path
  match fault with
  | .notFound => s!"[Errno 2] No such file or directory: {shown}"
  | .isDirectory => s!"[Errno 21] Is a directory: {shown}"
  | .notDirectory => s!"[Errno 20] Not a directory: {shown}"
  | .exists => s!"[Errno 17] File exists: {shown}"
  | .nameTooLong => s!"[Errno 36] File name too long: {shown}"
  | .embeddedNull => "embedded null byte"
  | .unencodable => Files.strayMessage path
  | .refused text => text

namespace Files

/-- The most bytes of one part of a path. -/
def nameLimit : Nat := 255

/-- One past the most bytes of a path. -/
def pathLimit : Nat := 4096

/-- How many bytes spell a part of a path: a half of a pair stands for one. -/
def byteCount (part : String) : Nat :=
  part.toList.foldl (fun count c => count + if (Text.half? c).isSome then 1 else c.utf8Size) 0

/-- Why the system cannot be told of a path, if it cannot: no bytes spell it, or it ends early. -/
def spellingFault? (path : String) : Option FileFault :=
  if path.toList.any isStray then some .unencodable
  else if path.toList.contains '\x00' then some .embeddedNull
  else none

/-- The directories and files that are there on every system. -/
def system : Files :=
  ["/bin/", "/dev/", "/etc/", "/home/", "/lib/", "/media/", "/mnt/", "/opt/", "/proc/", "/root/",
    "/run/", "/sbin/", "/srv/", "/sys/", "/tmp/", "/usr/", "/var/", "/dev/null"].map fun p => (p, [])

/-- The parts of a path that lead somewhere, without empty ones and single dots. -/
def parts (path : String) : List String :=
  (Text.split '/' path).filter fun p => p != "" && p != "."

/-- Whether a path starts at the root. -/
def isAbsolute (path : String) : Bool := path.toList.head? == some '/'

/-- What stands for the root in front of a path: one slash, or two where there are exactly two. -/
def rootText (path : String) : String :=
  match path.toList with
  | '/' :: '/' :: '/' :: _ => "/"
  | '/' :: '/' :: _ => "//"
  | '/' :: _ => "/"
  | _ => ""

/-- A path in its plain form, as messages show it. -/
def plainPath (path : String) : String :=
  let text := rootText path ++ "/".intercalate (parts path)
  if text = "" then "." else text

/-- The parts with each pair of dots taken against the part before; those at the start stay. -/
def resolve (ps : List String) : List String :=
  (ps.foldl (fun acc p =>
    match p, acc with
    | "..", q :: rest => if q = ".." then p :: acc else rest
    | p, acc => p :: acc) []).reverse

/-- The name under which the file of a path is kept. -/
def key (path : String) : String :=
  (if isAbsolute path then "/" else "") ++ "/".intercalate (resolve (parts path))

/-- A directory on the way along a path: whether it is reckoned from the root, and the parts that
lead to it. -/
structure Place where
  absolute : Bool
  parts : List String
  deriving DecidableEq, Repr

namespace Place

/-- The place from which a path starts. -/
def start (path : String) : Place := ⟨isAbsolute path, []⟩

/-- The name under which what lies at the place is kept. -/
def key (p : Place) : String := (if p.absolute then "/" else "") ++ "/".intercalate p.parts

/-- The place of an entry. -/
def entry (p : Place) (name : String) : Place := { p with parts := p.parts ++ [name] }

/-- The place above; above the root is the root. -/
def above (p : Place) : Place :=
  match p.parts.getLast? with
  | none => if p.absolute then p else { p with parts := [".."] }
  | some ".." => p.entry ".."
  | some _ => { p with parts := p.parts.dropLast }

end Place

/-- Whether something lies below a directory, or it was made. -/
def hasBelow (files : Files) (directory : String) : Bool :=
  (files ++ system).any fun p => (directory ++ "/").toList.isPrefixOf p.1.toList

/-- The bytes of the file that lies at a place. -/
def at? (files : Files) (p : Place) : Option (List UInt8) := Keyed.get? p.key (files ++ system)

/-- Where the parts of a path lead from a directory: to a directory, or to the bytes of a file. -/
def follow (files : Files) (here : Place) : List String → Except FileFault (Place ⊕ List UInt8)
  | [] => .ok (.inl here)
  | ".." :: rest => follow files here.above rest
  | name :: rest =>
    let there := here.entry name
    if nameLimit < byteCount name then .error .nameTooLong
    else
      match files.at? there with
      | some bytes => if rest.isEmpty then .ok (.inr bytes) else .error .notDirectory
      | none => if files.hasBelow there.key then follow files there rest else .error .notFound

/-- Where a path leads. -/
def lookup (files : Files) (path : String) : Except FileFault (Place ⊕ List UInt8) :=
  match spellingFault? path with
  | some fault => .error fault
  | none =>
    if pathLimit ≤ byteCount (plainPath path) then .error .nameTooLong
    else follow files (.start path) (parts path)

/-- The bytes of a file. -/
def read (files : Files) (path : String) : Except FileFault (List UInt8) :=
  match files.lookup path with
  | .ok (.inl _) => .error .isDirectory
  | .ok (.inr bytes) => .ok bytes
  | .error fault => .error fault

/-- A path below a directory, unless it starts at the root. -/
def below (directory path : String) : String :=
  if isAbsolute path || directory = "" then path
  else if directory.toList.getLast? == some '/' then directory ++ path
  else directory ++ "/" ++ path

/-- The files with one written anew. -/
def write (path : String) (bytes : List UInt8) (files : Files) : Files :=
  Keyed.put (key path) bytes files

/-- The files with a directory at a place. -/
def withDirectory (p : Place) (files : Files) : Files :=
  if p.parts.isEmpty then files else Keyed.put (p.key ++ "/") [] files

/-- The files without one; its directory stays. -/
def remove (path : String) (files : Files) : Files :=
  withDirectory ⟨isAbsolute path, (resolve (parts path)).dropLast⟩
    (files.filter fun p => p.1 != key path)

/-- A directory that cannot be made: the fault, and the path at which it is noticed. -/
structure DirectoryFault where
  fault : FileFault
  path : String
  deriving DecidableEq, Repr

/-- The files with a directory made, and those above it, where they are not there; `here` leads to
the part that comes next. -/
def makeFrom (files : Files) (here : Place) (shown : String) :
    List String → Except DirectoryFault Files
  | [] => .ok files
  | ".." :: rest => makeFrom files here.above (shown ++ "../") rest
  | name :: rest =>
    let there := here.entry name
    match spellingFault? name with
    | some fault => .error ⟨fault, shown ++ name⟩
    | none =>
      if nameLimit < byteCount name then .error ⟨.nameTooLong, shown ++ name⟩
      else if (files.at? there).isSome then
        match rest with
        | [] => .error ⟨.exists, shown ++ name⟩
        | next :: _ =>
          .error ⟨(spellingFault? next).getD .notDirectory, shown ++ name ++ "/" ++ next⟩
      else makeFrom (files.withDirectory there) there (shown ++ name ++ "/") rest

/-- The files with a directory made, and those above it, where they are not there. -/
def makeDirectory (files : Files) (path : String) : Except DirectoryFault Files :=
  makeFrom files (.start path) (rootText path) (parts path)

/-- The files with one opened for writing, which is there afterwards.  The directories that a path
steps back from need not be there. -/
def openFile (files : Files) (path : String) : Except FileFault Files :=
  let k := key path
  match files.lookup k with
  | .ok (.inl _) => .error .isDirectory
  | .ok (.inr _) => .ok files
  | .error .notFound =>
    match follow files (.start k) (parts k).dropLast with
    | .ok (.inl _) => .ok (files.write k [])
    | .ok (.inr _) => .error .notDirectory
    | .error fault => .error fault
  | .error fault => .error fault

end Files

/-- A text whose lines all end with a single line feed. -/
def Text.unifyLineEnds : List Char → List Char
  | '\r' :: '\n' :: rest => '\n' :: unifyLineEnds rest
  | '\r' :: rest => '\n' :: unifyLineEnds rest
  | c :: rest => c :: unifyLineEnds rest
  | [] => []

end QueryTools
