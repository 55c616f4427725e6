import CounterCatalog.Path
import CounterCatalog.Text.Utf8
import CounterCatalog.Tree.Resolve

/-!
# Reading and writing files of a tree

`read` gives the bytes of the file at a path. `create` opens a path for writing: it empties the file that
stands there, or makes an empty one. `writeAt` puts bytes at an offset of a file, over what was there and
with zeros in a gap. `makeDirectories` makes the directories of a path that do not exist yet.
-/

set_option autoImplicit false

namespace CounterCatalog

/-- What an open path leads to. -/
inductive Target where
  /-- A regular file. -/
  | file (handle : Handle)
  /-- A device. -/
  | device (device : Device)
  /-- An open stream, by number. -/
  | stream (number : Nat)
deriving DecidableEq

namespace Tree

/-- How the bytes of a program of the system begin; they are no text. -/
def programBytes : List UInt8 := [0x7F, 0x45, 0x4C, 0x46, 0x02, 0x01, 0x01, 0x00, 0xFF]

/-- The bytes that a node gives when it is read from its beginning. -/
def contentOf : Node → Except Fault (List UInt8)
  | .file content _ => .ok content
  | .directory _ _ _ => .error .isADirectory
  | .device .terminal => .error .noDevice
  | .program _ => .ok programBytes
  | .device _ | .link _ | .stream _ => .ok []

/-- The bytes of the file at a path. A directory can be opened but not read. -/
def read (tree : Tree) (cwd : Handle) (path : List UInt8) : Except Fault (List UInt8) :=
  match tree.locate cwd path with
  | .error fault => .error fault
  | .ok (_, node) => contentOf node

/-- What a node leads to once it has been opened for writing. -/
def targetOf (handle : Handle) : Node → Except Fault Target
  | .file _ _ => .ok (.file handle)
  | .directory _ _ _ => .error .isADirectory
  | .device .terminal => .error .noDevice
  | .device device => .ok (.device device)
  | .stream number => .ok (.stream number)
  | .link _ => .error .tooManyLinks
  | .program _ => .error .busy

/-- What a path opened for writing leads to, and the tree with a new file there if nothing stood there; what
becomes of the bytes of a file that stands there is for the caller to say. -/
def openWith (tree : Tree) (cwd : Handle) (path : List UInt8) (mode : Nat)
    (keep : List UInt8 → List UInt8) : Except Fault (Target × Tree) :=
  match tree.findWith .made cwd path with
  | .error fault => .error fault
  | .ok (.taken handle (.file content mode)) =>
    .ok (.file handle, tree.set handle (.file (keep content) mode))
  | .ok (.taken handle node) =>
    match targetOf handle node with
    | .error fault => .error fault
    | .ok target => .ok (target, tree)
  | .ok (.free directory name _) =>
    if tree.isGone directory then .error .notFound
    else
      let (handle, tree) := tree.place directory name (.file [] mode)
      .ok (.file handle, tree)

/-- What a path opened for writing leads to, and the tree with the file there emptied or made. -/
def create (tree : Tree) (cwd : Handle) (path : List UInt8) : Except Fault (Target × Tree) :=
  tree.openWith cwd path Node.fileMode fun _ => []

/-- A file's bytes after others have been put at an offset. -/
def overwrite (content : List UInt8) (offset : Nat) (bytes : List UInt8) : List UInt8 :=
  (content ++ List.replicate (offset - content.length) 0).take offset ++ bytes ++
    content.drop (offset + bytes.length)

/-- The tree with bytes put at an offset of a file. -/
def writeAt (tree : Tree) (handle : Handle) (offset : Nat) (bytes : List UInt8) : Tree :=
  match tree.get? handle with
  | some (.file content mode) => tree.set handle (.file (overwrite content offset bytes) mode)
  | _ => tree

/-- A device takes what is written, or does not. -/
def deviceTakes : Device → Except Fault Unit
  | .null | .zero => .ok ()
  | .full => .error .noSpace
  | .terminal => .error .inputOutput

/-- The fault of something in the way of a directory: at the end of the path it is in the place of that
directory, and before the end it cannot be gone through. -/
def obstacle (rest : List Name) (fault : Fault) : Fault :=
  if rest = [] then .alreadyExists else fault

/-- The tree with the directories along the steps, those that exist left as they are; a link is gone
through where it leads to a directory, and a link that leads nowhere is in the way. -/
def makeAlong (tree : Tree) (mode : Nat) : Handle → List Name → Except Fault Tree
  | _, [] => .ok tree
  | directory, step :: rest =>
    match tree.enter directory step with
    | .error .notFound =>
      if tree.isGone directory then .error .notFound
      else
        let (next, tree) := tree.placeDirectory directory step mode
        tree.makeAlong mode next rest
    | .error fault => .error fault
    | .ok handle =>
      match tree.get? handle with
      | some (.directory _ _ _) => tree.makeAlong mode handle rest
      | some (.link _) =>
        match tree.walk .followed linkLimit directory ⟨false, [step], false⟩ with
        | .error .notFound => .error .alreadyExists
        | .error fault => .error (obstacle rest fault)
        | .ok place =>
          match tree.spotOf place with
          | .ok (.taken next (.directory _ _ _)) => tree.makeAlong mode next rest
          | .ok (.taken _ _) => .error (obstacle rest .notADirectory)
          | .ok (.free _ _ _) | .error .notFound => .error .alreadyExists
          | .error fault => .error (obstacle rest fault)
      | _ => .error (obstacle rest .notADirectory)

/-- The tree with the directories of a path, those that exist left as they are. -/
def makeDirectories (tree : Tree) (cwd : Handle) (path : List UInt8) : Except Fault Tree :=
  if path.contains 0 then .error .zeroInPath
  else if pathLimit ≤ path.length then .error .nameTooLong
  else
    let route := Route.ofPath path
    tree.makeAlong Node.openMode (origin cwd route) route.steps

/-- The tree with the directories that a path's last component is in. -/
def makeParents (tree : Tree) (cwd : Handle) (path : String) : Except Fault Tree :=
  tree.makeDirectories cwd (Text.Utf8.encode ((Path.parent? path).getD ""))

/-- The tree with a file at a path, its directories made where they are missing. -/
def install (tree : Tree) (cwd : Handle) (path : String) (content : List UInt8) (mode : Nat) :
    Except Fault Tree :=
  match tree.makeParents cwd path with
  | .error fault => .error fault
  | .ok tree =>
    match tree.create cwd (Text.Utf8.encode path) with
    | .error fault => .error fault
    | .ok (.file handle, tree) => .ok (tree.set handle (.file content mode))
    | .ok (.device device, tree) => (deviceTakes device).map fun _ => tree
    | .ok (.stream _, tree) => .ok tree

/-- The tree with a symbolic link at a path, its directories made where they are missing. -/
def installLink (tree : Tree) (cwd : Handle) (path target : String) : Except Fault Tree :=
  match tree.makeParents cwd path with
  | .error fault => .error fault
  | .ok tree =>
    match tree.find false cwd (Text.Utf8.encode path) with
    | .error fault => .error fault
    | .ok (.taken _ _) => .error .alreadyExists
    | .ok (.free directory name _) =>
      .ok (tree.place directory name (.link (Text.Utf8.encode target))).2

end Tree

end CounterCatalog
