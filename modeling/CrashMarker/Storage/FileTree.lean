/-
Module: CrashMarker.Storage.FileTree
Purpose: A place for marker files that is a tree of directories, files and symbolic links.
Main exports: Node, FileTree, FileTree.resolve, FileTree.read?, FileTree.write, FileTree.listing
-/
import CrashMarker.Storage.Memory

namespace CrashMarker

/-!
Paths are walked the way a system with symbolic links does it.  Each component has to be looked up
in a directory; a dot stays, two dots go to the parent, and a link is replaced by the components of
its target.  Whether a link in the last place is followed depends on the call: removing a file and
making a new one act on the link itself.  A path that ends in a slash has to lead to a directory.

The lock on a file belongs to the handle that took it, so that two handles exclude each other
wherever they were opened.
-/

structure NodeId where
  serial : Nat
deriving Repr, DecidableEq, Inhabited

/-- What a place in the tree holds. -/
inductive Node where
  | directory (parent : NodeId) (entries : Table (List Char) NodeId)
  | file (file : FileObject)
  | link (target : Path)
deriving Repr, DecidableEq, Inhabited

structure OpenFile where
  node : NodeId
  /-- The path with which the file was opened. -/
  path : Path
deriving Repr, DecidableEq, Inhabited

/-- A tree and the directory in which relative paths start. -/
structure FileTree where
  nodes : Table NodeId Node
  root : NodeId
  current : NodeId
  handles : Table Handle OpenFile := {}
  nextNode : Nat
  nextHandle : Nat := 0
deriving Repr, DecidableEq, Inhabited

namespace FileTree

/-- A tree that is empty but for the directory where relative paths start. -/
def fresh : FileTree :=
  let root : NodeId := ⟨0⟩
  let current : NodeId := ⟨1⟩
  { nodes := (Table.empty.set root (.directory root (Table.empty.set "work".toList current))).set
      current (.directory root {})
    root
    current
    nextNode := 2 }

/-- The most bytes in one component of a path. -/
def longestName : Nat := 255

/-- The bytes from which on a path is too long as a whole. -/
def pathLimit : Nat := 4096

/-- How many links one walk follows at most. -/
def linkLimit : Nat := 40

/-- The first offset that a file position, a signed word of 64 bits, cannot have. -/
def offsetLimit : Nat := 0x8000000000000000

/-- The number of bytes a component takes. -/
def nameSize (name : List Char) : Nat := (String.ofList name).utf8ByteSize

/-- Where a walk ended: at something that is there, or at a free name in a directory, where nothing
but a directory may come if the path said so by a slash. -/
inductive Place where
  | found (node : NodeId)
  | free (directory : NodeId) (name : List Char) (mustEnter : Bool)
deriving Repr, DecidableEq, Inhabited

def entry? (tree : FileTree) (directory : NodeId) (name : List Char) : Option NodeId :=
  match tree.nodes.get? directory with
  | some (.directory _ entries) => entries.get? name
  | _ => none

def parent (tree : FileTree) (directory : NodeId) : NodeId :=
  match tree.nodes.get? directory with
  | some (.directory parent _) => parent
  | _ => directory

def isDirectory (tree : FileTree) (node : NodeId) : Bool :=
  match tree.nodes.get? node with
  | some (.directory _ _) => true
  | _ => false

/-- The components of a path that mean something. -/
def walked (path : Path) : List (List Char) := path.names.filter (!·.isEmpty)

def endsInSlash (path : Path) : Bool := path.text.toList.getLast? == some '/'

/-- Walk components from a directory on.  `followLast` says whether a link in the last place is
followed, `mustEnter` whether the walk has to end in a directory, and `links` how many more links
may be followed. -/
def walk (tree : FileTree) (followLast : Bool) (links : Nat) (directory : NodeId)
    (mustEnter : Bool) : List (List Char) → Except SystemError Place
  | [] => .ok (.found directory)
  | name :: rest =>
    if name = ['.'] then walk tree followLast links directory mustEnter rest
    else if name = ['.', '.'] then
      walk tree followLast links (tree.parent directory) mustEnter rest
    else if longestName < nameSize name then .error .nameTooLong
    else
      match tree.entry? directory name with
      | none => if rest.isEmpty then .ok (.free directory name mustEnter) else .error .noSuchEntry
      | some node =>
        match tree.nodes.get? node with
        | some (.directory _ _) => walk tree followLast links node mustEnter rest
        | some (.file _) =>
          if rest.isEmpty && !mustEnter then .ok (.found node) else .error .notADirectory
        | some (.link target) =>
          if rest.isEmpty && !mustEnter && !followLast then .ok (.found node)
          else
            match links with
            | 0 => .error .tooManyLinks
            | links + 1 =>
              if target.text.isEmpty then .error .noSuchEntry
              else
                walk tree followLast links (if target.isAbsolute then tree.root else directory)
                  (mustEnter || (rest.isEmpty && endsInSlash target)) (walked target ++ rest)
        | none => .error .noSuchEntry
termination_by components => (links, components.length)

/-- Refuse the paths that no walk is begun for. -/
def admissible (path : Path) : Except IoError Unit :=
  if path.text.toList.any (·.toNat == 0) then
    .error (.explained .invalidInput "file name contained an unexpected NUL byte")
  else if path.text.isEmpty then .error (.system .noSuchEntry)
  else if pathLimit ≤ path.text.utf8ByteSize then .error (.system .nameTooLong)
  else .ok ()

/-- Raise a refusal by the system to an input and output error. -/
def raised {α : Type} : Except SystemError α → Except IoError α
  | .ok value => .ok value
  | .error error => .error (.system error)

/-- The directory in which the walk of a path starts. -/
def start (tree : FileTree) (path : Path) : NodeId :=
  if path.isAbsolute then tree.root else tree.current

/-- Find out where a path leads. -/
def resolve (tree : FileTree) (followLast : Bool) (path : Path) : Except IoError Place := do
  admissible path
  raised (tree.walk followLast linkLimit (tree.start path) (endsInSlash path) (walked path))

/-- The last component of a path as a call on its directory sees it. -/
inductive Last where
  /-- The path ends in a dot, in two dots, or at the root. -/
  | implied
  /-- The name and the directory it is looked up in. -/
  | named (directory : NodeId) (name : List Char)
deriving Repr, DecidableEq, Inhabited

/-- Find the directory of the last component of a path. -/
def resolveParent (tree : FileTree) (path : Path) : Except IoError Last := do
  admissible path
  let names := walked path
  let place ← raised (tree.walk true linkLimit (tree.start path) true names.dropLast)
  match place with
  | .free _ _ _ => .error (.system .noSuchEntry)
  | .found directory =>
    match names.getLast? with
    | none => return .implied
    | some name =>
      if name = ['.'] || name = ['.', '.'] then return .implied else return .named directory name

/-- Put a node under a free name. -/
def link (tree : FileTree) (directory : NodeId) (name : List Char) (node : Node) : FileTree :=
  let serial : NodeId := ⟨tree.nextNode⟩
  { tree with
    nodes := (tree.nodes.set serial node).update directory fun
      | .directory parent entries => .directory parent (entries.set name serial)
      | other => other
    nextNode := tree.nextNode + 1 }

/-- Take a name out of a directory. -/
def unlink (tree : FileTree) (directory : NodeId) (name : List Char) : FileTree :=
  { tree with
    nodes := tree.nodes.update directory fun
      | .directory parent entries => .directory parent (entries.erase name)
      | other => other }

def updateFile (tree : FileTree) (node : NodeId) (change : FileObject → FileObject) : FileTree :=
  { tree with
    nodes := tree.nodes.update node fun
      | .file file => .file (change file)
      | other => other }

/-- The error of a call that knows its path: a missing or an existing file has a word of its own. -/
def atPath (path : Path) : IoError → StorageError
  | .system error => .ofSystem path error
  | cause => .io cause

/-- Is something at the path, at the end of all links? -/
def present (tree : FileTree) (path : Path) : Except StorageError Bool :=
  match tree.resolve true path with
  | .ok (.found _) => .ok true
  | .ok (.free _ _ _) => .ok false
  | .error cause => if cause.kind = .notFound then .ok false else .error (.io cause)

/-- Make a new empty file.  Anything under the name is in the way, even a link to nowhere. -/
def createNew (tree : FileTree) (path : Path) : Except StorageError Unit × FileTree :=
  match tree.resolveParent path with
  | .error cause => (.error (atPath path cause), tree)
  | .ok .implied => (.error (.alreadyExists path), tree)
  | .ok (.named directory name) =>
    if endsInSlash path then (.error (.io (.system .isADirectory)), tree)
    else if longestName < nameSize name then (.error (.io (.system .nameTooLong)), tree)
    else
      match tree.entry? directory name with
      | some _ => (.error (.alreadyExists path), tree)
      | none => (.ok (), tree.link directory name (.file {}))

/-- Remove a file or a link.  Directories are refused. -/
def remove (tree : FileTree) (path : Path) : Except StorageError Unit × FileTree :=
  match tree.resolveParent path with
  | .error cause => (.error (atPath path cause), tree)
  | .ok .implied => (.error (.io (.system .isADirectory)), tree)
  | .ok (.named directory name) =>
    if longestName < nameSize name then (.error (.io (.system .nameTooLong)), tree)
    else
      match tree.entry? directory name with
      | none => (.error (.notFound path), tree)
      | some node =>
        if tree.isDirectory node then (.error (.io (.system .isADirectory)), tree)
        else if endsInSlash path then (.error (.io (.system .notADirectory)), tree)
        else (.ok (), tree.unlink directory name)

/-- Open the file at the end of all links. -/
def openFile (tree : FileTree) (path : Path) : Except StorageError Handle × FileTree :=
  match tree.resolve true path with
  | .error cause => (.error (atPath path cause), tree)
  | .ok (.free _ _ _) => (.error (.notFound path), tree)
  | .ok (.found node) =>
    if tree.isDirectory node then (.error (.io (.system .isADirectory)), tree)
    else
      let handle : Handle := ⟨tree.nextHandle⟩
      (.ok handle,
        { tree with
          handles := tree.handles.set handle { node, path }
          nextHandle := tree.nextHandle + 1 })

def withFile {α : Type} (tree : FileTree) (handle : Handle)
    (body : NodeId → FileObject → Except StorageError α × FileTree) :
    Except StorageError α × FileTree :=
  match tree.handles.get? handle with
  | none => (.error (.io (.system .badDescriptor)), tree)
  | some opened =>
    match tree.nodes.get? opened.node with
    | some (.file file) => body opened.node file
    | _ => (.error (.io (.system .badDescriptor)), tree)

def answer (tree : FileTree) : (request : Request) → request.Answer × FileTree
  | .present path => (tree.present path, tree)
  | .createNew path => tree.createNew path
  | .remove path => tree.remove path
  | .openFile path => tree.openFile path
  | .readAt handle offset count => tree.withFile handle fun _ file =>
    if offsetLimit ≤ offset then (.error (.io (.system .invalidArgument)), tree)
    else (.ok ((file.bytes.drop offset).take count), tree)
  | .writeAt handle offset bytes => tree.withFile handle fun node _ =>
    if offsetLimit ≤ offset then (.error (.io (.system .invalidArgument)), tree)
    else if bytes.isEmpty then (.ok 0, tree)
    else
      (.ok bytes.length, tree.updateFile node fun file =>
        { file with bytes := overlay file.bytes offset bytes })
  | .size handle => tree.withFile handle fun _ file => (.ok file.bytes.length, tree)
  | .sync handle => tree.withFile handle fun _ _ => (.ok (), tree)
  | .tryLock handle => tree.withFile handle fun node file =>
    match file.owner with
    | none => (.ok true, tree.updateFile node fun file => { file with owner := some handle })
    | some owner => (.ok (owner = handle), tree)
  | .unlock handle => tree.withFile handle fun node _ =>
    (.ok (), tree.updateFile node (Memory.released handle))

/-- Close a handle, which gives up the lock it holds. -/
def close (tree : FileTree) (handle : Handle) : FileTree :=
  match tree.handles.get? handle with
  | none => tree
  | some opened =>
    { tree.updateFile opened.node (Memory.released handle) with
      handles := tree.handles.erase handle }

instance : Storage FileTree where
  answer request tree := tree.answer request
  close handle tree := tree.close handle

/-- What the file at the end of all links holds. -/
def read? (tree : FileTree) (path : Path) : Option (List UInt8) :=
  match tree.resolve true path with
  | .ok (.found node) =>
    match tree.nodes.get? node with
    | some (.file file) => some file.bytes
    | _ => none
  | _ => none

/-- Give the file at a path new contents, and make it if there is none.  A path at which no file
can be is left alone. -/
def write (tree : FileTree) (path : Path) (bytes : List UInt8) : FileTree :=
  match tree.resolve true path with
  | .ok (.found node) => tree.updateFile node fun file => { file with bytes }
  | .ok (.free directory name mustEnter) =>
    if mustEnter then tree else tree.link directory name (.file { bytes })
  | .error _ => tree

/-- The beginnings of a path that end with a component, the shortest first. -/
def beginnings (path : Path) : List Path :=
  let names := walked path
  let lead := if path.isAbsolute then "/" else ""
  (List.range names.length).map fun count =>
    ⟨lead ++ "/".intercalate ((names.take (count + 1)).map String.ofList)⟩

/-- Make an entry under a name at which nothing is, not even a link to nowhere. -/
def makeEntry (tree : FileTree) (path : Path) (entry : NodeId → Node) : Option FileTree :=
  match tree.resolveParent path with
  | .ok (.named directory name) =>
    if (tree.entry? directory name).isSome || longestName < nameSize name then none
    else some (tree.link directory name (entry directory))
  | _ => none

def leadsToDirectory (tree : FileTree) (path : Path) : Bool :=
  match tree.resolve true path with
  | .ok (.found node) => tree.isDirectory node
  | _ => false

/-- Make the directories at the given paths one after the other, up to the first that cannot be
made. -/
def makeEach (tree : FileTree) : List Path → FileTree
  | [] => tree
  | path :: rest =>
    if tree.leadsToDirectory path then tree.makeEach rest
    else
      match tree.makeEntry path fun parent => .directory parent {} with
      | some tree => tree.makeEach rest
      | none => tree

/-- Make a directory and every directory on the way to it. -/
def makeDirectories (tree : FileTree) (path : Path) : FileTree := tree.makeEach (beginnings path)

/-- Make a symbolic link unless something is there. -/
def makeLink (tree : FileTree) (target path : Path) : FileTree :=
  if endsInSlash path || target.text.isEmpty then tree
  else (tree.makeEntry path fun _ => .link target).getD tree

/-- What the current directory holds: for each name the contents of the file, or nothing for a
directory. -/
def listing (tree : FileTree) : List (String × Option (List UInt8)) :=
  match tree.nodes.get? tree.current with
  | some (.directory _ entries) => entries.entries.filterMap fun (name, node) =>
    match tree.nodes.get? node with
    | some (.file file) => some (String.ofList name, some file.bytes)
    | some (.directory _ _) => some (String.ofList name, none)
    | _ => none
  | _ => []

end FileTree

end CrashMarker
