/-
Module: CrashMarker.Proofs.Regular.Tree
Purpose: In a tree of directories, a name that no directory and no link has is that of a regular file.
Main exports: FileTree.Way, FileTree.Roads, FileTree.Settled, FileTree.view, FileTree.view_regular
-/
import CrashMarker.Proofs.Regular

namespace CrashMarker

namespace FileTree

variable {tree other : FileTree} {directory node start last : NodeId} {name : List Char}
  {names : List (List Char)} {links : Nat} {mustEnter : Bool} {path : Path}

/-! ## Ways -/

/-- A walk that ends in a directory: which entries it takes, and which links it follows. -/
inductive Way (tree : FileTree) : Nat → NodeId → List (List Char) → NodeId → Prop where
  | here (links : Nat) (last : NodeId) : Way tree links last [] last
  | stay {links : Nat} {start last : NodeId} {names : List (List Char)}
      (further : Way tree links start names last) : Way tree links start (['.'] :: names) last
  | up {links : Nat} {start last : NodeId} {names : List (List Char)}
      (further : Way tree links (tree.parent start) names last) :
      Way tree links start (['.', '.'] :: names) last
  | enter {links : Nat} {start node last : NodeId} {name : List Char} {names : List (List Char)}
      (ordinary : name ≠ ['.'] ∧ name ≠ ['.', '.']) (short : nameSize name ≤ longestName)
      (entry : tree.entry? start name = some node) (there : tree.isDirectory node = true)
      (further : Way tree links node names last) : Way tree links start (name :: names) last
  | follow {links : Nat} {start node last : NodeId} {name : List Char} {names : List (List Char)}
      {target : Path} (ordinary : name ≠ ['.'] ∧ name ≠ ['.', '.'])
      (short : nameSize name ≤ longestName) (entry : tree.entry? start name = some node)
      (there : tree.nodes.get? node = some (.link target)) (some : target.text.isEmpty = false)
      (further : Way tree links (if target.isAbsolute then tree.root else start)
        (walked target ++ names) last) : Way tree (links + 1) start (name :: names) last

/-- A directory has a parent and entries. -/
theorem exists_of_isDirectory (there : tree.isDirectory node = true) :
    ∃ parent entries, tree.nodes.get? node = some (.directory parent entries) := by
  unfold isDirectory at there
  split at there
  next parent entries found => exact ⟨parent, entries, found⟩
  next => cases there

theorem isDirectory_of_get? {parent : NodeId} {entries : Table (List Char) NodeId}
    (there : tree.nodes.get? node = some (.directory parent entries)) : tree.isDirectory node = true := by
  rw [isDirectory, there]

/-- A walk that has to end in a directory, and does, is a way. -/
theorem way_of_walk (enters : mustEnter = true)
    (ended : tree.walk true links start mustEnter names = .ok (.found last)) :
    tree.Way links start names last := by
  fun_induction walk tree true links start mustEnter names with
  | case1 links directory =>
    cases ended
    exact .here _ _
  | case2 _ _ _ _ inductionHypothesis => exact .stay (inductionHypothesis enters ended)
  | case3 _ _ _ _ _ inductionHypothesis => exact .up (inductionHypothesis enters ended)
  | case7 _ _ _ _ _ notDot notDots short _ entry _ _ there inductionHypothesis =>
    exact .enter ⟨notDot, notDots⟩ (Nat.le_of_not_lt short) entry (isDirectory_of_get? there)
      (inductionHypothesis enters ended)
  | case8 _ _ _ _ _ _ _ _ _ _ _ _ ends => simp [enters] at ends
  | case10 _ _ _ _ _ _ _ _ _ _ _ _ ends => simp at ends
  | case13 _ _ _ _ notDot notDots short _ entry _ there _ _ some inductionHypothesis =>
    rw [enters, Bool.true_or] at inductionHypothesis ended
    exact .follow ⟨notDot, notDots⟩ (Nat.le_of_not_lt short) entry there (Bool.eq_false_iff.2 some)
      (inductionHypothesis rfl ended)
  | _ => cases ended

/-- A walk goes along a way, and then on to the names after it, if there are any or if it has to end in
a directory. -/
theorem Way.walk_onward (way : tree.Way links start names last) {rest : List (List Char)}
    (onward : mustEnter = true ∨ rest ≠ []) : ∃ left,
      tree.walk true links start mustEnter (names ++ rest) = tree.walk true left last mustEnter rest := by
  induction way with
  | here links last => exact ⟨links, rfl⟩
  | stay _ inductionHypothesis =>
    rw [List.cons_append, walk, if_pos rfl]
    exact inductionHypothesis
  | up _ inductionHypothesis =>
    rw [List.cons_append, walk, if_neg (by decide), if_pos rfl]
    exact inductionHypothesis
  | enter ordinary short entry there _ inductionHypothesis =>
    obtain ⟨parent, entries, found⟩ := exists_of_isDirectory there
    rw [List.cons_append, walk, if_neg ordinary.1, if_neg ordinary.2, if_neg (Nat.not_lt_of_le short)]
    simp only [entry, found]
    exact inductionHypothesis
  | @follow _ _ _ _ _ names target ordinary short entry there some _ inductionHypothesis =>
    have same : (mustEnter || (names ++ rest).isEmpty && endsInSlash target) = mustEnter := by
      rcases onward with enters | more
      · rw [enters, Bool.true_or]
      · simp [more]
    rw [List.cons_append, walk, if_neg ordinary.1, if_neg ordinary.2, if_neg (Nat.not_lt_of_le short)]
    simp only [entry, there, some, same, Bool.not_true, Bool.and_false, Bool.false_eq_true, if_false]
    rw [← List.append_assoc]
    exact inductionHypothesis

/-- Every entry that leads to a directory or to a link does so in the other tree too. -/
structure Roads (tree other : FileTree) : Prop where
  root : other.root = tree.root
  current : other.current = tree.current
  parent : ∀ directory, other.parent directory = tree.parent directory
  directories : ∀ {node}, tree.isDirectory node = true → other.isDirectory node = true
  links : ∀ {node target}, tree.nodes.get? node = some (.link target) →
    other.nodes.get? node = some (.link target)
  entries : ∀ {directory name node}, tree.entry? directory name = some node →
    (∀ file, tree.nodes.get? node ≠ some (.file file)) → other.entry? directory name = some node

/-- A way through one tree is a way through every other that has the same roads. -/
theorem Way.roads (way : tree.Way links start names last) (roads : tree.Roads other) :
    other.Way links start names last := by
  induction way with
  | here links last => exact .here links last
  | stay _ inductionHypothesis => exact .stay inductionHypothesis
  | up _ inductionHypothesis =>
    rw [← roads.parent] at inductionHypothesis
    exact .up inductionHypothesis
  | enter ordinary short entry there _ inductionHypothesis =>
    obtain ⟨parent, entries, found⟩ := exists_of_isDirectory there
    exact .enter ordinary short (roads.entries entry (by simp [found])) (roads.directories there)
      inductionHypothesis
  | follow ordinary short entry there some _ inductionHypothesis =>
    rw [← roads.root] at inductionHypothesis
    exact .follow ordinary short (roads.entries entry (by simp [there])) (roads.links there) some
      inductionHypothesis

/-! ## Names -/

/-- The path leads to a name in a directory, whatever stands under that name. -/
structure Leads (tree : FileTree) (path : Path) (directory : NodeId) (name : List Char) : Prop where
  admissible : admissible path = .ok ()
  plain : endsInSlash path = false
  walks : ∃ names, walked path = names ++ [name] ∧
    tree.walk true linkLimit (tree.start path) true names = .ok (.found directory)
  ordinary : name ≠ ['.'] ∧ name ≠ ['.', '.']
  short : nameSize name ≤ longestName

namespace Leads

variable (leads : tree.Leads path directory name)
include leads

/-- The walk of such a path ends in its directory, with the last name still to be looked up. -/
theorem resolveParent_eq : tree.resolveParent path = .ok (.named directory name) := by
  obtain ⟨admissible, -, ⟨names, same, ended⟩, ordinary, -⟩ := leads
  have init : (walked path).dropLast = names := by rw [same, List.dropLast_concat]
  have last : (walked path).getLast? = some name := by rw [same, List.getLast?_concat]
  unfold resolveParent
  simp only [admissible, init, last, ended]
  change (if (decide (name = ['.']) || decide (name = ['.', '.'])) = true then
    Except.ok Last.implied else Except.ok (Last.named directory name)) = _
  simp [ordinary]

/-- The path leads to the name in every tree with the same roads. -/
theorem roads (roads : tree.Roads other) : other.Leads path directory name := by
  obtain ⟨admissible, plain, ⟨names, same, ended⟩, ordinary, short⟩ := leads
  refine ⟨admissible, plain, ⟨names, same, ?_⟩, ordinary, short⟩
  obtain ⟨left, further⟩ := ((way_of_walk rfl ended).roads roads).walk_onward (.inl rfl)
  have start : other.start path = tree.start path := by
    unfold FileTree.start
    rw [roads.root, roads.current]
  rw [start]
  rw [List.append_nil, walk] at further
  exact further

end Leads

/-! ## Changes that leave the roads -/

variable {file : FileObject} {parent : NodeId} {entries : Table (List Char) NodeId}

theorem entry?_eq (there : tree.nodes.get? directory = some (.directory parent entries))
    (name : List Char) : tree.entry? directory name = entries.get? name := by
  unfold entry?
  rw [there]

theorem exists_of_entry? (entry : tree.entry? directory name = some node) :
    ∃ parent entries, tree.nodes.get? directory = some (.directory parent entries) ∧
      entries.get? name = some node := by
  unfold entry? at entry
  split at entry
  next parent entries found => exact ⟨parent, entries, found, entry⟩
  next => cases entry

/-- What may become of a node without a change to the roads: a file is made or changed, or a directory
has other entries, of which those that lead to no file were there before. -/
inductive Kept (tree : FileTree) : Option Node → Option Node → Prop where
  | same (found : Option Node) : Kept tree found found
  | appears (file : FileObject) : Kept tree none (some (.file file))
  | changes (file changed : FileObject) : Kept tree (some (.file file)) (some (.file changed))
  | listed (parent : NodeId) {entries others : Table (List Char) NodeId}
      (onward : ∀ {name node}, entries.get? name = some node →
        (∀ file, tree.nodes.get? node ≠ some (.file file)) → others.get? name = some node) :
      Kept tree (some (.directory parent entries)) (some (.directory parent others))

/-- A tree whose nodes are kept has the roads that it had. -/
theorem roads_of_kept (root : other.root = tree.root) (current : other.current = tree.current)
    (kept : ∀ node, tree.Kept (tree.nodes.get? node) (other.nodes.get? node)) : tree.Roads other where
  root := root
  current := current
  parent directory := by
    have become := kept directory
    unfold FileTree.parent
    generalize tree.nodes.get? directory = before, other.nodes.get? directory = after at become ⊢
    cases become <;> rfl
  directories {node} there := by
    obtain ⟨parent, entries, found⟩ := exists_of_isDirectory there
    have become := kept node
    rw [found] at become
    generalize after : other.nodes.get? node = now at become
    cases become with
    | same => exact isDirectory_of_get? after
    | listed => exact isDirectory_of_get? after
  links {node target} there := by
    have become := kept node
    rw [there] at become
    generalize other.nodes.get? node = now at become ⊢
    cases become
    rfl
  entries {directory name node} entry onward := by
    obtain ⟨parent, entries, found, listed⟩ := exists_of_entry? entry
    have become := kept directory
    rw [found] at become
    generalize after : other.nodes.get? directory = now at become
    cases become with
    | same => rw [entry?_eq after, listed]
    | listed _ others => rw [entry?_eq after, others listed onward]

/-- A file is changed at a node, and nothing else. -/
theorem get?_updateFile (there : tree.nodes.get? node = some (.file file))
    (change : FileObject → FileObject) (other : NodeId) :
    (tree.updateFile node change).nodes.get? other =
      if other = node then some (.file (change file)) else tree.nodes.get? other := by
  simp only [updateFile, Table.get?_update, there, Option.map_some]

/-- The tree with a new node, to which nothing leads yet. -/
def add (tree : FileTree) (node : Node) : FileTree :=
  { tree with nodes := tree.nodes.set ⟨tree.nextNode⟩ node, nextNode := tree.nextNode + 1 }

/-- The tree with other entries in a directory. -/
def relist (tree : FileTree) (directory parent : NodeId) (entries : Table (List Char) NodeId) :
    FileTree :=
  { tree with nodes := tree.nodes.set directory (.directory parent entries) }

/-- The path leads to a name that no directory and no link has, and the numbers that are given out next
are not in use. -/
structure Settled (path : Path) (directory : NodeId) (name : List Char) (tree : FileTree) : Prop where
  leads : tree.Leads path directory name
  enters : tree.isDirectory directory = true
  marker : ∀ {node}, tree.entry? directory name = some node →
    ∃ file, tree.nodes.get? node = some (.file file)
  nodes : ∀ {node}, tree.nodes.get? node ≠ none → node.serial < tree.nextNode
  handles : ∀ {handle}, tree.handles.get? handle ≠ none → handle.serial < tree.nextHandle
  owners : ∀ {node file owner}, tree.nodes.get? node = some (.file file) →
    file.owner = some owner → owner.serial < tree.nextHandle

/-- The file at a node. -/
def fileAt? (tree : FileTree) (node : NodeId) : Option FileObject :=
  match tree.nodes.get? node with
  | some (.file file) => some file
  | _ => none

theorem fileAt?_eq (there : tree.nodes.get? node = some (.file file)) :
    tree.fileAt? node = some file := by
  rw [fileAt?, there]

/-- The tree as those see it who care for one path. -/
def view (path : Path) (directory : NodeId) (name : List Char) : PathView FileTree where
  Sound := Settled path directory name
  file tree := (tree.entry? directory name).bind tree.fileAt?
  Opens tree handle := ∃ opened, tree.handles.get? handle = some opened ∧
    tree.entry? directory name = some opened.node

section View

variable {found : Option FileObject} {handle : Handle} {change : FileObject → FileObject}

/-- Where there is no file, the name is free. -/
theorem entry?_of_shows_none (shows : (view path directory name).Shows tree none) :
    tree.entry? directory name = none := by
  obtain ⟨settled, absent⟩ := shows
  cases entry : tree.entry? directory name with
  | none => rfl
  | some node =>
    obtain ⟨file, there⟩ := settled.marker entry
    simp only [view, entry, Option.bind_some, fileAt?_eq there] at absent
    cases absent

/-- A file at the path has an entry in the directory. -/
theorem exists_of_shows (shows : (view path directory name).Shows tree (some file)) :
    ∃ node, tree.entry? directory name = some node ∧ tree.nodes.get? node = some (.file file) := by
  obtain ⟨settled, present⟩ := shows
  obtain ⟨node, entry, told⟩ := Option.bind_eq_some_iff.1 present
  obtain ⟨other, there⟩ := settled.marker entry
  rw [fileAt?_eq there] at told
  cases told
  exact ⟨node, entry, there⟩

theorem entry?_updateFile (there : tree.nodes.get? node = some (.file file)) (directory : NodeId)
    (name : List Char) : FileTree.entry? (tree.updateFile node change) directory name =
      tree.entry? directory name := by
  unfold entry?
  rw [get?_updateFile there]
  by_cases same : directory = node
  · rw [if_pos same, same, there]
  · rw [if_neg same]

theorem Settled.updateFile (settled : Settled path directory name tree)
    (there : tree.nodes.get? node = some (.file file))
    (owned : ∀ {owner}, (change file).owner = some owner → owner.serial < tree.nextHandle) :
    Settled path directory name (tree.updateFile node change) := by
  have roads : tree.Roads (tree.updateFile node change) := by
    refine roads_of_kept rfl rfl fun other => ?_
    rw [get?_updateFile there]
    split
    next same =>
      rw [same, there]
      exact .changes _ _
    next => exact .same _
  refine ⟨settled.leads.roads roads, roads.directories settled.enters, fun {other} entry => ?_,
    fun {other} found => ?_, settled.handles, fun {other changed owner} found owns => ?_⟩
  · rw [entry?_updateFile there] at entry
    obtain ⟨held, stands⟩ := settled.marker entry
    rw [get?_updateFile there]
    split
    next => exact ⟨_, rfl⟩
    next => exact ⟨held, stands⟩
  · rw [get?_updateFile there] at found
    split at found
    next same =>
      subst same
      exact settled.nodes (by simp [there])
    next => exact settled.nodes found
  · rw [get?_updateFile there] at found
    split at found
    next =>
      cases found
      exact owned owns
    next => exact settled.owners found owns

theorem answer_eq (tree : FileTree) (request : Request) :
    Storage.answer request tree = tree.answer request := rfl

/-- A free name can be given to a new file. -/
theorem createNew_eq (shows : (view path directory name).Shows tree none) :
    tree.createNew path = (.ok (), tree.link directory name (.file {})) := by
  unfold createNew
  rw [shows.sound.leads.resolveParent_eq]
  simp only [shows.sound.leads.plain, Nat.not_lt_of_le shows.sound.leads.short,
    entry?_of_shows_none shows, Bool.false_eq_true, if_false]

/-- The number that is given out next is free. -/
theorem Settled.fresh (settled : Settled path directory name tree) :
    tree.nodes.get? ⟨tree.nextNode⟩ = none := by
  cases used : tree.nodes.get? ⟨tree.nextNode⟩ with
  | none => rfl
  | some _ =>
    have bound : tree.nodes.get? ⟨tree.nextNode⟩ ≠ none := by simp [used]
    exact absurd (settled.nodes bound) (Nat.lt_irrefl tree.nextNode)

theorem Settled.old (settled : Settled path directory name tree) (there : tree.nodes.get? node ≠ none) :
    node ≠ ⟨tree.nextNode⟩ := by
  rintro rfl
  exact there settled.fresh

theorem get?_add (tree : FileTree) (added : Node) (node : NodeId) : (tree.add added).nodes.get? node =
    if node = ⟨tree.nextNode⟩ then some added else tree.nodes.get? node :=
  Table.get?_set _ _ _ _

theorem entry?_add (settled : Settled path directory name tree) (file : FileObject) (start : NodeId)
    (listed : List Char) :
    FileTree.entry? (tree.add (.file file)) start listed = tree.entry? start listed := by
  unfold entry?
  rw [get?_add]
  by_cases same : start = ⟨tree.nextNode⟩
  · rw [if_pos same, same, settled.fresh]
  · rw [if_neg same]

/-- Adding a node leaves the path settled. -/
theorem Settled.add (settled : Settled path directory name tree) (bytes : List UInt8) :
    Settled path directory name (tree.add (.file { bytes })) := by
  have roads : tree.Roads (tree.add (.file { bytes })) := by
    refine roads_of_kept rfl rfl fun node => ?_
    rw [get?_add]
    split
    next same =>
      rw [same, settled.fresh]
      exact .appears _
    next => exact .same _
  refine ⟨settled.leads.roads roads, roads.directories settled.enters, fun {node} listed => ?_,
    fun {node} found => ?_, settled.handles, fun {node file owner} found owns => ?_⟩
  · rw [entry?_add settled] at listed
    obtain ⟨file, there⟩ := settled.marker listed
    rw [get?_add, if_neg (settled.old (by simp [there]))]
    exact ⟨file, there⟩
  · rw [get?_add] at found
    split at found
    next same =>
      rw [same]
      exact Nat.lt_succ_self _
    next => exact Nat.lt_succ_of_lt (settled.nodes found)
  · rw [get?_add] at found
    split at found
    next =>
      cases found
      cases owns
    next => exact settled.owners found owns

theorem get?_relist (tree : FileTree) (directory parent : NodeId) (entries : Table (List Char) NodeId)
    (node : NodeId) : (tree.relist directory parent entries).nodes.get? node =
      if node = directory then some (.directory parent entries) else tree.nodes.get? node :=
  Table.get?_set _ _ _ _

theorem entry?_relist (tree : FileTree) (directory parent : NodeId)
    (entries : Table (List Char) NodeId) (name : List Char) :
    FileTree.entry? (tree.relist directory parent entries) directory name = entries.get? name :=
  entry?_eq ((get?_relist tree directory parent entries directory).trans (if_pos rfl)) name

/-- Under the name may stand another file, or none. -/
theorem Settled.relist (settled : Settled path directory name tree)
    {others : Table (List Char) NodeId}
    (there : tree.nodes.get? directory = some (.directory parent entries))
    (elsewhere : ∀ {one}, one ≠ name → others.get? one = entries.get? one)
    (marker : ∀ {node}, others.get? name = some node →
      ∃ file, tree.nodes.get? node = some (.file file)) :
    Settled path directory name (tree.relist directory parent others) := by
  have roads : tree.Roads (tree.relist directory parent others) := by
    refine roads_of_kept rfl rfl fun node => ?_
    rw [get?_relist]
    split
    next same =>
      rw [same, there]
      refine .listed parent fun {one node} listed onward => ?_
      by_cases here : one = name
      · subst here
        obtain ⟨file, held⟩ := settled.marker ((entry?_eq there one).trans listed)
        exact absurd held (onward file)
      · rw [elsewhere here, listed]
    next => exact .same _
  refine ⟨settled.leads.roads roads, roads.directories settled.enters, fun {node} listed => ?_,
    fun {node} found => ?_, settled.handles, fun {node file owner} found owns => ?_⟩
  · rw [entry?_relist] at listed
    obtain ⟨file, held⟩ := marker listed
    rw [get?_relist]
    split
    next same =>
      rw [same, there] at held
      cases held
    next => exact ⟨file, held⟩
  · rw [get?_relist] at found
    split at found
    next here => exact settled.nodes (by simp [here, there])
    next => exact settled.nodes found
  · rw [get?_relist] at found
    split at found
    next => cases found
    next => exact settled.owners found owns

/-- A file that is shown can be removed. -/
theorem remove_eq (shows : (view path directory name).Shows tree (some file)) :
    tree.remove path = (.ok (), tree.unlink directory name) := by
  obtain ⟨node, entry, there⟩ := exists_of_shows shows
  unfold remove
  rw [shows.sound.leads.resolveParent_eq]
  simp only [shows.sound.leads.plain, Nat.not_lt_of_le shows.sound.leads.short, entry, isDirectory,
    there, Bool.false_eq_true, if_false]

end View

end FileTree

end CrashMarker
