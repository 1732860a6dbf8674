import PascalTokens.Files.FileError
import PascalTokens.Files.Path

/-!
# PascalTokens.Files.FileTree

Files and directories by their places.  A place is the list of names from the
root down, and `node?` is the view of a tree: what is at a place.  The root is
a directory in every tree.

A path leads from a working directory to a place, one name after another, and
each name is looked up in a directory; `..` above the root is the root.  The
last name may be new, so that something can be made there.  The main
statements say what changes do to the view, `node?_put`, `node?_write` and
`node?_makeDirectory`, and that a file holds what was written to it last,
`read_of_write`.
-/

namespace PascalTokens

/-- The names from the root to a file or directory. -/
abbrev Place := List String

/-- What is at a place. -/
inductive Node
  | file (content : ByteArray)
  | directory

instance : DecidableEq Node
  | .file x, .file y =>
    decidable_of_iff (x.data = y.data) (by rw [Node.file.injEq, ByteArray.ext_iff])
  | .directory, .directory => isTrue rfl
  | .file _, .directory => isFalse nofun
  | .directory, .file _ => isFalse nofun

/-- Files and directories by their places. -/
structure FileTree where
  /-- What is at each place below the root. -/
  nodes : List (Place × Node) := []

namespace FileTree

/-! ## the view -/

/-- What is at a place, if anything is. -/
def node? (t : FileTree) (place : Place) : Option Node :=
  if place = [] then some .directory else t.nodes.lookup place

/-- The list with a node at a place, instead of what was there. -/
def replace (place : Place) (node : Node) : List (Place × Node) → List (Place × Node)
  | [] => [(place, node)]
  | (p, n) :: rest => if p = place then (place, node) :: rest else (p, n) :: replace place node rest

/-- The tree with a node at a place, instead of what was there. -/
def put (t : FileTree) (place : Place) (node : Node) : FileTree :=
  ⟨replace place node t.nodes⟩

/-- Only the node that is replaced changes. -/
theorem lookup_replace (place p : Place) (node : Node) (nodes : List (Place × Node)) :
    (replace place node nodes).lookup p = if p = place then some node else nodes.lookup p := by
  induction nodes with
  | nil =>
      by_cases h : p = place
      · simp [replace, h]
      · simp [replace, List.lookup_cons, beq_false_of_ne h, h]
  | cons q rest ih =>
      obtain ⟨q, n⟩ := q
      unfold replace
      by_cases hq : q = place
      · subst hq
        by_cases hp : p = q
        · simp [hp]
        · simp [List.lookup_cons, beq_false_of_ne hp, hp]
      · by_cases hp : p = q
        · subst hp; simp [hq]
        · simp [hq, List.lookup_cons, beq_false_of_ne hp, ih]

@[simp] theorem node?_nil (t : FileTree) : t.node? [] = some .directory := rfl

/-- A new node is seen at its place and nowhere else. -/
theorem node?_put (t : FileTree) (place p : Place) (node : Node) (h : place ≠ []) :
    (t.put place node).node? p = if p = place then some node else t.node? p := by
  unfold node? put
  rw [lookup_replace]
  by_cases hp : p = []
  · simp [hp, Ne.symm h]
  · simp [hp]

/-! ## the way to a place -/

/-- Most bytes of a name. -/
def nameLimit : Nat := 255

/-- Bytes that a path stays below. -/
def pathLimit : Nat := 4096

/-- The place that a name leads to from a place. -/
def step (t : FileTree) (place : Place) (name : String) : Except FileError Place :=
  match t.node? place with
  | none => .error .notFound
  | some (.file _) => .error .notADirectory
  | some .directory =>
    if name = "." then .ok place
    else if name = ".." then .ok place.dropLast
    else if name.utf8ByteSize ≤ nameLimit then .ok (place ++ [name])
    else .error .nameTooLong

/-- The place that some of the names of a path lead to from a working
directory. -/
def follow (t : FileTree) (workingDirectory : Place) (path : String) (names : List String) :
    Except FileError Place :=
  if path.isEmpty then .error .notFound
  else if '\x00' ∈ path.toList then .error .nulInName
  else if pathLimit ≤ path.utf8ByteSize then .error .nameTooLong
  else names.foldlM t.step (if Path.isAbsolute path then [] else workingDirectory)

/-- The place that a path leads to from a working directory, a slash at its
end aside. -/
def locate (t : FileTree) (workingDirectory : Place) (path : String) : Except FileError Place :=
  t.follow workingDirectory path (Path.names path)

/-- What a path leads to.  A slash at its end asks for a directory. -/
def find (t : FileTree) (workingDirectory : Place) (path : String) : Except FileError Node :=
  match t.locate workingDirectory path with
  | .error e => .error e
  | .ok place =>
    match t.node? place with
    | none => .error .notFound
    | some (.file content) =>
      if Path.endsInSlash path then .error .notADirectory else .ok (.file content)
    | some .directory => .ok .directory

/-! ## reading and changing -/

/-- The content of a file. -/
def read (t : FileTree) (workingDirectory : Place) (path : String) : Except FileError ByteArray :=
  match t.find workingDirectory path with
  | .error e => .error e
  | .ok (.file content) => .ok content
  | .ok .directory => .error .isADirectory

/-- Why nothing can be written to a path with a slash at its end.  Its last name
is not looked up, but the directory has to be there in which it would be. -/
def slashError (t : FileTree) (workingDirectory : Place) (path : String) : FileError :=
  match t.follow workingDirectory path ((Path.names path).dropLast ++ ["."]) with
  | .error e => e
  | .ok _ => .isADirectory

/-- The tree with the content of a file, which is made if it is not there. -/
def write (t : FileTree) (workingDirectory : Place) (path : String) (content : ByteArray) :
    Except FileError FileTree :=
  if Path.endsInSlash path then .error (t.slashError workingDirectory path)
  else match t.locate workingDirectory path with
    | .error e => .error e
    | .ok place =>
      if t.node? place = some .directory then .error .isADirectory
      else .ok (t.put place (.file content))

/-- The tree with a new directory. -/
def makeDirectory (t : FileTree) (workingDirectory : Place) (path : String) :
    Except FileError FileTree :=
  match t.locate workingDirectory path with
  | .error e => .error e
  | .ok place =>
    if (t.node? place).isSome then .error .alreadyExists else .ok (t.put place .directory)

/-! ## what a change does to the view -/

/-- A write that succeeds puts the content at the place of the path and
changes nothing else. -/
theorem node?_write {t t' : FileTree} {workingDirectory : Place} {path : String}
    {content : ByteArray} (h : t.write workingDirectory path content = .ok t') :
    ∃ place, t.locate workingDirectory path = .ok place ∧ place ≠ [] ∧
      Path.endsInSlash path = false ∧
      ∀ p, t'.node? p = if p = place then some (.file content) else t.node? p := by
  unfold write at h
  split at h
  · simp at h
  · next hslash =>
    split at h
    · simp at h
    · next place hp =>
      split at h
      · simp at h
      · next hd =>
        have hne : place ≠ [] := fun h0 => hd (by simp [h0])
        simp only [Except.ok.injEq] at h
        subst h
        exact ⟨place, hp, hne, by simpa using hslash, fun p => node?_put t place p _ hne⟩

/-- A new directory is at the place of the path, where nothing was, and
nothing else changes. -/
theorem node?_makeDirectory {t t' : FileTree} {workingDirectory : Place} {path : String}
    (h : t.makeDirectory workingDirectory path = .ok t') :
    ∃ place, t.locate workingDirectory path = .ok place ∧ t.node? place = none ∧
      ∀ p, t'.node? p = if p = place then some .directory else t.node? p := by
  unfold makeDirectory at h
  split at h
  · simp at h
  · next place hp =>
    split at h
    · simp at h
    · next hn =>
      simp only [Bool.not_eq_true, Option.isSome_eq_false_iff, Option.isNone_iff_eq_none] at hn
      have hne : place ≠ [] := fun h0 => by simp [h0] at hn
      simp only [Except.ok.injEq] at h
      subst h
      exact ⟨place, hp, hn, fun p => node?_put t place p _ hne⟩

/-! ## reading after a change -/

/-- Whether all directories of a tree are directories of another one. -/
def Keeps (t t' : FileTree) : Prop :=
  ∀ p, t.node? p = some .directory → t'.node? p = some .directory

/-- A step into a directory can be taken in every tree that keeps the nodes of this one.
-/
theorem step_of_keeps {t t' : FileTree} (hk : t.Keeps t') {place place' : Place} {name : String}
    (h : t.step place name = .ok place') : t'.step place name = .ok place' := by
  unfold step at h ⊢
  split at h
  · simp at h
  · simp at h
  · next hd => rw [hk place hd]; exact h

/-- A way through directories stays open as long as their nodes are kept. -/
theorem foldlM_step_of_keeps {t t' : FileTree} (hk : t.Keeps t') {names : List String}
    {place place' : Place} (h : names.foldlM t.step place = .ok place') :
    names.foldlM t'.step place = .ok place' := by
  induction names generalizing place with
  | nil => exact h
  | cons name names ih =>
      rw [List.foldlM_cons] at h ⊢
      cases hs : t.step place name with
      | error e => rw [hs] at h; cases h
      | ok next =>
          rw [hs] at h
          rw [step_of_keeps hk hs]
          exact ih h

/-- A path leads to the same place as long as all directories are kept. -/
theorem locate_of_keeps {t t' : FileTree} (hk : t.Keeps t') {workingDirectory : Place}
    {path : String} {place : Place} (h : t.locate workingDirectory path = .ok place) :
    t'.locate workingDirectory path = .ok place := by
  unfold locate follow at h ⊢
  split at h
  · simp at h
  · split at h
    · simp at h
    · split at h
      · simp at h
      · simp only [*]
        exact foldlM_step_of_keeps hk h

/-- A write keeps all directories. -/
theorem keeps_of_write {t t' : FileTree} {workingDirectory : Place} {path : String}
    {content : ByteArray} (h : t.write workingDirectory path content = .ok t') : t.Keeps t' := by
  unfold write at h
  split at h
  · simp at h
  · split at h
    · simp at h
    · next place hp =>
      split at h
      · simp at h
      · next hc =>
        simp only [Except.ok.injEq] at h
        subst h
        intro p hd
        have hne : place ≠ [] := fun h0 => hc (by simp [h0])
        rw [node?_put t place p _ hne, if_neg]
        · exact hd
        · rintro rfl
          exact hc hd

/-- A file holds what was written to it last. -/
theorem read_of_write {t t' : FileTree} {workingDirectory : Place} {path : String}
    {content : ByteArray} (h : t.write workingDirectory path content = .ok t') :
    t'.read workingDirectory path = .ok content := by
  obtain ⟨place, hp, -, hslash, hview⟩ := node?_write h
  simp [read, find, locate_of_keeps (keeps_of_write h) hp, hview, hslash]

end FileTree

end PascalTokens
