import PascalTokens.Proofs.Commands
import PascalTokens.Proofs.Paths

/-!
# PascalTokens.Proofs.Directories

Making directories.  A tree grows if nothing of it changes but that directories
are made where nothing was, at places that given paths lead to
(`FileTree.GrowsTo`).  Commands that do no more than that, and write to standard
error, are closed under sequencing (`World.Makes`), so it is enough to look at
their steps; `makes_makeAll` is the case of the directories above a path.
-/

namespace PascalTokens

namespace FileTree

/-! ## trees that grow -/

/-- Whether a place of a tree is as it was, or has a new directory that one of
some paths leads to. -/
def KeptAt (workingDirectory : Place) (paths : List String) (t t' : FileTree) (p : Place) : Prop :=
  t'.node? p = t.node? p ∨
    t.node? p = none ∧ t'.node? p = some .directory ∧
      ∃ path ∈ paths, t'.locate workingDirectory path = .ok p

/-- Whether a tree becomes another by new directories alone, which some paths
lead to. -/
def GrowsTo (workingDirectory : Place) (paths : List String) (t t' : FileTree) : Prop :=
  ∀ p, t.KeptAt workingDirectory paths t' p

section

variable {workingDirectory : Place} {paths : List String} {t t' t'' : FileTree}

theorem GrowsTo.refl (workingDirectory : Place) (paths : List String) (t : FileTree) :
    t.GrowsTo workingDirectory paths t := fun _ => .inl rfl

/-- Growing changes no node that is there. -/
theorem GrowsTo.keeps (h : t.GrowsTo workingDirectory paths t') : t.Keeps t' := by
  intro p hp
  obtain hsame | ⟨-, hnew, -⟩ := h p
  · rw [hsame, hp]
  · exact hnew

/-- Growing twice is growing. -/
theorem GrowsTo.trans (h : t.GrowsTo workingDirectory paths t')
    (h' : t'.GrowsTo workingDirectory paths t'') : t.GrowsTo workingDirectory paths t'' := by
  intro p
  obtain hsame | ⟨hnone, hnew, path, hpath, hplace⟩ := h p
  · obtain hsame' | hnew' := h' p
    · exact .inl (hsame'.trans hsame)
    · exact .inr ⟨hsame ▸ hnew'.1, hnew'.2⟩
  · exact .inr ⟨hnone, h'.keeps p hnew, path, hpath, locate_of_keeps h'.keeps hplace⟩

/-- Other paths may be named that lead to the same places. -/
theorem GrowsTo.congr {paths' : List String} (h : t.GrowsTo workingDirectory paths t')
    (hpaths : ∀ path ∈ paths, ∀ p, t'.locate workingDirectory path = .ok p →
      ∃ path' ∈ paths', t'.locate workingDirectory path' = .ok p) :
    t.GrowsTo workingDirectory paths' t' := by
  intro p
  obtain hsame | ⟨hnone, hnew, path, hpath, hplace⟩ := h p
  · exact .inl hsame
  · exact .inr ⟨hnone, hnew, hpaths path hpath p hplace⟩

/-- No file is made, removed or changed in a tree that grows. -/
theorem GrowsTo.file_iff (h : t.GrowsTo workingDirectory paths t') (p : Place)
    (content : ByteArray) :
    t'.node? p = some (.file content) ↔ t.node? p = some (.file content) := by
  obtain hsame | ⟨hnone, hnew, -⟩ := h p
  · rw [hsame]
  · simp [hnone, hnew]

/-- A directory that is made at one of the paths is growth. -/
theorem growsTo_of_makeDirectory {path : String} (hpath : path ∈ paths)
    (h : t.makeDirectory workingDirectory path = .ok t') :
    t.GrowsTo workingDirectory paths t' := by
  obtain ⟨place, hplace, hnone, hview⟩ := node?_makeDirectory h
  have hkeeps : t.Keeps t' := by
    intro p hp
    rw [hview]
    split
    · rfl
    · exact hp
  intro p
  by_cases hp : p = place
  · subst hp
    exact .inr ⟨hnone, by rw [hview, if_pos rfl], path, hpath, locate_of_keeps hkeeps hplace⟩
  · exact .inl (by rw [hview, if_neg hp])

end

/-! ## writing what is there -/

/-- Replacing a node by itself changes nothing. -/
theorem replace_of_lookup {place : Place} {node : Node} {nodes : List (Place × Node)}
    (h : nodes.lookup place = some node) : replace place node nodes = nodes := by
  induction nodes with
  | nil => simp at h
  | cons q rest ih =>
      obtain ⟨p, n⟩ := q
      rw [replace]
      rw [List.lookup_cons] at h
      by_cases hp : p = place
      · subst hp
        rw [beq_self_eq_true] at h
        rw [if_pos rfl, Option.some.inj h]
      · rw [beq_false_of_ne (Ne.symm hp)] at h
        rw [if_neg hp, ih h]

section

variable {workingDirectory : Place} {t : FileTree} {path : String} {content : ByteArray}

/-- What is read is the file at the place of the path, unless a slash at its end
asks for a directory. -/
theorem read_eq_ok_iff :
    t.read workingDirectory path = .ok content ↔
      ∃ place, t.locate workingDirectory path = .ok place ∧
        t.node? place = some (.file content) ∧ Path.endsInSlash path = false := by
  unfold read find
  cases t.locate workingDirectory path with
  | error e => simp
  | ok place =>
      cases hnode : t.node? place with
      | none => simp [hnode]
      | some node =>
          cases node with
          | directory => simp [hnode]
          | file found => cases Path.endsInSlash path <;> simp [hnode]

/-- A file that can be read can be written. -/
theorem write_eq_of_read {place : Place} (h : t.read workingDirectory path = .ok content)
    (hplace : t.locate workingDirectory path = .ok place) (new : ByteArray) :
    t.write workingDirectory path new = .ok (t.put place (.file new)) := by
  obtain ⟨place', hplace', hnode, hslash⟩ := read_eq_ok_iff.1 h
  obtain rfl : place' = place := Except.ok.inj (hplace'.symm.trans hplace)
  simp [write, hslash, hplace, hnode]

/-- A tree does not change when a file is given the content that it has. -/
theorem write_of_read (h : t.read workingDirectory path = .ok content) :
    t.write workingDirectory path content = .ok t := by
  obtain ⟨place, hplace, hnode, -⟩ := read_eq_ok_iff.1 h
  have hne : place ≠ [] := by
    rintro rfl
    simp at hnode
  rw [write_eq_of_read h hplace, put]
  rw [node?, if_neg hne] at hnode
  rw [replace_of_lookup hnode]

end

/-! ## the way to a directory -/

section

variable {workingDirectory : Place} {t : FileTree} {place : Place} {directory name path : String}

/-- A step leads on from a directory only. -/
theorem node?_of_step {q : Place} (h : t.step q name = .ok place) :
    t.node? q = some .directory := by
  unfold step at h
  split at h
  · simp at h
  · simp at h
  · next hnode => exact hnode

/-- The way to a place leads through the places of its front parts. -/
theorem locate_of_isPrefix {more : List String} (hfront : directory.toList <+: path.toList)
    (hne : directory ≠ "") (hnames : Path.names path = Path.names directory ++ more)
    (h : t.locate workingDirectory path = .ok place) :
    ∃ q, t.locate workingDirectory directory = .ok q ∧ more.foldlM t.step q = .ok place := by
  obtain ⟨tail, htail⟩ := hfront
  have hpath : path = directory ++ String.ofList tail := by
    rw [← String.toList_inj, String.toList_append, String.toList_ofList, htail]
  have hempty : directory.isEmpty = false := by rwa [Bool.eq_false_iff, ne_eq, String.isEmpty_iff]
  have habsolute : Path.isAbsolute path = Path.isAbsolute directory := by
    rw [Path.isAbsolute, Path.isAbsolute, ← htail]
    cases hcs : directory.toList with
    | nil => exact absurd (String.toList_eq_nil_iff.1 hcs) hne
    | cons c cs => rfl
  unfold locate follow at h ⊢
  split at h
  · simp at h
  · split at h
    · simp at h
    · next hnul =>
      split at h
      · simp at h
      · next hsize =>
        have hnul' : '\x00' ∉ directory.toList := fun hmem =>
          hnul (htail ▸ List.mem_append_left _ hmem)
        have hsize' : ¬ pathLimit ≤ directory.utf8ByteSize := by
          rw [hpath, String.utf8ByteSize_append] at hsize
          omega
        rw [hnames, List.foldlM_append, habsolute] at h
        simp only [hempty, hnul', hsize', if_false, Bool.false_eq_true]
        cases hfront : (Path.names directory).foldlM t.step
            (if Path.isAbsolute directory then [] else workingDirectory) with
        | error e => rw [hfront] at h; cases h
        | ok q => rw [hfront] at h; exact ⟨q, rfl, h⟩

/-- Dots lead nowhere else. -/
theorem eq_of_foldlM_dots {dots : List String} (hdots : ∀ n ∈ dots, n = ".") {q : Place}
    (h : dots.foldlM t.step q = .ok place) : place = q := by
  induction dots with
  | nil => exact (Except.ok.inj h).symm
  | cons n dots ih =>
      obtain ⟨rfl, hmore⟩ := List.forall_mem_cons.1 hdots
      rw [List.foldlM_cons] at h
      cases hstep : t.step q "." with
      | error e => rw [hstep] at h; cases h
      | ok q' =>
          have hq : q' = q := by
            have hnode := node?_of_step hstep
            rw [step, hnode] at hstep
            exact (Except.ok.inj hstep).symm
          rw [hstep, hq] at h
          exact ih hmore h

/-- A path below a directory leads somewhere only if the directory is there. -/
theorem exists_locate_of_join (hne : directory ≠ "") (hname : Path.IsName name)
    (h : t.locate workingDirectory (Path.join directory name) = .ok place) :
    ∃ q, t.locate workingDirectory directory = .ok q ∧ t.node? q = some .directory := by
  obtain ⟨q, hq, hstep⟩ :=
    locate_of_isPrefix (Path.isPrefix_join hne hname) hne (Path.names_join hne hname) h
  refine ⟨q, hq, ?_⟩
  cases hnext : t.step q name with
  | error e => rw [List.foldlM_cons, hnext] at hstep; cases hstep
  | ok next => exact node?_of_step hnext

end

end FileTree

namespace World

/-! ## worlds whose files grow -/

/-- Whether a world becomes another by new directories, which some paths lead to,
and by what is written to standard error. -/
structure GrowsTo (paths : List String) (w w' : World) : Prop where
  files : w.files.GrowsTo w.workingDirectory paths w'.files
  others : w' = { w with files := w'.files, errors := w'.errors }

section

variable {paths : List String} {w w' w'' : World}

theorem GrowsTo.refl (paths : List String) (w : World) : w.GrowsTo paths w :=
  ⟨.refl _ _ _, rfl⟩

/-- Growing does not lead into another working directory. -/
theorem GrowsTo.workingDirectory_eq (h : w.GrowsTo paths w') :
    w'.workingDirectory = w.workingDirectory := by
  rw [h.others]

theorem GrowsTo.trans (h : w.GrowsTo paths w') (h' : w'.GrowsTo paths w'') :
    w.GrowsTo paths w'' := by
  constructor
  · exact h.files.trans (h.workingDirectory_eq ▸ h'.files)
  · rw [h'.others, h.others]

/-- What is written to standard error is no growth. -/
theorem GrowsTo.tell (h : w.GrowsTo paths w') (errors : String) :
    w.GrowsTo paths { w' with errors } := by
  refine ⟨h.files, ?_⟩
  rw [h.others]

end

/-- Whether a command does nothing but make directories that some paths lead to,
and write to standard error. -/
def Makes (paths : List String) (x : ExceptT Failure (StateM World) α) : Prop :=
  ∀ w : World, w.GrowsTo paths (w.perform x).2

variable {paths : List String} {α β : Type}

/-- Looking something up makes nothing. -/
theorem makes_of_finds {x : ExceptT Failure (StateM World) α} {a? : World → Option α}
    (h : ∀ w : World, w.Finds x (a? w)) : Makes paths x := by
  intro w
  have hw := h w
  cases ha : a? w with
  | some a =>
      rw [ha] at hw
      rw [show w.perform x = _ from hw]
      exact .refl _ _
  | none =>
      rw [ha] at hw
      obtain ⟨f, hf⟩ := hw
      rw [hf]
      exact .refl _ _

theorem makes_pure (a : α) : Makes paths (pure a) := makes_of_finds fun w => finds_pure w a

/-- Neither does a failure. -/
theorem makes_throw (f : Failure) :
    Makes paths (throw f : ExceptT Failure (StateM World) α) :=
  makes_of_finds fun w => finds_throw w f

/-- Writing to standard error makes nothing either. -/
theorem makes_of_onlyTells {x : ExceptT Failure (StateM World) Unit} (h : OnlyTells x) :
    Makes paths x := by
  intro w
  obtain ⟨errors, hx⟩ := h w
  rw [hx]
  exact ⟨.refl _ _ _, rfl⟩

/-- Two parts of a command make no more together than each of them may. -/
theorem Makes.bind {x : ExceptT Failure (StateM World) α}
    {k : α → ExceptT Failure (StateM World) β} (hx : Makes paths x)
    (hk : ∀ a, Makes paths (k a)) : Makes paths (x >>= k) := by
  intro w
  have hw := hx w
  rw [perform_bind]
  cases hresult : w.perform x with
  | mk result w' =>
      rw [hresult] at hw
      cases result with
      | ok a => exact hw.trans (hk a w')
      | error f => exact hw

/-! ## directories -/

/-- Making a directory makes that directory or nothing. -/
theorem makes_makeDirectory {path : String} (hpath : path ∈ paths) :
    Makes paths (Host.makeDirectory path) := by
  intro w
  rw [perform_makeDirectory]
  cases hmade : w.files.makeDirectory w.workingDirectory path with
  | error e => exact .refl _ _
  | ok files => exact ⟨FileTree.growsTo_of_makeDirectory hpath hmade, rfl⟩

/-- Asking whether a path is a directory changes nothing. -/
theorem finds_isDirectory (w : World) (path : String) :
    w.Finds (Host.isDirectory path) (some (w.kind? path == some .directory)) := rfl

/-- An error that is forgiven makes nothing. -/
theorem makes_unlessDirectory (path : String) (made : Except FileError Unit) :
    Makes paths (Host.unlessDirectory path made) := by
  cases made with
  | ok => exact makes_pure _
  | error e =>
      refine (makes_of_finds fun w => finds_isDirectory w path).bind fun isDirectory => ?_
      exact makes_pure _

/-- Making directories one in the other makes no others. -/
theorem makes_makeAll {those : List String} (hthose : those ⊆ paths) :
    Makes paths (Host.makeAll those) := by
  induction those with
  | nil => exact makes_pure _
  | cons path above ih =>
      obtain ⟨hpath, habove⟩ := List.cons_subset.1 hthose
      unfold Host.makeAll
      split
      · exact makes_pure _
      · refine (makes_makeDirectory hpath).bind fun made => ?_
        split
        · refine (ih habove).bind fun result => ?_
          split
          · exact makes_pure _
          · exact (makes_makeDirectory hpath).bind fun made => makes_unlessDirectory path made
        · exact makes_unlessDirectory path _

/-- Whether an error counts as a failure makes nothing. -/
theorem makes_orFail (failure : FileError → Failure) (result : Except FileError α) :
    Makes paths (Host.orFail failure result) := by
  cases result with
  | ok a => exact makes_pure a
  | error e => exact makes_throw _

/-- A path leads to a directory if there is one at its place. -/
theorem kind?_eq_directory_iff {w : World} {path : String} :
    w.kind? path = some .directory ↔ ∃ place,
      w.files.locate w.workingDirectory path = .ok place ∧
        w.files.node? place = some .directory := by
  unfold kind? FileTree.find
  cases w.files.locate w.workingDirectory path with
  | error e => simp
  | ok place =>
      cases hnode : w.files.node? place with
      | none => simp [hnode]
      | some node =>
          cases node with
          | directory => simp [hnode]
          | file content => cases Path.endsInSlash path <;> simp [hnode]

/-- Nothing is made if the directory is there. -/
theorem perform_makeAll_of_directory {w : World} {path : String}
    (h : path = "" ∨ w.kind? path = some .directory) (above : List String) :
    w.perform (Host.makeAll (path :: above)) = (.ok (.ok ()), w) := by
  unfold Host.makeAll
  split
  · rfl
  · next hempty =>
    have hkind : w.kind? path = some .directory :=
      h.resolve_left fun heq => hempty (String.isEmpty_iff.2 heq)
    obtain ⟨place, hplace, hnode⟩ := kind?_eq_directory_iff.1 hkind
    have hmade : w.files.makeDirectory w.workingDirectory path = .error .alreadyExists := by
      simp [FileTree.makeDirectory, hplace, hnode]
    have hdirectory : w.perform (Host.isDirectory path) = (.ok true, w) := by
      rw [show w.perform _ = _ from finds_isDirectory w path, hkind]
      rfl
    rw [perform_bind_ok (perform_makeDirectory w path), hmade]
    exact perform_bind_ok hdirectory _

end World

end PascalTokens
