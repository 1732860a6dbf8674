import PascalTokens.Proofs.ConfigStore

/-!
# PascalTokens.Proofs.Setup

What setting up a configuration does to the files.  All that is done before the
document is written makes directories above it, and nothing else
(`growsTo_prepare`); the document is written last.  Where something is at its path
already, so are the directories: a set-up is refused (`perform_setUp_of_leads`),
or with force only writes (`perform_setUp_of_write`).  The main statement is
`setUp_keeps_files`.
-/

namespace PascalTokens

namespace Program

section

variable {m : Type → Type} [Monad m] [Host m] [MonadExceptOf Failure m]

/-- Makes sure that a configuration can be written into a directory, and gives
its path. -/
def prepare (filter : LogFilter) (force : Bool) (directory : String) : m String := do
  ensureDirectory filter directory
  let path := Path.join directory Config.fileName
  if (← Host.pathExists path) && !force then throw (.outputExists path)
  return path

end

/-- Setting up announces the task, prepares the path and writes the default configuration
there. -/
theorem setUp_eq (filter : LogFilter) (r : SetupRequest) :
    (setUp filter r : ExceptT Failure (StateM World) String) = (do
      announce filter .init
      let directory ← r.target
      let path ← prepare filter r.force directory
      Config.saveTo {} path
      log filter ⟨.info, .initCommand, "wrote configuration", [("path", path)]⟩
      return path) := by
  unfold setUp prepare
  simp only [bind_assoc]
  congr
  funext _
  congr
  funext directory
  congr
  funext _
  congr
  funext found
  cases found <;> cases r.force <;> rfl

end Program

namespace World

open Program

/-! ## where a configuration is set up -/

/-- The configuration has a plain file name. -/
theorem isName_fileName : Path.IsName Config.fileName := ⟨by decide, by decide, by decide⟩

/-- The directory that a configuration is set up in. -/
def setupDirectory (w : World) (r : SetupRequest) : String :=
  r.directory.getD (pathOf w.workingDirectory)

/-- The path that a configuration is written to. -/
def setupPath (w : World) (r : SetupRequest) : String :=
  Path.join (w.setupDirectory r) Config.fileName

theorem perform_target (w : World) (r : SetupRequest) :
    w.perform r.target = (.ok (w.setupDirectory r), w) := by
  unfold SetupRequest.target setupDirectory
  cases r.directory <;> rfl

section

variable {w : World} {directory : String}

/-- A path that leads somewhere has a place. -/
theorem exists_locate_of_leads {path : String} (h : w.leads path = true) :
    ∃ place, w.files.locate w.workingDirectory path = .ok place := by
  unfold leads kind? FileTree.find at h
  cases hplace : w.files.locate w.workingDirectory path with
  | error e => simp [hplace] at h
  | ok place => exact ⟨place, rfl⟩

/-- A file in a directory is there only if the directory is. -/
theorem kind?_of_leads (hne : directory ≠ "")
    (h : w.leads (Path.join directory Config.fileName) = true) :
    w.kind? directory = some .directory := by
  obtain ⟨place, hplace⟩ := exists_locate_of_leads h
  exact kind?_eq_directory_iff.2 (FileTree.exists_locate_of_join hne isName_fileName hplace)

/-- What leads to a directory leads to the directory above a file in it. -/
theorem locate_parent {t : FileTree} {workingDirectory q : Place} {parent : String}
    {dots : List String} (hfront : parent.toList <+: directory.toList) (hne : parent ≠ "")
    (hdots : ∀ n ∈ dots, n = ".") (hnames : Path.names directory = Path.names parent ++ dots)
    (h : t.locate workingDirectory directory = .ok q) :
    t.locate workingDirectory parent = .ok q := by
  obtain ⟨q', hq', hfollow⟩ := FileTree.locate_of_isPrefix hfront hne hnames h
  rw [hq', FileTree.eq_of_foldlM_dots hdots hfollow]

/-! ## before the document is written -/

/-- Only the directory and those above it are made. -/
theorem makes_ensureDirectory (filter : LogFilter) (directory : String) :
    Makes (directory :: Path.above directory) (ensureDirectory filter directory) := by
  unfold ensureDirectory
  refine (makes_of_finds fun w => finds_kind? w directory).bind fun kind => ?_
  split
  · refine (makes_of_onlyTells (onlyTells_log filter _)).bind fun _ => ?_
    exact (makes_makeAll (List.Subset.refl _)).bind fun made => makes_orFail _ made
  · exact makes_throw _
  · exact makes_pure _

/-- Preparing makes only the directory and those above it. -/
theorem makes_prepare (filter : LogFilter) (force : Bool) (directory : String) :
    Makes (directory :: Path.above directory) (prepare filter force directory) := by
  refine (makes_ensureDirectory filter directory).bind fun _ => ?_
  refine (makes_of_finds fun w => finds_pathExists w _).bind fun found => ?_
  split
  · exact makes_throw _
  · exact makes_pure _

/-- All that is made before a document is written are directories above it. -/
theorem growsTo_prepare (w : World) (filter : LogFilter) (force : Bool) (directory : String) :
    w.GrowsTo (Path.above (Path.join directory Config.fileName))
      (w.perform (prepare filter force directory)).2 := by
  obtain ⟨hfiles, hothers⟩ := makes_prepare filter force directory w
  refine ⟨hfiles.congr fun path hpath p hplace => ?_, hothers⟩
  by_cases hne : directory = ""
  · subst hne
    have hnowhere : path = "" := by simpa [Path.above, Path.aboveAll, Text.pieces] using hpath
    rw [hnowhere] at hplace
    exact absurd hplace (by simp [FileTree.locate, FileTree.follow])
  · obtain ⟨parent, habove, hparent, hfront, dots, hdots, hnames⟩ :=
      Path.exists_above_join hne isName_fileName
    rw [habove]
    rcases List.mem_cons.1 hpath with rfl | hpath
    · exact ⟨parent, List.mem_cons_self, locate_parent hfront hparent hdots hnames hplace⟩
    · exact ⟨path, List.mem_cons_of_mem _ hpath, hplace⟩

/-- The path prepared is that of the configuration in the directory. -/
theorem eq_of_perform_prepare {filter : LogFilter} {force : Bool} {path : String} {w' : World}
    (h : w.perform (prepare filter force directory) = (.ok path, w')) :
    path = Path.join directory Config.fileName := by
  unfold prepare at h
  rw [perform_bind] at h
  split at h
  · next w₁ _ =>
    rw [perform_bind_ok (finds_pathExists w₁ _)] at h
    split at h
    · cases h
    · cases h
      rfl
  · cases h

/-! ## where a configuration is already -/

/-- A directory that is there is left as it is. -/
theorem perform_ensureDirectory_of_ready (filter : LogFilter)
    (h : directory = "" ∨ w.kind? directory = some .directory) :
    ∃ errors, w.perform (ensureDirectory filter directory) = (.ok (), { w with errors }) := by
  unfold ensureDirectory
  rw [perform_bind_ok (finds_kind? w directory)]
  rcases h with rfl | hdirectory
  · -- nothing is at the empty path, but it stands for the working directory
    have hnone : w.kind? "" = none := rfl
    obtain ⟨errors, htold⟩ :=
      onlyTells_log filter ⟨.info, .initCommand, "creating directory", [("path", "")]⟩ w
    rw [hnone]
    exact ⟨errors, perform_bind_ok htold _⟩
  · rw [hdirectory]
    exact ⟨w.errors, rfl⟩

/-- If something is at the path already, nothing is made, and it is not replaced
unless that is asked for. -/
theorem perform_prepare_of_leads (filter : LogFilter) (force : Bool)
    (h : w.leads (Path.join directory Config.fileName) = true) :
    ∃ errors, w.perform (prepare filter force directory) =
      (if force then .ok (Path.join directory Config.fileName)
        else .error (.outputExists (Path.join directory Config.fileName)), { w with errors }) := by
  have hready : directory = "" ∨ w.kind? directory = some .directory := by
    by_cases hne : directory = ""
    · exact .inl hne
    · exact .inr (kind?_of_leads hne h)
  obtain ⟨errors, hensure⟩ := perform_ensureDirectory_of_ready filter hready
  have hfound : World.leads { w with errors } (Path.join directory Config.fileName) = true := h
  refine ⟨errors, ?_⟩
  rw [prepare, perform_bind_ok hensure, perform_bind_ok (finds_pathExists _ _), hfound]
  cases force <;> rfl

/-- If something is at the path already, the directories above it are there. -/
theorem perform_makeAbove_of_leads
    (h : w.leads (Path.join directory Config.fileName) = true) :
    w.perform (Config.makeAbove (Path.join directory Config.fileName)) = (.ok (), w) := by
  by_cases hne : directory = ""
  · subst hne
    rfl
  · obtain ⟨parent, habove, hparent, hfront, dots, hdots, hnames⟩ :=
      Path.exists_above_join hne isName_fileName
    obtain ⟨q, hq, hnode⟩ := kind?_eq_directory_iff.1 (kind?_of_leads hne h)
    have hkind : w.kind? parent = some .directory :=
      kind?_eq_directory_iff.2 ⟨q, locate_parent hfront hparent hdots hnames hq, hnode⟩
    have hparent? : Path.parent? (Path.join directory Config.fileName) = some parent := by
      rw [Path.parent?, habove]
      rfl
    have hmade : w.perform (Host.makeDirectories parent) = (.ok (.ok ()), w) :=
      perform_makeAll_of_directory (.inr hkind) _
    have hempty : parent.isEmpty = false := by
      rwa [Bool.eq_false_iff, ne_eq, String.isEmpty_iff]
    unfold Config.makeAbove
    simp only [hparent?, hempty, Bool.not_false, if_true]
    rw [perform_bind_ok hmade]
    rfl

end

/-! ## setting up -/

/-- A set-up writes its document after directories above it have been made, or
fails before. -/
theorem perform_setUp (w : World) (filter : LogFilter) (r : SetupRequest) :
    (∃ f w', w.perform (setUp filter r) = (.error f, w') ∧
        w.GrowsTo (Path.above (w.setupPath r)) w') ∨
      ∃ w' files, w.GrowsTo (Path.above (w.setupPath r)) w' ∧
        w'.files.write w'.workingDirectory (w.setupPath r) (Config.document {}).toUTF8 =
          .ok files ∧
        w.perform (setUp filter r) = (.ok (w.setupPath r), { w' with files }) := by
  obtain ⟨told, hannounce⟩ := onlyTells_announce filter .init w
  let w₁ : World := { w with errors := told }
  have hstart : w.GrowsTo (Path.above (w.setupPath r)) w₁ := (GrowsTo.refl _ w).tell told
  have hprepare : w₁.GrowsTo (Path.above (w.setupPath r)) _ :=
    w₁.growsTo_prepare filter r.force (w.setupDirectory r)
  have htarget : w₁.perform r.target = (.ok (w.setupDirectory r), w₁) := perform_target w₁ r
  rw [setUp_eq, perform_bind_ok hannounce, perform_bind_ok htarget]
  cases hready : w₁.perform (prepare filter r.force (w.setupDirectory r)) with
  | mk result w₂ =>
      rw [hready] at hprepare
      have hgrows := hstart.trans hprepare
      cases result with
      | error f => exact .inl ⟨f, w₂, perform_bind_error hready _, hgrows⟩
      | ok path =>
          obtain rfl := eq_of_perform_prepare hready
          rw [perform_bind_ok hready]
          obtain ⟨f, w', hsave, hmade⟩ | ⟨w', files, hmade, hwrite, hsave⟩ :=
            w₂.perform_saveTo {} (w.setupPath r)
          · exact .inl ⟨f, w', perform_bind_error hsave _, hgrows.trans hmade⟩
          · obtain ⟨errors, htold⟩ := onlyTells_log filter
              ⟨.info, .initCommand, "wrote configuration", [("path", w.setupPath r)]⟩
              { w' with files }
            refine .inr ⟨{ w' with errors }, files, (hgrows.trans hmade).tell errors, hwrite, ?_⟩
            exact (perform_bind_ok hsave _).trans (perform_bind_ok htold _)

/-- Where something is already, setting up a configuration without force changes
nothing but standard error. -/
theorem perform_setUp_of_leads (w : World) (filter : LogFilter) (r : SetupRequest)
    (hforce : r.force = false) (h : w.leads (w.setupPath r) = true) :
    ∃ errors, w.perform (setUp filter r) =
      (.error (.outputExists (w.setupPath r)), { w with errors }) := by
  obtain ⟨told, hannounce⟩ := onlyTells_announce filter .init w
  let w₁ : World := { w with errors := told }
  have hleads : w₁.leads (w.setupPath r) = true := h
  obtain ⟨errors, hready⟩ := perform_prepare_of_leads filter r.force hleads
  rw [hforce] at hready
  refine ⟨errors, ?_⟩
  rw [setUp_eq, perform_bind_ok hannounce, perform_bind_ok (perform_target w₁ r), hforce]
  exact perform_bind_error hready _

/-- Where something is already, setting up a configuration with force writes the
document, and changes nothing else but standard error. -/
theorem perform_setUp_of_write (w : World) (filter : LogFilter) (r : SetupRequest)
    (hforce : r.force = true) (h : w.leads (w.setupPath r) = true) {files : FileTree}
    (hwrite : w.files.write w.workingDirectory (w.setupPath r) (Config.document {}).toUTF8 =
      .ok files) :
    ∃ errors, w.perform (setUp filter r) = (.ok (w.setupPath r), { w with files, errors }) := by
  obtain ⟨told, hannounce⟩ := onlyTells_announce filter .init w
  let w₁ : World := { w with errors := told }
  have hleads : w₁.leads (w.setupPath r) = true := h
  obtain ⟨told', hready⟩ := perform_prepare_of_leads filter r.force hleads
  rw [hforce] at hready
  let w₂ : World := { w with errors := told' }
  have habove : w₂.perform (Config.makeAbove (w.setupPath r)) = (.ok (), w₂) :=
    perform_makeAbove_of_leads h
  have hsave : w₂.perform (Config.saveTo {} (w.setupPath r)) = (.ok (), { w₂ with files }) := by
    rw [Config.saveTo_eq, perform_bind_ok habove, perform_writeText, hwrite]
  obtain ⟨errors, htold⟩ := onlyTells_log filter
    ⟨.info, .initCommand, "wrote configuration", [("path", w.setupPath r)]⟩ { w₂ with files }
  refine ⟨errors, ?_⟩
  rw [setUp_eq, perform_bind_ok hannounce, perform_bind_ok (perform_target w₁ r), hforce]
  refine (perform_bind_ok hready _).trans ?_
  exact (perform_bind_ok hsave _).trans (perform_bind_ok htold _)

/-- Setting up a configuration without force leaves alone what is there already.
If it fails, no file is made, removed or changed.  If it succeeds, the default
configuration is stored, and no more; from then on it is refused without force,
and with force it changes nothing. -/
theorem setUp_keeps_files (filter : LogFilter) (r : SetupRequest) (w : World) :
    let path := w.setupPath r
    let (result, w') := w.perform (setUp filter r)
    (r.force = false → w.leads path = true →
        result = .error (.outputExists path) ∧ w'.files = w.files) ∧
      (∀ f, result = .error f → w.files.GrowsTo w.workingDirectory (Path.above path) w'.files ∧
        ∀ p content, w'.files.node? p = some (.file content) ↔
          w.files.node? p = some (.file content)) ∧
      ∀ written, result = .ok written → written = path ∧ Stores {} path w w' ∧
        ∀ filter' force,
          let (again, w'') := w'.perform (setUp filter' ⟨r.directory, force⟩)
          again = (if force then .ok path else .error (.outputExists path)) ∧
            w''.files = w'.files := by
  intro path
  have hrefused (hforce : r.force = false) (hleads : w.leads path = true) :
      ∃ errors, w.perform (setUp filter r) = (.error (.outputExists path), { w with errors }) :=
    w.perform_setUp_of_leads filter r hforce hleads
  obtain ⟨f, w', hresult, hgrows⟩ | ⟨w', files, hgrows, hwrite, hresult⟩ := w.perform_setUp filter r
  · rw [hresult] at hrefused ⊢
    refine ⟨fun hforce hleads => ?_, fun _ _ => ⟨hgrows.files, hgrows.files.file_iff⟩,
      fun _ h => by cases h⟩
    obtain ⟨errors, hrefused⟩ := hrefused hforce hleads
    obtain ⟨hf, rfl⟩ := Prod.mk.inj hrefused
    exact ⟨hf, rfl⟩
  · rw [hresult] at hrefused ⊢
    refine ⟨fun hforce hleads => ?_, fun f hf => ?_, fun written hwritten => ?_⟩
    · obtain ⟨errors, hrefused⟩ := hrefused hforce hleads
      cases (Prod.mk.inj hrefused).1
    · cases hf
    · refine ⟨(Except.ok.inj hwritten).symm, stores_of_write hgrows hwrite, fun filter' force => ?_⟩
      have hread := FileTree.read_of_write hwrite
      have hpath : World.setupPath { w' with files } ⟨r.directory, force⟩ = path := by
        unfold setupPath setupDirectory
        rw [hgrows.workingDirectory_eq]
        rfl
      -- The file is there now, so a second run is refused, or writes what it already holds.
      cases force with
      | false =>
          obtain ⟨errors, hagain⟩ := perform_setUp_of_leads { w' with files } filter'
            ⟨r.directory, false⟩ rfl (hpath ▸ leads_of_read hread)
          rw [hagain, hpath]
          exact ⟨rfl, rfl⟩
      | true =>
          obtain ⟨errors, hagain⟩ := perform_setUp_of_write { w' with files } filter'
            ⟨r.directory, true⟩ rfl (hpath ▸ leads_of_read hread)
            (by rw [hpath]; exact FileTree.write_of_read hread)
          rw [hagain, hpath]
          exact ⟨rfl, rfl⟩

/-- In a directory that has to be made a configuration is set up once, and again
only with force. -/
theorem setUp_keeps_files_nested :
    let filter := LogFilter.choose none false
    let (result, w') := World.perform {} (setUp filter { directory := some "a/./b/" })
    result = .ok "a/./b/pasct.toml" ∧
      (w'.perform (Config.loadFrom "a/./b/pasct.toml")).1 = .ok {} ∧
      (w'.perform (setUp filter ⟨some "a/./b/", false⟩)).1 =
        .error (.outputExists "a/./b/pasct.toml") ∧
      (w'.perform (setUp filter ⟨some "a/./b/", true⟩)).2.files = w'.files := by
  intro filter
  have hresult : (World.perform {} (setUp filter { directory := some "a/./b/" })).1 =
      .ok "a/./b/pasct.toml" := by decide +kernel
  have hpath : World.setupPath {} { directory := some "a/./b/" } = "a/./b/pasct.toml" := by
    decide +kernel
  have hkeeps := setUp_keeps_files filter { directory := some "a/./b/" } {}
  rw [hpath] at hkeeps
  generalize World.perform {} (setUp filter { directory := some "a/./b/" }) = done
    at hkeeps hresult ⊢
  obtain ⟨result, w'⟩ := done
  obtain ⟨-, hstores, hagain⟩ := hkeeps.2.2 _ hresult
  exact ⟨hresult, by rw [hstores.loads], (hagain filter false).1, (hagain filter true).2⟩

end World

end PascalTokens
