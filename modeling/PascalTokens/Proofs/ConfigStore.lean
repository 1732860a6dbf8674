import PascalTokens.Proofs.ConfigDocument
import PascalTokens.Proofs.Directories

/-!
# PascalTokens.Proofs.ConfigStore

Writing a configuration to a file and reading it from there
(`saveTo_loadFrom`).  Directories are made first and the file is written last,
so a failure leaves all files as they were.
-/

namespace PascalTokens

namespace Config

section

variable {m : Type → Type} [Monad m] [Host m] [MonadExceptOf Failure m]

/-- Makes the directories above a path. -/
def makeAbove (path : String) : m Unit := do
  match Path.parent? path with
  | some parent =>
    if !parent.isEmpty then Host.orFail (.file parent) (← Host.makeDirectories parent)
  | none => pure ()

end

/-- Saving makes the directories above the file, and then writes the document. -/
theorem saveTo_eq (c : Config) (path : String) :
    (c.saveTo path : ExceptT Failure (StateM World) Unit) = (do
      makeAbove path
      Host.writeText path c.document) := by
  unfold saveTo makeAbove
  cases Path.parent? path with
  | none => rfl
  | some parent => cases hempty : parent.isEmpty <;> simp [hempty]

end Config

namespace World

/-- Only directories above the path are made. -/
theorem makes_makeAbove (path : String) : Makes (Path.above path) (Config.makeAbove path) := by
  unfold Config.makeAbove
  split
  · next parent hparent =>
    split
    · refine (makes_makeAll ?_).bind fun made => makes_orFail _ made
      rw [Path.above_eq_cons hparent]
      exact List.Subset.refl _
    · exact makes_pure _
  · exact makes_pure _

/-! ## what is stored -/

/-- Whether a configuration has been stored under a path, and no more: it is
loaded from there, the file at the place of the path is its document, and all
other places are as they were, but for missing directories above the path. -/
structure Stores (c : Config) (path : String) (w w' : World) : Prop where
  loads : w'.perform (Config.loadFrom path) = (.ok c, w')
  others : ∃ place, w'.files.locate w.workingDirectory path = .ok place ∧
    w'.files.node? place = some (.file c.document.toUTF8) ∧
    ∀ p ≠ place, w.files.KeptAt w.workingDirectory (Path.above path) w'.files p

variable {c : Config} {path : String} {w w' : World}

/-- The configuration in a file is told by its bytes. -/
theorem configIn?_of_read {content : ByteArray}
    (h : w.files.read w.workingDirectory path = .ok content) :
    w.configIn? path = (String.fromUTF8? content).bind Config.parse := by
  rw [configIn?, textOf?, h]

/-- A document holds the configuration that it was written for. -/
theorem configIn?_of_document
    (h : w.files.read w.workingDirectory path = .ok c.document.toUTF8) :
    w.configIn? path = some c := by
  rw [configIn?_of_read h, Text.fromUTF8?_toUTF8, Option.bind_some, Config.parse_document]

/-- A document in a file is loaded as the configuration that it was written for. -/
theorem loads_of_read (h : w.files.read w.workingDirectory path = .ok c.document.toUTF8) :
    w.perform (Config.loadFrom path) = (.ok c, w) := by
  have hload := finds_loadFrom w path
  rwa [configIn?_of_document h] at hload

/-- A document that is written after directories have been made is stored. -/
theorem stores_of_write {files : FileTree} (hgrows : w.GrowsTo (Path.above path) w')
    (hwrite : w'.files.write w'.workingDirectory path c.document.toUTF8 = .ok files) :
    Stores c path w { w' with files } := by
  have hread := FileTree.read_of_write hwrite
  obtain ⟨place, hplace, -, -, hview⟩ := FileTree.node?_write hwrite
  have hkeeps := FileTree.keeps_of_write hwrite
  rw [hgrows.workingDirectory_eq] at hplace
  refine ⟨loads_of_read hread, place, FileTree.locate_of_keeps hkeeps hplace, ?_, fun p hp => ?_⟩
  · exact (hview place).trans (if_pos rfl)
  · have hsame : files.node? p = w'.files.node? p := (hview p).trans (if_neg hp)
    obtain hkept | ⟨hnone, hnew, above, habove, hmade⟩ := hgrows.files p
    · exact .inl (hsame.trans hkept)
    · exact .inr ⟨hnone, hsame.trans hnew, above, habove, FileTree.locate_of_keeps hkeeps hmade⟩

/-- A configuration is stored, or directories above the path are all that was
made. -/
theorem perform_saveTo (w : World) (c : Config) (path : String) :
    (∃ f w', w.perform (c.saveTo path) = (.error f, w') ∧ w.GrowsTo (Path.above path) w') ∨
      ∃ w' files, w.GrowsTo (Path.above path) w' ∧
        w'.files.write w'.workingDirectory path c.document.toUTF8 = .ok files ∧
        w.perform (c.saveTo path) = (.ok (), { w' with files }) := by
  have hmakes := makes_makeAbove path w
  rw [Config.saveTo_eq]
  cases habove : w.perform (Config.makeAbove path) with
  | mk result w' =>
      rw [habove] at hmakes
      cases result with
      | error f => exact .inl ⟨f, w', perform_bind_error habove _, hmakes⟩
      | ok =>
          rw [perform_bind_ok habove, perform_writeText]
          cases hwrite : w'.files.write w'.workingDirectory path c.document.toUTF8 with
          | error e => exact .inl ⟨.file path e, w', rfl, hmakes⟩
          | ok files => exact .inr ⟨w', files, hmakes, hwrite, rfl⟩

/-- A configuration that is saved is loaded as it was, and the save changes no
other file and makes no directories but those above the path.  If the save
fails, no file is made, removed or changed. -/
theorem saveTo_loadFrom (w : World) (c : Config) (path : String) :
    let (result, w') := w.perform (c.saveTo path)
    (result = .ok () → Stores c path w w') ∧
      ∀ f, result = .error f → w.files.GrowsTo w.workingDirectory (Path.above path) w'.files ∧
        ∀ p content, w'.files.node? p = some (.file content) ↔
          w.files.node? p = some (.file content) := by
  obtain ⟨f, w', hsave, hgrows⟩ | ⟨w', files, hgrows, hwrite, hsave⟩ := w.perform_saveTo c path
  · rw [hsave]
    exact ⟨fun h => by simp at h, fun _ _ => ⟨hgrows.files, hgrows.files.file_iff⟩⟩
  · rw [hsave]
    exact ⟨fun _ => stores_of_write hgrows hwrite, fun f h => by simp at h⟩

/-- An output path with quotes of both kinds, a backslash, a control character and a
line feed is stored in a directory that has to be made, and loaded from there. -/
theorem saveTo_loadFrom_quotes :
    let c : Config := { report := { output := some "it's \"\"\"\\\x07\n" } }
    let (result, w') := World.perform {} (c.saveTo "a/./b.toml")
    result = .ok () ∧ w'.perform (Config.loadFrom "a/./b.toml") = (.ok c, w') := by
  intro c
  have hsaved : (World.perform {} (c.saveTo "a/./b.toml")).1 = .ok () := by decide +kernel
  exact ⟨hsaved, ((saveTo_loadFrom {} c "a/./b.toml").1 hsaved).loads⟩

end World

end PascalTokens
