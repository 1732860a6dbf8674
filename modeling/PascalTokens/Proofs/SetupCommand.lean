import PascalTokens.Proofs.Setup

/-!
# PascalTokens.Proofs.SetupCommand

What a run of the command `init` does where there is a configuration file.  A run
loads its configuration before it comes to its command, and the file that it
looks for first is the one that the command replaces.  So with `--force` a file
is replaced that loads, and one that does not load stays as it is
(`run_init_force`).
-/

namespace PascalTokens

open Program CommandLine

namespace World

variable {w : World} {content : ByteArray}

/-! ## the configuration of the working directory -/

/-- The file that is looked for first is the one in the working directory. -/
theorem config?_of_leads (h : w.leads Config.fileName = true) :
    w.config? none = w.configIn? Config.fileName := by
  have hpath : w.configPath? = some Config.fileName := by
    rw [configPath?, Config.candidates, List.find?_cons_of_pos h]
  rw [config?, Option.none_or, hpath]

/-- A configuration that was written is loaded as itself. -/
theorem perform_loadConfig_of_document {c : Config}
    (h : w.files.read w.workingDirectory Config.fileName = .ok c.document.toUTF8) :
    w.perform (loadConfig none) = (.ok c, w) := by
  have hload := finds_loadConfig w none
  rwa [config?_of_leads (leads_of_read h), configIn?_of_document h] at hload

/-! ## the command line -/

/-- What the command line with `--force` asks for. -/
theorem read_init_force {i : Invocation}
    (h : Invocation.read ["init", "--force"] w.switchValues = .ok i) :
    i.task = .init { force := true } ∧ i.config = w.environment.lookup "PASCT_CONFIG" := by
  let after : Arguments := { given := [(.force, "")] }
  have hcommand : Arguments.readCommand {} ["init", "--force"] =
      .ok ({}, .init, ["--force"]) := rfl
  have hafter : Arguments.read {} .init ["--force"] = .ok after := rfl
  obtain ⟨_, hcommand', h⟩ := bind_eq_ok_iff.1 h
  cases hcommand.symm.trans hcommand'
  obtain ⟨_, hafter', h⟩ := bind_eq_ok_iff.1 h
  cases hafter.symm.trans hafter'
  obtain ⟨_, -, h⟩ := bind_eq_ok_iff.1 h
  obtain ⟨_, htask, h⟩ := bind_eq_ok_iff.1 h
  cases htask
  obtain ⟨_, hbefore, h⟩ := bind_eq_ok_iff.1 h
  cases hbefore
  obtain ⟨_, -, h⟩ := bind_eq_ok_iff.1 h
  cases h
  exact ⟨rfl, lookup_switchValues w⟩

/-! ## a run -/

/-- The command replaces a file that it can write, and tells where it is. -/
theorem execute_init_of_write {filter : LogFilter} {config : Config} {r : SetupRequest}
    (hforce : r.force = true) (h : w.leads (w.setupPath r) = true) {files : FileTree}
    (hwrite : w.files.write w.workingDirectory (w.setupPath r) (Config.document {}).toUTF8 =
      .ok files) :
    w.Ends (execute filter config (.init r)) true
      { w with files, output := w.output ++ ("Wrote " ++ w.setupPath r ++ "\n") } := by
  obtain ⟨errors, hdone⟩ := w.perform_setUp_of_write filter r hforce h hwrite
  exact .after hdone ⟨.ok (), errors, rfl, rfl⟩

/-- With `--force` a configuration file of the working directory is replaced by
the default one if it loads, and nothing else is changed; the next run loads it.
If it does not load, the run ends with 1, and the file stays as it is.  The
command writes to the path from the root, which has to lead to that file too. -/
theorem run_init_force {i : Invocation}
    (hread : Invocation.read ["init", "--force"] w.switchValues = .ok i)
    (hnamed : w.environment.lookup "PASCT_CONFIG" = none)
    (hfile : w.files.read w.workingDirectory Config.fileName = .ok content)
    (hroot : w.files.locate w.workingDirectory (w.setupPath { force := true }) =
      w.files.locate w.workingDirectory Config.fileName) :
    match (String.fromUTF8? content).bind Config.parse with
    | none => ∃ errors, w.run ["init", "--force"] = (1, { w with errors })
    | some _ => ∃ place files errors,
        let shown := w.output ++ ("Wrote " ++ w.setupPath { force := true } ++ "\n")
        let w' := { w with files, output := shown, errors }
        w.run ["init", "--force"] = (0, w') ∧
          w.files.locate w.workingDirectory Config.fileName = .ok place ∧
          (∀ p, files.node? p =
            if p = place then some (.file (Config.document {}).toUTF8) else w.files.node? p) ∧
          w'.perform (loadConfig none) = (.ok {}, w') := by
  let r : SetupRequest := { force := true }
  let document := (Config.document {}).toUTF8
  obtain ⟨htask, hconfig⟩ := read_init_force hread
  have hfound : w.config? i.config = (String.fromUTF8? content).bind Config.parse := by
    rw [hconfig, hnamed, config?_of_leads (leads_of_read hfile), configIn?_of_read hfile]
  cases hload : (String.fromUTF8? content).bind Config.parse with
  | none => exact run_of_no_config hread (hfound.trans hload)
  | some config =>
      obtain ⟨place, hplace, hnode, -⟩ := FileTree.read_eq_ok_iff.1 hfile
      have hthere : w.files.read w.workingDirectory (w.setupPath r) = .ok content :=
        FileTree.read_eq_ok_iff.2
          ⟨place, hroot.trans hplace, hnode, Path.endsInSlash_join _ isName_fileName⟩
      -- Both paths lead to one place, so writing to the one replaces what the other finds.
      let files := w.files.put place (.file document)
      have hwrite : w.files.write w.workingDirectory (w.setupPath r) document = .ok files :=
        FileTree.write_eq_of_read hthere (hroot.trans hplace) document
      have hreplace : w.files.write w.workingDirectory Config.fileName document = .ok files :=
        FileTree.write_eq_of_read hfile hplace document
      obtain ⟨errors, hrun⟩ := run_of_config hread (hfound.trans hload) fun _ =>
        htask ▸ execute_init_of_write rfl (leads_of_read hthere) hwrite
      refine ⟨place, files, errors, hrun, hplace, fun p => ?_, ?_⟩
      · obtain ⟨place', hplace', -, -, hview⟩ := FileTree.node?_write hreplace
        obtain rfl : place' = place := Except.ok.inj (hplace'.symm.trans hplace)
        exact hview p
      · exact perform_loadConfig_of_document (FileTree.read_of_write hreplace)

/-- A file with settings of another kind is replaced. -/
theorem run_init_force_verbose :
    let w : World := { files := ⟨[(["pasct.toml"], .file "verbose = true\n".toUTF8)]⟩ }
    ∃ files errors,
      w.run ["init", "--force"] =
        (0, { w with files, output := "Wrote /pasct.toml\n", errors }) ∧
        files.node? ["pasct.toml"] = some (.file (Config.document {}).toUTF8) := by
  intro w
  have hload : (String.fromUTF8? "verbose = true\n".toUTF8).bind Config.parse =
      some { verbose := true } := by decide +kernel
  have hplace : w.files.locate w.workingDirectory Config.fileName = .ok ["pasct.toml"] := by
    decide +kernel
  have hshown : w.output ++ ("Wrote " ++ w.setupPath { force := true } ++ "\n") =
      "Wrote /pasct.toml\n" := by decide +kernel
  have hfile : w.files.read w.workingDirectory Config.fileName =
      .ok "verbose = true\n".toUTF8 := rfl
  have hrun := run_init_force (i := ⟨false, none, .init { force := true }⟩) (by decide +kernel) rfl
    hfile (by decide +kernel)
  rw [hload, hshown] at hrun
  obtain ⟨place, files, errors, hdone, hplace', hview, -⟩ := hrun
  obtain rfl : ["pasct.toml"] = place := Except.ok.inj (hplace.symm.trans hplace')
  exact ⟨files, errors, hdone, (hview _).trans (if_pos rfl)⟩

/-- A file that does not load is not replaced: the run ends with 1, and the file is
as it was. -/
theorem run_init_force_broken :
    let w : World := { files := ⟨[(["pasct.toml"], .file "x".toUTF8)]⟩ }
    (w.run ["init", "--force"]).1 = 1 ∧
      (w.run ["init", "--force"]).2.files.node? ["pasct.toml"] = some (.file "x".toUTF8) := by
  decide +kernel

end World

end PascalTokens
