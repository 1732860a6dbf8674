import PascalTokens.Host.World
import PascalTokens.Program.Run

/-!
# PascalTokens.Proofs.Commands

What commands do to a world.  A command that may fail takes a world to a value
or a failure, and to another world (`World.perform`).

Two kinds of parts of a command are told by one fact each: those that look
something up and leave the world as it is (`Finds`), and those that only write
to standard error (`OnlyTells`).
-/

namespace PascalTokens

namespace World

/-- What a command that may fail does in a world. -/
def perform (w : World) (x : ExceptT Failure (StateM World) α) : Except Failure α × World :=
  x.run.run w

variable {α β : Type} {w : World}

@[simp] theorem perform_pure (w : World) (a : α) : w.perform (pure a) = (.ok a, w) := rfl

@[simp] theorem perform_throw (w : World) (f : Failure) :
    w.perform (throw f : ExceptT Failure (StateM World) α) = (.error f, w) := rfl

/-- The second part of a command is done where the first one leaves off, unless that
fails. -/
theorem perform_bind (w : World) (x : ExceptT Failure (StateM World) α)
    (k : α → ExceptT Failure (StateM World) β) :
    w.perform (x >>= k) = match w.perform x with
      | (.ok a, w') => w'.perform (k a)
      | (.error f, w') => (.error f, w') := by
  have h : w.perform (x >>= k) =
      (ExceptT.bindCont k (w.perform x).1).run (w.perform x).2 := rfl
  rw [h]
  obtain ⟨_ | _, w'⟩ := w.perform x <;> rfl

/-- After a part that succeeds the rest is done. -/
theorem perform_bind_ok {w' : World} {x : ExceptT Failure (StateM World) α} {a : α}
    (h : w.perform x = (.ok a, w')) (k : α → ExceptT Failure (StateM World) β) :
    w.perform (x >>= k) = w'.perform (k a) := by
  simp [perform_bind, h]

/-- After a part that fails nothing else is done. -/
theorem perform_bind_error {w' : World} {x : ExceptT Failure (StateM World) α} {f : Failure}
    (h : w.perform x = (.error f, w')) (k : α → ExceptT Failure (StateM World) β) :
    w.perform (x >>= k) = (.error f, w') := by
  simp [perform_bind, h]

/-! ## what an action does -/

/-- Writing a file changes the files, if it can be done; the answer says whether it was. -/
theorem perform_writeFile (w : World) (path : String) (content : ByteArray) :
    w.perform (Host.writeFile path content) =
      (.ok (w.change (w.files.write w.workingDirectory path content)).1,
        (w.change (w.files.write w.workingDirectory path content)).2) := rfl

/-- The same for a directory that is made. -/
theorem perform_makeDirectory (w : World) (path : String) :
    w.perform (Host.makeDirectory path) =
      (.ok (w.change (w.files.makeDirectory w.workingDirectory path)).1,
        (w.change (w.files.makeDirectory w.workingDirectory path)).2) := rfl

/-- The same for standard error. -/
theorem perform_writeError (w : World) (text : String) :
    w.perform (Host.writeError text) = (.ok (), { w with errors := w.errors ++ text }) := rfl

/-- Writing a text to a file changes the files, or fails and changes nothing. -/
theorem perform_writeText (w : World) (path text : String) :
    w.perform (Host.writeText path text) =
      match w.files.write w.workingDirectory path text.toUTF8 with
      | .ok files => (.ok (), { w with files })
      | .error e => (.error (.file path e), w) := by
  rw [Host.writeText, perform_bind_ok (perform_writeFile w path text.toUTF8)]
  cases w.files.write w.workingDirectory path text.toUTF8 <;> rfl

/-! ## looking something up -/

/-- A command gives a value, or fails if there is none, and leaves the world as
it is. -/
def Finds (w : World) (x : ExceptT Failure (StateM World) α) : Option α → Prop
  | some a => w.perform x = (.ok a, w)
  | none => ∃ f, w.perform x = (.error f, w)

theorem finds_pure (w : World) (a : α) : w.Finds (pure a) (some a) := rfl

/-- A command that fails at once leaves the world as it is. -/
theorem finds_throw (w : World) (f : Failure) :
    w.Finds (throw f : ExceptT Failure (StateM World) α) none := ⟨f, rfl⟩

/-- What is done with a value that was found is done in the same world. -/
theorem Finds.bind_some {x : ExceptT Failure (StateM World) α} {a : α}
    {k : α → ExceptT Failure (StateM World) β} {b? : Option β} (hx : w.Finds x (some a))
    (hk : w.Finds (k a) b?) : w.Finds (x >>= k) b? := by
  unfold Finds at hk ⊢
  rwa [perform_bind_ok hx k]

/-- Looking two things up, the second by the first, finds nothing if one of them is
missing. -/
theorem Finds.bind {x : ExceptT Failure (StateM World) α} {a? : Option α}
    {k : α → ExceptT Failure (StateM World) β} {b? : α → Option β} (hx : w.Finds x a?)
    (hk : ∀ a, w.Finds (k a) (b? a)) : w.Finds (x >>= k) (a?.bind b?) := by
  cases a? with
  | none =>
      obtain ⟨f, hf⟩ := hx
      exact ⟨f, perform_bind_error hf k⟩
  | some a => exact hx.bind_some (hk a)

/-- The text of a file. -/
def textOf? (w : World) (path : String) : Option String :=
  match w.files.read w.workingDirectory path with
  | .ok bytes => String.fromUTF8? bytes
  | .error _ => none

/-- Whether a path leads anywhere. -/
def leads (w : World) (path : String) : Bool := (w.kind? path).isSome

/-- Looking up an environment variable always gives an answer, and changes nothing. -/
theorem finds_lookupVariable (w : World) (name : String) :
    w.Finds (Host.lookupVariable name) (some (w.environment.lookup name)) := rfl

/-- Reading a file changes nothing; whether it can be read is part of the answer. -/
theorem finds_readFile (w : World) (path : String) :
    w.Finds (Host.readFile path) (some (w.files.read w.workingDirectory path)) := rfl

theorem finds_kind? (w : World) (path : String) :
    w.Finds (Host.kind? path) (some (w.kind? path)) := rfl

/-- Asking for a path tells whether it leads anywhere. -/
theorem finds_pathExists (w : World) (path : String) :
    w.Finds (Host.pathExists path) (some (w.leads path)) := rfl

/-- Bytes that are no text are a failure. -/
theorem finds_decode (w : World) (failure : FileError → Failure) (bytes : ByteArray) :
    w.Finds (Host.orFail failure (Host.decode bytes)) (String.fromUTF8? bytes) := by
  unfold Host.decode
  cases String.fromUTF8? bytes with
  | none => exact ⟨_, rfl⟩
  | some text => rfl

/-- Reading a text finds it if there is a file with one. -/
theorem finds_readText (w : World) (path : String) :
    w.Finds (Host.readText path) (w.textOf? path) := by
  refine (finds_readFile w path).bind_some ?_
  unfold textOf?
  cases w.files.read w.workingDirectory path with
  | ok bytes => exact finds_decode w _ bytes
  | error e => exact ⟨_, rfl⟩

/-- A file that can be read is there. -/
theorem leads_of_read {path : String} {content : ByteArray}
    (h : w.files.read w.workingDirectory path = .ok content) : w.leads path = true := by
  unfold FileTree.read at h
  unfold leads kind?
  cases hfind : w.files.find w.workingDirectory path with
  | error e => simp [hfind] at h
  | ok node => cases node <;> rfl

/-- A file with a text is there. -/
theorem leads_of_textOf? {path text : String} (h : w.textOf? path = some text) :
    w.leads path = true := by
  unfold textOf? at h
  split at h
  · next hread => exact leads_of_read hread
  · simp at h

/-! ## writing to standard error -/

/-- A command does nothing but write to standard error. -/
def OnlyTells (x : ExceptT Failure (StateM World) Unit) : Prop :=
  ∀ w : World, ∃ errors, w.perform x = (.ok (), { w with errors })

theorem onlyTells_pure : OnlyTells (pure ()) := fun w => ⟨w.errors, rfl⟩

/-- Writing to standard error is all that such a command does. -/
theorem onlyTells_writeError (text : String) : OnlyTells (Host.writeError text) :=
  fun w => ⟨w.errors ++ text, perform_writeError w text⟩

/-- Two commands that only write to standard error do no more together. -/
theorem OnlyTells.bind {x : ExceptT Failure (StateM World) Unit}
    {k : Unit → ExceptT Failure (StateM World) Unit} (hx : OnlyTells x) (hk : OnlyTells (k ())) :
    OnlyTells (x >>= k) := by
  intro w
  obtain ⟨told, hx⟩ := hx w
  obtain ⟨errors, hk⟩ := hk { w with errors := told }
  exact ⟨errors, by rw [perform_bind_ok hx, hk]⟩

/-- Logging only writes to standard error, or does nothing. -/
theorem onlyTells_log (filter : LogFilter) (e : LogEvent) : OnlyTells (Program.log filter e) := by
  unfold Program.log
  split
  · exact onlyTells_writeError _
  · exact onlyTells_pure

/-- So does the announcement of a command. -/
theorem onlyTells_announce (filter : LogFilter) (command : CommandName) :
    OnlyTells (Program.announce filter command) := onlyTells_log filter _

/-! ## how a command ends -/

/-- A command succeeds or fails, and leaves a world up to what is on standard
error. -/
def Ends (w : World) (x : ExceptT Failure (StateM World) α) (ok : Bool) (w' : World) : Prop :=
  ∃ result errors, w.perform x = (result, { w' with errors }) ∧ result.isOk = ok

section
variable {w₁ w' : World} {x : ExceptT Failure (StateM World) α}
  {k : α → ExceptT Failure (StateM World) β} {ok : Bool}

/-- A command ends as its second part does if the first succeeds. -/
theorem Ends.after {a : α} (hx : w.perform x = (.ok a, w₁)) (hk : w₁.Ends (k a) ok w') :
    w.Ends (x >>= k) ok w' := by
  unfold Ends
  rwa [perform_bind_ok hx k]

/-- What is written to standard error first makes no difference to how a command ends. -/
theorem Ends.tell {x : ExceptT Failure (StateM World) Unit}
    {k : Unit → ExceptT Failure (StateM World) β} (hx : OnlyTells x)
    (hk : ∀ errors, Ends { w with errors } (k ()) ok w') : w.Ends (x >>= k) ok w' := by
  obtain ⟨told, hx⟩ := hx w
  exact .after hx (hk told)

/-- A command ends where its first part fails. -/
theorem Ends.stop {f : Failure} {errors : String}
    (hx : w.perform x = (.error f, { w' with errors })) : w.Ends (x >>= k) false w' :=
  ⟨.error f, errors, perform_bind_error hx k, rfl⟩

/-- A command ends as its first part does if the second cannot fail and changes nothing.
-/
theorem Ends.bind (hx : w.Ends x ok w')
    (hk : ∀ a errors, Ends { w' with errors } (k a) true w') : w.Ends (x >>= k) ok w' := by
  obtain ⟨result, errors, hx, rfl⟩ := hx
  cases result with
  | error f => exact .stop hx
  | ok a => exact .after hx (hk a errors)

end

/-! ## the configuration -/

/-- The configuration in a file. -/
def configIn? (w : World) (path : String) : Option Config := (w.textOf? path).bind Config.parse

/-- The first of the files that can hold a configuration that is there. -/
def configPath? (w : World) : Option String :=
  (Config.candidates (w.environment.lookup "HOME") (w.environment.lookup "XDG_CONFIG_HOME")).find?
    w.leads

/-- The configuration for a run: that in the named file, else that in the first
file that is there, else the default one. -/
def config? (w : World) (named : Option String) : Option Config :=
  match named.or w.configPath? with
  | some path => w.configIn? path
  | none => some {}

/-- Loading a configuration finds the one in the file, if there is one. -/
theorem finds_loadFrom (w : World) (path : String) :
    w.Finds (Config.loadFrom path) (w.configIn? path) := by
  refine (finds_pathExists w path).bind_some ?_
  cases hleads : w.leads path with
  | false =>
      have hnone : w.textOf? path = none := by
        cases htext : w.textOf? path with
        | none => rfl
        | some text => simp [leads_of_textOf? htext] at hleads
      simpa [configIn?, hnone] using finds_throw w _
  | true =>
      refine (finds_readText w path).bind fun text => ?_
      cases Config.parse text with
      | none => exact finds_throw w _
      | some c => exact finds_pure w c

/-- The search for a file stops at the first path that leads anywhere. -/
theorem finds_firstExisting (w : World) (paths : List String) :
    w.Finds (Config.firstExisting paths) (some (paths.find? w.leads)) := by
  induction paths with
  | nil => exact finds_pure w none
  | cons path rest ih =>
      refine (finds_pathExists w path).bind_some ?_
      cases hleads : w.leads path with
      | false => simpa [hleads] using ih
      | true => simpa [hleads] using finds_pure w (some path)

/-- Loading finds the configuration for a run, and leaves the world as it is. -/
theorem finds_loadConfig (w : World) (named : Option String) :
    w.Finds (Program.loadConfig named) (w.config? named) := by
  cases named with
  | some path => exact finds_loadFrom w path
  | none =>
      refine (finds_lookupVariable w "HOME").bind_some ?_
      refine (finds_lookupVariable w "XDG_CONFIG_HOME").bind_some ?_
      refine (finds_firstExisting w _).bind_some ?_
      unfold config? configPath?
      split
      · next path hpath => simpa [hpath] using finds_loadFrom w path
      · next hpath => simpa [hpath] using finds_pure w ({} : Config)

/-! ## a run -/

/-- The number that a run with some arguments ends with, and the world that it
leaves. -/
def run (w : World) (arguments : List String) : Nat × World :=
  let (status, w') := (Program.run arguments : StateM World Program.ExitStatus).run w
  (status.code, w')

/-- The values of the environment variables of switches. -/
def switchValues (w : World) : CommandLine.Environment :=
  CommandLine.Switch.variableNames.filterMap fun s => (w.environment.lookup s.2).map (s.1, ·)

/-- The environment names a configuration file by one variable. -/
theorem lookup_switchValues (w : World) :
    w.switchValues.lookup .config = w.environment.lookup "PASCT_CONFIG" := by
  simp only [switchValues, CommandLine.Switch.variableNames, List.filterMap_cons,
    List.filterMap_nil]
  cases w.environment.lookup "PASCT_VERBOSE" <;> cases w.environment.lookup "PASCT_CONFIG" <;>
    cases w.environment.lookup "PASCT_NO_COLOR" <;> rfl

/-- Two steps that may fail give a value exactly if both do. -/
theorem bind_eq_ok_iff {ε α β : Type} {x : Except ε α} {k : α → Except ε β} {b : β} :
    (x >>= k) = .ok b ↔ ∃ a, x = .ok a ∧ k a = .ok b := by
  cases x <;> simp [bind, Except.bind]

/-- The second part of a program is run in the world that the first leaves. -/
theorem run_bind {w' : World} {x : StateM World α} {a : α} (h : x.run w = (a, w'))
    (k : α → StateM World β) : (x >>= k).run w = (k a).run w' := by
  have hbind : (x >>= k).run w = (k (x.run w).1).run (x.run w).2 := rfl
  simpa [h] using hbind

/-- A search that changes nothing at each element changes nothing at all. -/
theorem run_filterMapM {f : α → StateM World (Option β)} {g : α → Option β}
    (h : ∀ a, (f a).run w = (g a, w)) (l : List α) :
    (l.filterMapM f).run w = (l.filterMap g, w) := by
  induction l with
  | nil => rfl
  | cons a l ih =>
      rw [List.filterMapM_cons, run_bind (h a), List.filterMap_cons]
      cases g a with
      | none => exact ih
      | some b => exact run_bind ih _

/-- Reading the environment gives the values of the switches, and changes nothing. -/
theorem run_readEnvironment (w : World) :
    (Program.readEnvironment : StateM World CommandLine.Environment).run w =
      (w.switchValues, w) := by
  unfold Program.readEnvironment switchValues
  apply run_filterMapM
  intro s
  rfl

theorem run_fail (w : World) (context : List String) (f : Failure) :
    (Program.fail context f : StateM World Program.ExitStatus).run w =
      (.failed, { w with errors := w.errors ++ Program.failureText (context ++ f.messages) }) := rfl

variable {arguments : List String} {i : CommandLine.Invocation}

/-- A run of a command line that can be read does what it asks for. -/
theorem run_of_read (h : CommandLine.Invocation.read arguments w.switchValues = .ok i) :
    (Program.run arguments : StateM World Program.ExitStatus).run w =
      (Program.invoke i : StateM World Program.ExitStatus).run w := by
  rw [Program.run, run_bind (run_readEnvironment w), h]

/-- A run fails if the configuration does not load. -/
theorem run_of_no_config (h : CommandLine.Invocation.read arguments w.switchValues = .ok i)
    (hconfig : w.config? i.config = none) :
    ∃ errors, w.run arguments = (1, { w with errors }) := by
  have hload := finds_loadConfig w i.config
  rw [hconfig] at hload
  obtain ⟨f, hf⟩ := hload
  refine ⟨w.errors ++ Program.failureText ([Program.loadContext] ++ f.messages), ?_⟩
  rw [run, run_of_read h, Program.invoke, run_bind hf, run_fail]
  rfl

/-- A run ends as its command does. -/
theorem run_of_config (h : CommandLine.Invocation.read arguments w.switchValues = .ok i)
    {config : Config} (hconfig : w.config? i.config = some config) {ok : Bool} {w' : World}
    (hends : ∀ filter, w.Ends (Program.execute filter config i.task) ok w') :
    ∃ errors, w.run arguments = (if ok then 0 else 1, { w' with errors }) := by
  have hload := finds_loadConfig w i.config
  rw [hconfig] at hload
  have hfilter : (Host.lookupVariable "RUST_LOG" : StateM World _).run w =
      (w.environment.lookup "RUST_LOG", w) := rfl
  let filter := LogFilter.choose (w.environment.lookup "RUST_LOG") (i.verbose || config.verbose)
  obtain ⟨result, errors, hresult, rfl⟩ := hends filter
  rw [run, run_of_read h, Program.invoke, run_bind hload]
  dsimp only
  rw [run_bind hfilter]
  cases result with
  | ok =>
      refine ⟨errors, ?_⟩
      rw [run_bind hresult]
      rfl
  | error f =>
      refine ⟨errors ++ Program.failureText f.messages, ?_⟩
      rw [run_bind hresult]
      rfl

end World

end PascalTokens
