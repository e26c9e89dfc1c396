import AudienceScope.CommandLine.Run

/-!
The stages of a run on any files. A run that filters or prunes goes through its stages in order and
ends at the first one that fails; which stage that is, what comes of it and what state the files are
left in is said by `Course`, without the monads. Every command takes one course, since what a stage
ends with is computed, and files that change by writing only are as they were until the last stage.
Main statements: `exists_course`, `ends_of_course`, `Course.unique`.
-/

set_option autoImplicit false

namespace AudienceScope.CommandLine

open Log (Event)

namespace Stage

variable {σ α β : Type} {state middle after : σ}

/-- A stage has a result and leaves a state, whatever events were told before it. -/
def Ends (stage : Stage (StateM σ) α) (state : σ) (result : Except Failure α) (after : σ) : Prop :=
  ∀ events, ∃ told, (stage.run.run events).run state = ((result, told), after)

theorem ends_pure (value : α) :
    Ends (pure value : Stage (StateM σ) α) state (.ok value) state := by
  intro events
  exact ⟨events, rfl⟩

theorem ends_tell (events : List Event) :
    Ends (tell events : Stage (StateM σ) Unit) state (.ok ()) state := by
  intro earlier
  exact ⟨earlier ++ events, rfl⟩

theorem ends_operate {action : StateM σ α} {value : α}
    (run : action.run state = (value, after)) : Ends (operate action) state (.ok value) after := by
  intro events
  refine ⟨events, ?_⟩
  change (action >>= fun value => pure (Except.ok value, events)).run state = _
  rw [StateT.run_bind, run]
  rfl

theorem ends_orFail {ε : Type} (failure : ε → Failure) (result : Except ε α) :
    Ends (orFail failure result : Stage (StateM σ) α) state (result.mapError failure) state := by
  intro events
  cases result with
  | ok value => exact ⟨events, rfl⟩
  | error error => exact ⟨events, rfl⟩

theorem Ends.bind {first : Stage (StateM σ) α} {next : α → Stage (StateM σ) β} {value : α}
    {result : Except Failure β} (starts : first.Ends state (.ok value) middle)
    (ends : (next value).Ends middle result after) : Ends (first >>= next) state result after := by
  intro events
  obtain ⟨told, starts⟩ := starts events
  obtain ⟨later, ends⟩ := ends told
  refine ⟨later, ?_⟩
  rw [ExceptT.run_bind, StateT.run_bind, StateT.run_bind, starts]
  exact ends

theorem Ends.bind_error {first : Stage (StateM σ) α} {next : α → Stage (StateM σ) β}
    {failure : Failure} (fails : first.Ends state (.error failure) after) :
    Ends (first >>= next) state (.error failure) after := by
  intro events
  obtain ⟨told, fails⟩ := fails events
  refine ⟨told, ?_⟩
  rw [ExceptT.run_bind, StateT.run_bind, StateT.run_bind, fails]
  rfl

end Stage

open Stage (Ends)

section Course

variable {σ : Type}

/-- What comes of reading a file and making something of its text. -/
inductive Loads {ε α : Type} (files : Files (StateM σ)) (path : String)
    (unreadable : FileError → Failure) (invalid : String → ε → Failure)
    (parse : String → Except ε α) (state : σ) : Except Failure α → σ → Prop where
  | unreadable {error : FileError} {after : σ}
      (unread : (files.read path).run state = (.error error, after)) :
      Loads files path unreadable invalid parse state (.error (unreadable error)) after
  | invalid {source : String} {error : ε} {after : σ}
      (read : (files.read path).run state = (.ok source, after))
      (refused : parse source = .error error) :
      Loads files path unreadable invalid parse state (.error (invalid source error)) after
  | loaded {source : String} {value : α} {after : σ}
      (read : (files.read path).run state = (.ok source, after))
      (parsed : parse source = .ok value) :
      Loads files path unreadable invalid parse state (.ok value) after

def LoadsConfig (files : Files (StateM σ)) (path : String) : σ → Except Failure Config → σ → Prop :=
  Loads files path (.configUnreadable path) (.configInvalid path) Config.ofText

def LoadsDocument (files : Files (StateM σ)) (path : String) :
    σ → Except Failure Document → σ → Prop :=
  Loads files path (.documentUnreadable path) .documentInvalid Document.ofText

/-- What comes of looking for a configuration: the one that is named, else the default one if there
is such a file. -/
inductive Discovers (files : Files (StateM σ)) :
    Option String → σ → Except Failure (Option Config) → σ → Prop where
  | namedFails {path : String} {failure : Failure} {state after : σ}
      (loads : LoadsConfig files path state (.error failure) after) :
      Discovers files (some path) state (.error failure) after
  | named {path : String} {config : Config} {state after : σ}
      (loads : LoadsConfig files path state (.ok config) after) :
      Discovers files (some path) state (.ok (some config)) after
  | nowhere {state after : σ}
      (absent : (files.isFile defaultConfig).run state = (false, after)) :
      Discovers files none state (.ok none) after
  | defaultFails {failure : Failure} {state middle after : σ}
      (present : (files.isFile defaultConfig).run state = (true, middle))
      (loads : LoadsConfig files defaultConfig middle (.error failure) after) :
      Discovers files none state (.error failure) after
  | default {config : Config} {state middle after : σ}
      (present : (files.isFile defaultConfig).run state = (true, middle))
      (loads : LoadsConfig files defaultConfig middle (.ok config) after) :
      Discovers files none state (.ok (some config)) after

/-- What comes of the stages before the last one: the configuration, the settings, the document and
what is retained of it, in this order. -/
inductive Prepares (files : Files (StateM σ)) (inputs : Inputs) (generator : Option Generator)
    (state : σ) : Except Failure Filtered → σ → Prop where
  | configFails {failure : Failure} {after : σ}
      (fails : Discovers files inputs.config state (.error failure) after) :
      Prepares files inputs generator state (.error failure) after
  | settingsFail {config : Option Config} {error : Settings.Error} {after : σ}
      (discovers : Discovers files inputs.config state (.ok config) after)
      (refused : Settings.resolve inputs.audiences generator config = .error error) :
      Prepares files inputs generator state (.error (.settings error)) after
  | documentFails {config : Option Config} {settings : Settings} {failure : Failure}
      {middle after : σ} (discovers : Discovers files inputs.config state (.ok config) middle)
      (resolves : Settings.resolve inputs.audiences generator config = .ok settings)
      (fails : LoadsDocument files inputs.document middle (.error failure) after) :
      Prepares files inputs generator state (.error failure) after
  | filterFails {config : Option Config} {settings : Settings} {document : Document}
      {reference : DanglingReference} {middle after : σ}
      (discovers : Discovers files inputs.config state (.ok config) middle)
      (resolves : Settings.resolve inputs.audiences generator config = .ok settings)
      (loads : LoadsDocument files inputs.document middle (.ok document) after)
      (dangling : document.filter settings.selection = .error reference) :
      Prepares files inputs generator state (.error (.dangling reference)) after
  | prepared {config : Option Config} {settings : Settings} {document : Document}
      {manifest : Manifest} {middle after : σ}
      (discovers : Discovers files inputs.config state (.ok config) middle)
      (resolves : Settings.resolve inputs.audiences generator config = .ok settings)
      (loads : LoadsDocument files inputs.document middle (.ok document) after)
      (filters : document.filter settings.selection = .ok manifest) :
      Prepares files inputs generator state (.ok ⟨document, settings, manifest⟩) after

def Filtered.pruned (filtered : Filtered) : Document := filtered.manifest.prune filtered.document

/-- How a run goes that filters or prunes: what comes of its last stage, and the state it leaves. -/
inductive Course (files : Files (StateM σ)) (state : σ) :
    Command → Except Failure Yield → σ → Prop where
  | filterFails {inputs : Inputs} {generator : Option Generator} {failure : Failure} {after : σ}
      (fails : Prepares files inputs generator state (.error failure) after) :
      Course files state (.filter inputs generator) (.error failure) after
  | reported {inputs : Inputs} {generator : Option Generator} {filtered : Filtered} {after : σ}
      (prepares : Prepares files inputs generator state (.ok filtered) after) :
      Course files state (.filter inputs generator)
        (.ok (.report (Report.of filtered.document filtered.settings.selection
          filtered.settings.generator filtered.manifest))) after
  | pruneFails {inputs : Inputs} {out : Option String} {failure : Failure} {after : σ}
      (fails : Prepares files inputs none state (.error failure) after) :
      Course files state (.prune inputs out) (.error failure) after
  | shown {inputs : Inputs} {filtered : Filtered} {after : σ}
      (prepares : Prepares files inputs none state (.ok filtered) after) :
      Course files state (.prune inputs none) (.ok (.document filtered.pruned)) after
  | unwritable {inputs : Inputs} {path : String} {filtered : Filtered} {error : FileError}
      {middle after : σ} (prepares : Prepares files inputs none state (.ok filtered) middle)
      (unwritten : (files.write path (fileText filtered.pruned)).run middle =
        (.error error, after)) :
      Course files state (.prune inputs (some path)) (.error (.unwritable path error)) after
  | written {inputs : Inputs} {path : String} {filtered : Filtered} {middle after : σ}
      (prepares : Prepares files inputs none state (.ok filtered) middle)
      (wrote : (files.write path (fileText filtered.pruned)).run middle = (.ok (), after)) :
      Course files state (.prune inputs (some path)) (.ok (.written path)) after

end Course

section Existence

variable {σ : Type} (files : Files (StateM σ))

theorem exists_loads {ε α : Type} (path : String) (unreadable : FileError → Failure)
    (invalid : String → ε → Failure) (parse : String → Except ε α) (state : σ) :
    ∃ result after, Loads files path unreadable invalid parse state result after := by
  cases read : (files.read path).run state with
  | mk result after =>
      cases result with
      | error error => exact ⟨_, _, .unreadable read⟩
      | ok source =>
          cases parsed : parse source with
          | error error => exact ⟨_, _, .invalid read parsed⟩
          | ok value => exact ⟨_, _, .loaded read parsed⟩

theorem exists_loadsConfig (path : String) (state : σ) :
    ∃ result after, LoadsConfig files path state result after :=
  exists_loads ..

theorem exists_loadsDocument (path : String) (state : σ) :
    ∃ result after, LoadsDocument files path state result after :=
  exists_loads ..

theorem exists_discovers (named? : Option String) (state : σ) :
    ∃ result after, Discovers files named? state result after := by
  cases named? with
  | some path =>
      obtain ⟨result, after, loads⟩ := exists_loadsConfig files path state
      cases result with
      | error failure => exact ⟨_, _, .namedFails loads⟩
      | ok config => exact ⟨_, _, .named loads⟩
  | none =>
      cases asked : (files.isFile defaultConfig).run state with
      | mk present middle =>
          cases present with
          | false => exact ⟨_, _, .nowhere asked⟩
          | true =>
              obtain ⟨result, after, loads⟩ := exists_loadsConfig files defaultConfig middle
              cases result with
              | error failure => exact ⟨_, _, .defaultFails asked loads⟩
              | ok config => exact ⟨_, _, .default asked loads⟩

theorem exists_prepares (inputs : Inputs) (generator : Option Generator) (state : σ) :
    ∃ result after, Prepares files inputs generator state result after := by
  obtain ⟨config?, middle, discovers⟩ := exists_discovers files inputs.config state
  cases config? with
  | error failure => exact ⟨_, _, .configFails discovers⟩
  | ok config =>
      cases resolves : Settings.resolve inputs.audiences generator config with
      | error error => exact ⟨_, _, .settingsFail discovers resolves⟩
      | ok settings =>
          obtain ⟨document?, after, loads⟩ := exists_loadsDocument files inputs.document middle
          cases document? with
          | error failure => exact ⟨_, _, .documentFails discovers resolves loads⟩
          | ok document =>
              cases filters : document.filter settings.selection with
              | error reference => exact ⟨_, _, .filterFails discovers resolves loads filters⟩
              | ok manifest => exact ⟨_, _, .prepared discovers resolves loads filters⟩

theorem exists_course {command : Command} (works : command ≠ .generators) (state : σ) :
    ∃ result after, Course files state command result after := by
  cases command with
  | generators => exact absurd rfl works
  | filter inputs generator =>
      obtain ⟨result, after, prepares⟩ := exists_prepares files inputs generator state
      cases result with
      | error failure => exact ⟨_, _, .filterFails prepares⟩
      | ok filtered => exact ⟨_, _, .reported prepares⟩
  | prune inputs out =>
      obtain ⟨result, middle, prepares⟩ := exists_prepares files inputs none state
      cases result with
      | error failure => exact ⟨_, _, .pruneFails prepares⟩
      | ok filtered =>
          cases out with
          | none => exact ⟨_, _, .shown prepares⟩
          | some path =>
              cases wrote : (files.write path (fileText filtered.pruned)).run middle with
              | mk result after =>
                  cases result with
                  | error error => exact ⟨_, _, .unwritable prepares wrote⟩
                  | ok done => exact ⟨_, _, .written prepares wrote⟩

end Existence

section Ends

variable {σ : Type} {files : Files (StateM σ)} {state after : σ}

theorem ends_of_loads {ε α : Type} {path : String} {unreadable : FileError → Failure}
    {invalid : String → ε → Failure} {parse : String → Except ε α} {result : Except Failure α}
    (loads : Loads files path unreadable invalid parse state result after) :
    Ends (do
      let source ← orFail unreadable (← operate (files.read path))
      orFail (invalid source) (parse source)) state result after := by
  cases loads with
  | unreadable unread =>
      exact (Stage.ends_operate unread).bind (Stage.ends_orFail unreadable (.error _)).bind_error
  | invalid read refused =>
      apply (Stage.ends_operate read).bind
      apply (Stage.ends_orFail unreadable (.ok _)).bind
      rw [refused]
      exact Stage.ends_orFail _ _
  | loaded read parsed =>
      apply (Stage.ends_operate read).bind
      apply (Stage.ends_orFail unreadable (.ok _)).bind
      rw [parsed]
      exact Stage.ends_orFail _ _

theorem ends_of_loadsConfig {path : String} {result : Except Failure Config}
    (loads : LoadsConfig files path state result after) :
    (loadConfig files path).Ends state result after :=
  ends_of_loads loads

theorem ends_of_loadsDocument {path : String} {result : Except Failure Document}
    (loads : LoadsDocument files path state result after) :
    (loadDocument files path).Ends state result after :=
  ends_of_loads loads

theorem ends_of_discovers {named? : Option String} {result : Except Failure (Option Config)}
    (discovers : Discovers files named? state result after) :
    (discoverConfig files named?).Ends state result after := by
  unfold discoverConfig
  cases discovers with
  | namedFails loads => exact (ends_of_loadsConfig loads).bind_error
  | named loads => exact (ends_of_loadsConfig loads).bind (Stage.ends_pure _)
  | nowhere absent => exact (Stage.ends_operate absent).bind (Stage.ends_pure _)
  | defaultFails present loads =>
      apply (Stage.ends_operate present).bind
      apply (Stage.ends_tell _).bind
      exact (ends_of_loadsConfig loads).bind_error
  | default present loads =>
      apply (Stage.ends_operate present).bind
      apply (Stage.ends_tell _).bind
      exact (ends_of_loadsConfig loads).bind (Stage.ends_pure _)

theorem ends_filterDocument {document : Document} {selection : Selection}
    {result : Except DanglingReference Manifest} (filters : document.filter selection = result) :
    Ends (filterDocument document selection) state (result.mapError .dangling) state := by
  apply (Stage.ends_tell _).bind
  rw [filters]
  exact Stage.ends_orFail _ _

theorem ends_writeDocument {path : String} {document : Document} {result : Except FileError Unit}
    (wrote : (files.write path (fileText document)).run state = (result, after)) :
    (writeDocument files path document).Ends state (result.mapError (.unwritable path)) after := by
  apply (Stage.ends_operate wrote).bind
  cases result with
  | error error => exact (Stage.ends_orFail _ (.error error)).bind_error
  | ok done => exact (Stage.ends_orFail _ (.ok done)).bind (Stage.ends_tell _)

theorem ends_of_prepares {inputs : Inputs} {generator : Option Generator}
    {result : Except Failure Filtered}
    (prepares : Prepares files inputs generator state result after) :
    (filterInputs files inputs generator).Ends state result after := by
  unfold filterInputs
  cases prepares with
  | configFails fails => exact (ends_of_discovers fails).bind_error
  | settingsFail discovers refused =>
      apply (ends_of_discovers discovers).bind
      rw [refused]
      exact (Stage.ends_orFail _ _).bind_error
  | documentFails discovers resolves fails =>
      apply (ends_of_discovers discovers).bind
      rw [resolves]
      apply (Stage.ends_orFail _ _).bind
      exact (ends_of_loadsDocument fails).bind_error
  | filterFails discovers resolves loads dangling =>
      apply (ends_of_discovers discovers).bind
      rw [resolves]
      apply (Stage.ends_orFail _ _).bind
      apply (ends_of_loadsDocument loads).bind
      exact (ends_filterDocument dangling).bind_error
  | prepared discovers resolves loads filters =>
      apply (ends_of_discovers discovers).bind
      rw [resolves]
      apply (Stage.ends_orFail _ _).bind
      apply (ends_of_loadsDocument loads).bind
      exact (ends_filterDocument filters).bind (Stage.ends_pure _)

theorem ends_of_course {command : Command} {result : Except Failure Yield}
    (course : Course files state command result after) :
    (perform files command).Ends state result after := by
  cases course with
  | filterFails fails => exact (ends_of_prepares fails).bind_error
  | reported prepares => exact (ends_of_prepares prepares).bind (Stage.ends_pure _)
  | pruneFails fails => exact (ends_of_prepares fails).bind_error
  | shown prepares => exact (ends_of_prepares prepares).bind (Stage.ends_pure _)
  | unwritable prepares unwritten =>
      apply (ends_of_prepares prepares).bind
      exact (ends_writeDocument unwritten).bind_error
  | written prepares wrote =>
      apply (ends_of_prepares prepares).bind
      exact (ends_writeDocument wrote).bind (Stage.ends_pure _)

theorem Course.unique {command : Command} {result other : Except Failure Yield} {otherAfter : σ}
    (course : Course files state command result after)
    (otherCourse : Course files state command other otherAfter) :
    other = result ∧ otherAfter = after := by
  obtain ⟨told, ends⟩ := ends_of_course course []
  obtain ⟨otherTold, otherEnds⟩ := ends_of_course otherCourse []
  rw [ends] at otherEnds
  cases otherEnds
  exact ⟨rfl, rfl⟩

end Ends

section View

variable {σ ν : Type} {files : Files (StateM σ)} {view : σ → FileSet ν} {state after : σ}

theorem Loads.view_eq (confined : files.Confined view) {ε α : Type} {path : String}
    {unreadable : FileError → Failure} {invalid : String → ε → Failure}
    {parse : String → Except ε α} {result : Except Failure α}
    (loads : Loads files path unreadable invalid parse state result after) :
    view after = view state := by
  have kept := confined.read path state
  cases loads with
  | unreadable unread => rwa [unread] at kept
  | invalid read _ => rwa [read] at kept
  | loaded read _ => rwa [read] at kept

theorem Discovers.view_eq (confined : files.Confined view) {named? : Option String}
    {result : Except Failure (Option Config)}
    (discovers : Discovers files named? state result after) : view after = view state := by
  have kept := confined.isFile defaultConfig state
  cases discovers with
  | namedFails loads => exact Loads.view_eq confined loads
  | named loads => exact Loads.view_eq confined loads
  | nowhere absent => rwa [absent] at kept
  | defaultFails present loads =>
      rw [present] at kept
      exact (Loads.view_eq confined loads).trans kept
  | default present loads =>
      rw [present] at kept
      exact (Loads.view_eq confined loads).trans kept

/-- Until the last stage the files are as they were. -/
theorem Prepares.view_eq (confined : files.Confined view) {inputs : Inputs}
    {generator : Option Generator} {result : Except Failure Filtered}
    (prepares : Prepares files inputs generator state result after) :
    view after = view state := by
  cases prepares with
  | configFails fails => exact fails.view_eq confined
  | settingsFail discovers _ => exact discovers.view_eq confined
  | documentFails discovers _ fails =>
      exact (Loads.view_eq confined fails).trans (discovers.view_eq confined)
  | filterFails discovers _ loads _ =>
      exact (Loads.view_eq confined loads).trans (discovers.view_eq confined)
  | prepared discovers _ loads _ =>
      exact (Loads.view_eq confined loads).trans (discovers.view_eq confined)

theorem Files.Confined.target_of_changed (confined : files.Confined view) {path text : String}
    {result : Except FileError Unit} {name : ν}
    (wrote : (files.write path text).run state = (result, after))
    (changed : (view after).content name ≠ (view state).content name) :
    (view state).target? path = some name :=
  Classical.byContradiction fun apart => changed (confined.elsewhere wrote apart)

theorem Files.run_write (files : Files (StateM σ)) (path text : String) (state : σ) :
    (files.write path text).run state =
      match (files.create path).run state with
      | (.error error, after) => (.error error, after)
      | (.ok handle, middle) => (files.fill handle text).run middle := by
  unfold write
  rw [StateT.run_bind]
  cases (files.create path).run state with
  | mk result middle =>
      cases result with
      | error error => rfl
      | ok handle => rfl

/-- Where what is open can be filled, a write that fails has opened nothing. -/
theorem Files.Confined.view_of_unwritten (confined : files.Confined view) (roomy : files.Roomy)
    {path text : String} {error : FileError}
    (unwritten : (files.write path text).run state = (.error error, after)) :
    view after = view state := by
  rw [files.run_write] at unwritten
  cases created : (files.create path).run state with
  | mk result middle =>
      rw [created] at unwritten
      cases result with
      | error found =>
          cases unwritten
          exact confined.uncreated created
      | ok handle =>
          obtain ⟨last, filled⟩ := roomy handle text middle
          cases filled.symm.trans unwritten

end View

end AudienceScope.CommandLine
