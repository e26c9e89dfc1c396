import AudienceScope.CommandLine.Files

/-!
A workspace keeps what runs rely on: what is put at one name leaves every other name as it was, so
writing changes the file that its path leads to and no other. Main statements:
`Workspace.confined_access`, `Workspace.roomy_access`.
-/

set_option autoImplicit false

namespace AudienceScope.CommandLine.Workspace

variable {workspace : Workspace} {path text : String} {names other : List String}

theorem lookup_replace (files : List (List String × ByteArray)) (names : List String)
    (content : ByteArray) (other : List String) :
    (files.map fun file => if file.1 = names then (names, content) else file).lookup other =
      if other = names then (files.lookup other).map fun _ => content
      else files.lookup other := by
  induction files with
  | nil => simp
  | cons file rest ih =>
      rw [List.map_cons, List.lookup_cons, List.lookup_cons, ih]
      by_cases same : file.1 = names
      · by_cases asked : other = names
        · simp [same, asked]
        · have skipped : (other == names) = false := by simpa using asked
          simp [same, asked, skipped]
      · by_cases asked : other = names
        · have skipped : (names == file.1) = false := by simpa using Ne.symm same
          simp [same, asked, skipped]
        · simp [same, asked]

/-- What is put in place of a file is held there, and every other file is as it was. -/
theorem lookup_put (workspace : Workspace) (names : List String) (content : ByteArray)
    (other : List String) :
    (workspace.put names content).files.lookup other =
      if other = names then some content else workspace.files.lookup other := by
  unfold put
  by_cases present : (workspace.files.lookup names).isSome = true
  · obtain ⟨held, found⟩ := Option.isSome_iff_exists.mp present
    simp only [present, if_true, lookup_replace]
    by_cases asked : other = names
    · simp [asked, found]
    · simp [asked]
  · have absent : workspace.files.lookup names = none := Option.not_isSome_iff_eq_none.mp present
    simp only [present, Bool.false_eq_true, if_false, List.lookup_append]
    by_cases asked : other = names
    · simp [asked, absent]
    · have skipped : (other == names) = false := by simpa using asked
      simp [asked, List.lookup_cons, skipped]

/-- The tree after a file has been written: emptied first, then filled. -/
def written (workspace : Workspace) (names : List String) (text : String) : Workspace :=
  (workspace.put names .empty).put names text.toUTF8

theorem lookup_written (workspace : Workspace) (names : List String) (text : String)
    (other : List String) :
    (workspace.written names text).files.lookup other =
      if other = names then some text.toUTF8 else workspace.files.lookup other := by
  unfold written
  rw [lookup_put, lookup_put]
  split <;> rfl

theorem run_isFile (workspace : Workspace) (path : String) :
    (access.isFile path).run workspace = (workspace.isFile path, workspace) :=
  rfl

theorem run_read (workspace : Workspace) (path : String) :
    (access.read path).run workspace = (workspace.read path, workspace) :=
  rfl

theorem run_write_of_error {error : FileError} (nowhere : workspace.target path = .error error) :
    (access.write path text).run workspace = (.error error, workspace) := by
  simp only [Files.write, access, StateT.run_bind, StateT.run_get, pure_bind, nowhere]
  rfl

theorem run_write_of_target (leads : workspace.target path = .ok names) :
    (access.write path text).run workspace = (.ok (), workspace.written names text) := by
  simp only [Files.write, access, StateT.run_bind, StateT.run_get, pure_bind, leads]
  rfl

theorem view_target?_eq_some_iff :
    (view workspace).target? path = some names ↔ workspace.target path = .ok names := by
  change (workspace.target path).toOption = some names ↔ _
  cases workspace.target path with
  | error error => exact ⟨nofun, nofun⟩
  | ok found => simp [Except.toOption]

/-- Paths in a workspace lead to one file each, and only that file changes. -/
theorem confined_access : access.Confined view where
  isFile _ _ := rfl
  read _ _ := rfl
  uncreated {path error workspace after} run := by
    cases leads : workspace.target path with
    | error found =>
        simp only [access, StateT.run_bind, StateT.run_get, pure_bind, leads] at run
        cases run
        rfl
    | ok names =>
        simp only [access, StateT.run_bind, StateT.run_get, pure_bind, leads] at run
        cases run
  elsewhere {path text result workspace after name} run apart := by
    cases leads : workspace.target path with
    | error found =>
        rw [run_write_of_error leads] at run
        cases run
        rfl
    | ok names =>
        have other : name ≠ names := fun same =>
          apart (view_target?_eq_some_iff.mpr (same ▸ leads))
        rw [run_write_of_target leads] at run
        cases run
        exact (lookup_written workspace names text name).trans (if_neg other)
  written {path text workspace after name} run target := by
    have leads : workspace.target path = .ok name := view_target?_eq_some_iff.mp target
    rw [run_write_of_target leads] at run
    cases run
    exact (lookup_written workspace name text name).trans (if_pos rfl)

theorem roomy_access : access.Roomy := fun _ _ _ => ⟨_, rfl⟩

end AudienceScope.CommandLine.Workspace
