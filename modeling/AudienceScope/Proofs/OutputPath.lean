import AudienceScope.Proofs.Flags

/-!
The option of an output file. It is given at most once and behind the name of the command, and the
arguments that are left when it is taken out ask for the same but for the file. The key is
`Takes.regards`: an argument gives the output file and does nothing else, or it is taken alike
whether a file is given or not. Main statements: `request?_of_withoutOut`, `exists_withoutOut`.
-/

set_option autoImplicit false

namespace AudienceScope.CommandLine

/-- Whether the second list of arguments is the first less the option of an output file. Behind a
double dash there is no option. -/
inductive WithoutOut : List String → List String → Prop where
  | apart (path : String) (rest : List String) : WithoutOut ("--out" :: path :: rest) rest
  | joined (path : String) (rest : List String) : WithoutOut (("--out=" ++ path) :: rest) rest
  | keep {argument : String} {first second : List String} (notDashes : argument ≠ "--")
      (without : WithoutOut first second) :
      WithoutOut (argument :: first) (argument :: second)

theorem toList_outJoined (path : String) :
    ("--out=" ++ path).toList = '-' :: '-' :: ("out".toList ++ '=' :: path.toList) := by
  rw [String.toList_append]
  rfl

namespace Collected

variable {collected next : Collected} {setting : Setting} {value path : String}

def withoutOut (collected : Collected) : Collected := { collected with out := none }

theorem withoutOut_of_absent (absent : collected.out = none) : collected.withoutOut = collected := by
  cases collected
  cases absent
  rfl

def GivesOut (collected next : Collected) : Prop :=
  collected.out = none ∧ next.out ≠ none ∧ next.withoutOut = collected

theorem givesOut_of_set (taken : collected.set .out value = some next) :
    collected.GivesOut next := by
  obtain ⟨out, found, rfl⟩ := Option.map_eq_some_iff.mp taken
  unfold once at found
  split at found
  case h_1 absent _ =>
      cases found
      exact ⟨absent, nofun, withoutOut_of_absent absent⟩
  case h_2 => cases found

/-- Whether what was collected is the same but for the output file, and that is as it was. -/
def KeepsOut (step : Collected → Option Progress) (collected next : Collected)
    (awaiting : Option Setting) : Prop :=
  next.out = collected.out ∧ step collected.withoutOut = some (.more next.withoutOut awaiting)

theorem set_of_ne_out (apart : setting ≠ .out) (taken : collected.set setting value = some next) :
    next.out = collected.out ∧ collected.withoutOut.set setting value = some next.withoutOut := by
  cases setting with
  | out => exact absurd rfl apart
  | audience =>
      cases taken
      exact ⟨rfl, rfl⟩
  | output =>
      obtain ⟨output, found, rfl⟩ := Option.map_eq_some_iff.mp taken
      exact ⟨rfl, Option.map_eq_some_iff.mpr ⟨output, found, rfl⟩⟩
  | config =>
      obtain ⟨config, found, rfl⟩ := Option.map_eq_some_iff.mp taken
      exact ⟨rfl, Option.map_eq_some_iff.mpr ⟨config, found, rfl⟩⟩
  | generator =>
      obtain ⟨generator, found, rfl⟩ := Option.map_eq_some_iff.mp taken
      exact ⟨rfl, Option.map_eq_some_iff.mpr ⟨generator, found, rfl⟩⟩

theorem setDocument_withoutOut (taken : collected.setDocument value = some next) :
    next.out = collected.out ∧ collected.withoutOut.setDocument value = some next.withoutOut := by
  obtain ⟨document, found, rfl⟩ := Option.map_eq_some_iff.mp taken
  exact ⟨rfl, Option.map_eq_some_iff.mpr ⟨document, found, rfl⟩⟩

end Collected

open Collected (GivesOut KeepsOut)

section Option

variable {command : Option CommandName} {collected next : Collected} {awaiting : Option Setting}
  {setting : Setting}

theorem keepsOut_of_turn {switch : Switch}
    (turned : turn collected switch = some (.more next awaiting)) :
    KeepsOut (turn · switch) collected next awaiting := by
  cases switch with
  | version => cases turned
  | help => cases turned
  | quiet =>
      change (if collected.quiet then none else _) = _ at turned
      split at turned
      case isTrue => cases turned
      case isFalse unset =>
          cases turned
          exact ⟨rfl, if_neg unset⟩
  | verbose =>
      change (if collected.verbose then none else _) = _ at turned
      split at turned
      case isTrue => cases turned
      case isFalse unset =>
          cases turned
          exact ⟨rfl, if_neg unset⟩

theorem keepsOut_of_take {value : List Char} (apart : setting ≠ .out)
    (taken : take collected setting value = some (.more next awaiting)) :
    KeepsOut (take · setting value) collected next awaiting := by
  obtain ⟨_, found, same⟩ := Option.map_eq_some_iff.mp taken
  cases same
  obtain ⟨kept, found⟩ := Collected.set_of_ne_out apart found
  exact ⟨kept, Option.map_eq_some_iff.mpr ⟨_, found, rfl⟩⟩

theorem eq_out_of_longFlag? {name : String}
    (flag : longFlag? command name = some (.setting .out)) : name = "out" := by
  unfold longFlag? at flag
  split at flag
  case h_11 => rfl
  all_goals cases flag

theorem shortFlag?_ne_out {letter : Char} :
    shortFlag? command letter ≠ some (.setting .out) := by
  intro flag
  unfold shortFlag? at flag
  split at flag
  all_goals cases flag

theorem drop_takeWhile_eq_cons {argument behind : List Char} {c : Char}
    (drop : argument.drop (argument.takeWhile (· ≠ '=')).length = c :: behind) : c = '=' := by
  induction argument with
  | nil => cases drop
  | cons first rest ih =>
      by_cases equals : first = '='
      · subst equals
        cases drop
        rfl
      · rw [List.takeWhile_cons_of_pos (by simpa using equals)] at drop
        exact ih drop

theorem readLong_regards {argument : List Char}
    (read : readLong command collected argument = some (.more next awaiting)) :
    (KeepsOut (readLong command · argument) collected next awaiting ∧
        (awaiting = some .out → argument = "out".toList)) ∨
      (GivesOut collected next ∧ ∃ value, argument = "out".toList ++ '=' :: value) := by
  have whole := List.take_append_drop (argument.takeWhile (· ≠ '=')).length argument
  rw [← List.prefix_iff_eq_take.mp (List.takeWhile_prefix _)] at whole
  unfold readLong at read
  simp only at read
  split at read
  case h_1 flag behind =>
      obtain ⟨_, rfl⟩ := agrees_of_turn read
      obtain ⟨kept, turned⟩ := keepsOut_of_turn read
      refine .inl ⟨⟨kept, ?_⟩, nofun⟩
      simp only [readLong, flag, behind, turned]
  case h_2 setting flag behind =>
      cases read
      refine .inl ⟨⟨rfl, ?_⟩, ?_⟩
      · simp only [readLong, flag, behind]
      · intro asks
        cases asks
        rw [← whole, behind, List.append_nil, ← eq_out_of_longFlag? flag, String.toList_ofList]
  case h_3 setting equals value flag behind =>
      obtain rfl := drop_takeWhile_eq_cons behind
      by_cases out : setting = .out
      · subst out
        obtain ⟨_, found, same⟩ := Option.map_eq_some_iff.mp read
        cases same
        refine .inr ⟨Collected.givesOut_of_set found, value, ?_⟩
        rw [← whole, behind, ← eq_out_of_longFlag? flag, String.toList_ofList]
      · obtain ⟨kept, taken⟩ := keepsOut_of_take out read
        refine .inl ⟨⟨kept, ?_⟩, ?_⟩
        · simp only [readLong, flag, behind, taken]
        · intro asks
          obtain ⟨_, _, same⟩ := Option.map_eq_some_iff.mp read
          cases same
          cases asks
  case h_4 => cases read

theorem readShort_keepsOut {letters : List Char}
    (read : readShort command collected letters = some (.more next awaiting)) :
    KeepsOut (readShort command · letters) collected next awaiting ∧ awaiting ≠ some .out := by
  induction letters generalizing collected with
  | nil =>
      cases read
      exact ⟨⟨rfl, rfl⟩, nofun⟩
  | cons letter rest ih =>
      unfold readShort at read
      cases flag : shortFlag? command letter with
      | none =>
          rw [flag] at read
          cases read
      | some found =>
          rw [flag] at read
          cases found with
          | switch switch =>
              simp only at read
              split at read
              case h_1 turned =>
                  obtain ⟨sameOut, turned⟩ := keepsOut_of_turn turned
                  obtain ⟨⟨kept, later⟩, other⟩ := ih read
                  refine ⟨⟨kept.trans sameOut, ?_⟩, other⟩
                  simp only [readShort, flag, turned, later]
              case h_2 stopped => exact absurd read (stopped _ _)
          | setting setting =>
              have apart : setting ≠ .out := fun out => shortFlag?_ne_out (out ▸ flag)
              have other : ∀ {value : List Char},
                  take collected setting value = some (.more next awaiting) →
                    awaiting ≠ some .out := by
                intro value taken
                obtain ⟨_, _, same⟩ := Option.map_eq_some_iff.mp taken
                cases same
                exact nofun
              simp only at read
              split at read
              case h_1 =>
                  cases read
                  refine ⟨⟨rfl, ?_⟩, fun asks => apart (Option.some.inj asks)⟩
                  simp only [readShort, flag]
              case h_2 =>
                  obtain ⟨kept, taken⟩ := keepsOut_of_take apart read
                  refine ⟨⟨kept, ?_⟩, other read⟩
                  simp only [readShort, flag, taken]
              case h_3 notNil notEquals =>
                  obtain ⟨kept, taken⟩ := keepsOut_of_take apart read
                  refine ⟨⟨kept, ?_⟩, other read⟩
                  simp only [readShort, flag]
                  exact taken

end Option

section Inner

variable {command : CommandName} {collected next result : Collected}
  {awaiting nextAwaiting : Option Setting} {argument : String} {rest arguments others : List String}

/-- What an argument has to do with the output file. -/
inductive Regards (command : CommandName) (collected : Collected) (awaiting : Option Setting)
    (argument : String) (next : Collected) (nextAwaiting : Option Setting) : Prop where
  | kept (kept : next.out = collected.out)
      (takes : Takes command collected.withoutOut awaiting argument next.withoutOut nextAwaiting)
      (asks : nextAwaiting = some .out → argument = "--out")
  | given (gives : GivesOut collected next)
      (spelled : awaiting = some .out ∨ ∃ path, argument = "--out=" ++ path)

theorem Takes.regards (takes : Takes command collected awaiting argument next nextAwaiting) :
    Regards command collected awaiting argument next nextAwaiting := by
  cases takes with
  | value notOption set =>
      rename_i setting
      by_cases out : setting = .out
      · subst out
        exact .given (Collected.givesOut_of_set set) (.inl rfl)
      · obtain ⟨kept, set⟩ := Collected.set_of_ne_out out set
        exact .kept kept (.value notOption set) nofun
  | document notOption takesDocument set =>
      obtain ⟨kept, set⟩ := Collected.setDocument_withoutOut set
      exact .kept kept (.document notOption takesDocument set) nofun
  | option isOption read =>
      unfold readOption at read
      split at read
      case h_1 name dashes =>
          cases readLong_regards read with
          | inl kept =>
              obtain ⟨⟨kept, later⟩, asks⟩ := kept
              refine .kept kept (.option isOption ?_) ?_
              · simp only [readOption, dashes, later]
              · intro awaits
                rw [← String.toList_inj, dashes, asks awaits]
                rfl
          | inr gives =>
              obtain ⟨gives, value, spelled⟩ := gives
              refine .given gives (.inr ⟨String.ofList value, ?_⟩)
              rw [← String.toList_inj, toList_outJoined, @String.toList_ofList value, dashes, spelled]
      case h_2 letters notLong dash =>
          obtain ⟨⟨kept, later⟩, other⟩ := readShort_keepsOut read
          refine .kept kept (.option isOption ?_) fun asks => absurd asks other
          rw [dash]
          unfold readOption
          split
          case h_1 name same => exact absurd (List.cons.inj same).2 (notLong name)
          case h_2 same => exact (List.cons.inj same).2 ▸ later
          case h_3 other => exact absurd rfl (other _)
      case h_3 => cases read

theorem readPlain_withoutOut {takesDocument : Bool}
    (read : readPlain takesDocument collected arguments = some result) :
    result.out = collected.out ∧
      readPlain takesDocument collected.withoutOut arguments = some result.withoutOut := by
  induction arguments generalizing collected with
  | nil =>
      cases read
      exact ⟨rfl, rfl⟩
  | cons argument rest ih =>
      unfold readPlain at read
      split at read
      case isFalse => cases read
      case isTrue takes =>
          split at read
          case h_2 => cases read
          case h_1 next found =>
              obtain ⟨sameOut, found⟩ := Collected.setDocument_withoutOut found
              obtain ⟨kept, later⟩ := ih read
              subst takes
              refine ⟨kept.trans sameOut, ?_⟩
              simp only [readPlain, if_true, found, later]

theorem readCommand_of_given (given : collected.out ≠ none)
    (read : readCommand command collected awaiting arguments = some (.ok result)) :
    readCommand command collected.withoutOut awaiting arguments = some (.ok result.withoutOut) := by
  induction arguments generalizing collected awaiting with
  | nil =>
      cases awaiting with
      | none =>
          cases read
          rfl
      | some setting => cases read
  | cons argument rest ih =>
      by_cases dashes : argument.toList = ['-', '-']
      · obtain rfl : argument = "--" := String.toList_inj.mp dashes
        obtain ⟨rfl, plain⟩ := readPlain_of_readCommand read
        rw [readCommand_plain, (readPlain_withoutOut plain).2]
        rfl
      · obtain ⟨next, nextAwaiting, takes, later⟩ := takes_of_readCommand dashes read
        cases takes.regards with
        | kept kept takes _ =>
            rw [takes.readCommand_cons dashes]
            exact ih (kept ▸ given) later
        | given gives _ => exact absurd gives.1 given

theorem readCommand_of_withoutOut (without : WithoutOut arguments others)
    (read : readCommand command collected awaiting arguments = some (.ok result)) :
    collected.out = none ∧
      readCommand command collected awaiting others = some (.ok result.withoutOut) := by
  induction without generalizing collected awaiting with
  | apart path rest =>
      obtain ⟨rfl, _, _, found, later⟩ := readOption_of_readCommand rfl (by decide) read
      cases command with
      | filter => cases found
      | generators => cases found
      | prune =>
          cases found
          by_cases dashes : path.toList = ['-', '-']
          · simp [readCommand, dashes] at later
          · obtain ⟨next, _, takes, later⟩ := takes_of_readCommand dashes later
            cases takes with
            | value _ set =>
                obtain ⟨absent, given, same⟩ := Collected.givesOut_of_set set
                rw [← same]
                exact ⟨by rw [same, absent], readCommand_of_given given later⟩
  | joined path rest =>
      have dashes := toList_outJoined path
      have notDashes : ("--out=" ++ path).toList ≠ ['-', '-'] := by
        rw [dashes]
        intro same
        cases same
      obtain ⟨rfl, _, _, found, later⟩ :=
        readOption_of_readCommand (by rw [dashes]; rfl) notDashes read
      rw [dashes] at found
      cases command with
      | filter => cases found
      | generators => cases found
      | prune =>
          change take collected .out path.toList = _ at found
          obtain ⟨_, set, same⟩ := Option.map_eq_some_iff.mp found
          cases same
          obtain ⟨absent, given, same⟩ := Collected.givesOut_of_set set
          rw [← same]
          exact ⟨by rw [same, absent], readCommand_of_given given later⟩
  | keep notDashes _ ih =>
      have notDashes := fun dashes => notDashes (String.toList_inj.mp dashes)
      obtain ⟨next, nextAwaiting, takes, later⟩ := takes_of_readCommand notDashes read
      obtain ⟨absent, later⟩ := ih later
      cases takes.regards with
      | kept kept _ _ =>
          rw [takes.readCommand_cons notDashes]
          exact ⟨kept ▸ absent, later⟩
      | given gives _ => exact absurd absent gives.2.1

theorem exists_withoutOut_behind (absent : collected.out = none) (given : result.out ≠ none)
    (read : readCommand command collected awaiting arguments = some (.ok result)) :
    awaiting = some .out ∨ ∃ others, WithoutOut arguments others := by
  induction arguments generalizing collected awaiting with
  | nil =>
      cases awaiting with
      | none =>
          cases read
          exact absurd absent given
      | some setting => cases read
  | cons argument rest ih =>
      by_cases dashes : argument.toList = ['-', '-']
      · obtain rfl : argument = "--" := String.toList_inj.mp dashes
        obtain ⟨_, read⟩ := readPlain_of_readCommand read
        exact absurd ((readPlain_withoutOut read).1.trans absent) given
      · have notDashes : argument ≠ "--" := fun same => dashes (same ▸ rfl)
        obtain ⟨next, nextAwaiting, takes, later⟩ := takes_of_readCommand dashes read
        cases takes.regards with
        | given _ spelled =>
            cases spelled with
            | inl awaits => exact .inl awaits
            | inr joined =>
                obtain ⟨path, rfl⟩ := joined
                exact .inr ⟨_, .joined path rest⟩
        | kept kept _ asks =>
            cases ih (kept.trans absent) later with
            | inr found =>
                obtain ⟨others, without⟩ := found
                exact .inr ⟨_, .keep notDashes without⟩
            | inl awaits =>
                obtain rfl := asks awaits
                subst awaits
                cases rest with
                | nil => cases later
                | cons path rest => exact .inr ⟨_, .apart path rest⟩

end Inner

section Outer

variable {preamble : Preamble} {command : CommandName} {awaiting : Option Setting}
  {arguments others : List String} {presentation : Presentation} {inputs : Inputs} {path : String}

theorem requestOf_of_withoutOut (without : WithoutOut arguments others)
    (accepted : requestOf preamble command arguments =
      some (.run ⟨presentation, .prune inputs (some path)⟩)) :
    requestOf preamble command others = some (.run ⟨presentation, .prune inputs none⟩) := by
  obtain ⟨outer, inner, settled, read, complete, shown⟩ := requestOf_eq_run_iff.mp accepted
  obtain ⟨_, read⟩ := readCommand_of_withoutOut without read
  refine requestOf_eq_run_iff.mpr ⟨outer, _, settled, read, ?_, shown⟩
  cases command with
  | filter =>
      obtain ⟨_, _, other⟩ := Option.map_eq_some_iff.mp complete
      cases other
  | generators => cases complete
  | prune =>
      obtain ⟨_, found, same⟩ := Option.map_eq_some_iff.mp complete
      obtain ⟨rfl, _⟩ := Command.prune.inj same
      exact Option.map_eq_some_iff.mpr ⟨_, found, rfl⟩

theorem readProgram_of_withoutOut (without : WithoutOut arguments others)
    (accepted : readProgram preamble awaiting arguments =
      some (.run ⟨presentation, .prune inputs (some path)⟩)) :
    readProgram preamble awaiting others = some (.run ⟨presentation, .prune inputs none⟩) := by
  induction without generalizing preamble awaiting with
  | apart path rest =>
      obtain ⟨_, _, _, _, found, _⟩ := readOption_of_readProgram rfl accepted
      cases found
  | joined path rest =>
      have dashes := toList_outJoined path
      obtain ⟨_, _, _, _, found, _⟩ :=
        readOption_of_readProgram (by rw [dashes]; rfl) accepted
      rw [dashes] at found
      cases found
  | keep _ without ih =>
      cases passes_or_names_of_readProgram accepted with
      | inl passed =>
          obtain ⟨_, _, passes, later⟩ := passed
          rw [passes.readProgram_cons]
          exact ih later
      | inr names =>
          obtain ⟨notOption, rfl, command, named, accepted⟩ := names
          rw [readProgram_of_name notOption named]
          exact requestOf_of_withoutOut without accepted

theorem exists_withoutOut_of_readProgram
    (accepted : readProgram preamble awaiting arguments =
      some (.run ⟨presentation, .prune inputs (some path)⟩)) :
    ∃ others, WithoutOut arguments others := by
  induction arguments generalizing preamble awaiting with
  | nil => cases accepted
  | cons argument rest ih =>
      cases passes_or_names_of_readProgram accepted with
      | inl passed =>
          obtain ⟨_, _, passes, later⟩ := passed
          obtain ⟨others, without⟩ := ih later
          exact ⟨_, .keep passes.ne_dashes without⟩
      | inr names =>
          obtain ⟨notOption, _, command, _, accepted⟩ := names
          obtain ⟨_, inner, _, read, complete, _⟩ := requestOf_eq_run_iff.mp accepted
          have notDashes : argument ≠ "--" := fun same => by simp [same, isOption] at notOption
          have given : inner.out ≠ none := by
            cases command with
            | filter =>
                obtain ⟨_, _, other⟩ := Option.map_eq_some_iff.mp complete
                cases other
            | generators => cases complete
            | prune =>
                obtain ⟨_, _, same⟩ := Option.map_eq_some_iff.mp complete
                rw [(Command.prune.inj same).2]
                exact nofun
          cases exists_withoutOut_behind rfl given read with
          | inl awaits => cases awaits
          | inr found =>
              obtain ⟨others, without⟩ := found
              exact ⟨_, .keep notDashes without⟩

/-- The arguments less the option of an output file ask for the same run without that file. -/
theorem request?_of_withoutOut (without : WithoutOut arguments others)
    (accepted : request? arguments =
      some (.run ⟨presentation, .prune inputs (some path)⟩)) :
    request? others = some (.run ⟨presentation, .prune inputs none⟩) :=
  readProgram_of_withoutOut without accepted

theorem exists_withoutOut
    (accepted : request? arguments =
      some (.run ⟨presentation, .prune inputs (some path)⟩)) :
    ∃ others, WithoutOut arguments others :=
  exists_withoutOut_of_readProgram accepted

end Outer

end AudienceScope.CommandLine
