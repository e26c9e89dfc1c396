import AudienceScope.CommandLine.Arguments

/-!
Flags that only concern how results are shown. They may stand anywhere between the other arguments,
before the name of the command or behind it, and the command that is read does not depend on them.
What is read before the name of a command is never part of the command; what is read behind it is
read alike whatever flags were met. Main statement: `command_of_sameButFlags`.
-/

set_option autoImplicit false

namespace AudienceScope.CommandLine

/-- Arguments that only concern how results are shown. -/
inductive IsFlag : List String → Prop where
  | quiet : IsFlag ["--quiet"]
  | verbose : IsFlag ["--verbose"]
  | verboseLetter : IsFlag ["-v"]
  | output (format : String) : IsFlag ["--output", format]
  | outputJoined (format : String) : IsFlag ["--output=" ++ format]

/-- Whether the second list of arguments is the first less a flag in front, or less the letter of
one in front of other letters. -/
inductive DropsFlag : List String → List String → Prop where
  | flag {flag : List String} (isFlag : IsFlag flag) (rest : List String) :
      DropsFlag (flag ++ rest) rest
  | letter {letters fewer : String} {letter : Char} {behind : List Char} (notDash : letter ≠ '-')
      (spelled : letters.toList = '-' :: 'v' :: letter :: behind)
      (left : fewer.toList = '-' :: letter :: behind) (rest : List String) :
      DropsFlag (letters :: rest) (fewer :: rest)

/-- Whether two lists of arguments differ only in flags, wherever these stand. Behind a double dash
there are none. -/
inductive SameButFlags : List String → List String → Prop where
  | done : SameButFlags [] []
  | plain (rest : List String) : SameButFlags ("--" :: rest) ("--" :: rest)
  | keep {argument : String} {first second : List String} (notDashes : argument ≠ "--")
      (same : SameButFlags first second) :
      SameButFlags (argument :: first) (argument :: second)
  | left {flagged first second : List String} (drops : DropsFlag flagged first)
      (same : SameButFlags first second) : SameButFlags flagged second
  | right {flagged first second : List String} (drops : DropsFlag flagged second)
      (same : SameButFlags first second) : SameButFlags first flagged

namespace Collected

structure Agrees (collected other : Collected) : Prop where
  audiences : collected.audiences = other.audiences
  config : collected.config = other.config
  generator : collected.generator = other.generator
  out : collected.out = other.out
  document : collected.document = other.document

variable {collected other next otherNext : Collected}

theorem Agrees.refl (collected : Collected) : collected.Agrees collected := by
  constructor <;> rfl

theorem Agrees.trans {third : Collected} (first : collected.Agrees other)
    (second : other.Agrees third) : collected.Agrees third where
  audiences := first.audiences.trans second.audiences
  config := first.config.trans second.config
  generator := first.generator.trans second.generator
  out := first.out.trans second.out
  document := first.document.trans second.document

theorem Agrees.symm (agrees : collected.Agrees other) : other.Agrees collected where
  audiences := agrees.audiences.symm
  config := agrees.config.symm
  generator := agrees.generator.symm
  out := agrees.out.symm
  document := agrees.document.symm

theorem Agrees.set {setting : Setting} {value : String} (agrees : collected.Agrees other)
    (taken : collected.set setting value = some next)
    (otherTaken : other.set setting value = some otherNext) : next.Agrees otherNext := by
  obtain ⟨audiences, config, generator, out, document⟩ := agrees
  cases setting with
  | audience =>
      obtain rfl := Option.some.inj taken
      obtain rfl := Option.some.inj otherTaken
      exact ⟨by simp only [audiences], config, generator, out, document⟩
  | output =>
      obtain ⟨_, _, rfl⟩ := Option.map_eq_some_iff.mp taken
      obtain ⟨_, _, rfl⟩ := Option.map_eq_some_iff.mp otherTaken
      exact ⟨audiences, config, generator, out, document⟩
  | config =>
      obtain ⟨_, found, rfl⟩ := Option.map_eq_some_iff.mp taken
      obtain ⟨_, otherFound, rfl⟩ := Option.map_eq_some_iff.mp otherTaken
      rw [config, otherFound] at found
      exact ⟨audiences, (Option.some.inj found).symm, generator, out, document⟩
  | generator =>
      obtain ⟨_, found, rfl⟩ := Option.map_eq_some_iff.mp taken
      obtain ⟨_, otherFound, rfl⟩ := Option.map_eq_some_iff.mp otherTaken
      rw [generator, otherFound] at found
      exact ⟨audiences, config, (Option.some.inj found).symm, out, document⟩
  | out =>
      obtain ⟨_, found, rfl⟩ := Option.map_eq_some_iff.mp taken
      obtain ⟨_, otherFound, rfl⟩ := Option.map_eq_some_iff.mp otherTaken
      rw [out, otherFound] at found
      exact ⟨audiences, config, generator, (Option.some.inj found).symm, document⟩

theorem Agrees.setDocument {value : String} (agrees : collected.Agrees other)
    (taken : collected.setDocument value = some next)
    (otherTaken : other.setDocument value = some otherNext) : next.Agrees otherNext := by
  obtain ⟨audiences, config, generator, out, document⟩ := agrees
  obtain ⟨_, found, rfl⟩ := Option.map_eq_some_iff.mp taken
  obtain ⟨_, otherFound, rfl⟩ := Option.map_eq_some_iff.mp otherTaken
  rw [document, otherFound] at found
  exact ⟨audiences, config, generator, out, (Option.some.inj found).symm⟩

theorem Agrees.commandOf (agrees : collected.Agrees other) (command : CommandName) :
    commandOf command collected = commandOf command other := by
  obtain ⟨audiences, config, generator, out, document⟩ := agrees
  unfold CommandLine.commandOf
  rw [audiences, config, generator, out, document]

end Collected

open Collected (Agrees)

section Option

variable {command : Option CommandName} {collected other next otherNext : Collected}
  {awaiting otherAwaiting : Option Setting}

theorem agrees_of_turn {switch : Switch}
    (turned : turn collected switch = some (.more next awaiting)) :
    collected.Agrees next ∧ awaiting = none := by
  cases switch with
  | version => cases turned
  | help => cases turned
  | quiet =>
      change (if collected.quiet then none else _) = _ at turned
      split at turned
      · cases turned
      · cases turned
        exact ⟨⟨rfl, rfl, rfl, rfl, rfl⟩, rfl⟩
  | verbose =>
      change (if collected.verbose then none else _) = _ at turned
      split at turned
      · cases turned
      · cases turned
        exact ⟨⟨rfl, rfl, rfl, rfl, rfl⟩, rfl⟩

/-- Whether an option did the same to two collections: it awaits the same value, and if they were
the same but for flags, they still are. -/
def SameEffect (collected other next otherNext : Collected)
    (awaiting otherAwaiting : Option Setting) : Prop :=
  awaiting = otherAwaiting ∧ (collected.Agrees other → next.Agrees otherNext)

theorem sameEffect_of_turn {switch : Switch}
    (turned : turn collected switch = some (.more next awaiting))
    (otherTurned : turn other switch = some (.more otherNext otherAwaiting)) :
    SameEffect collected other next otherNext awaiting otherAwaiting := by
  obtain ⟨agrees, rfl⟩ := agrees_of_turn turned
  obtain ⟨otherAgrees, rfl⟩ := agrees_of_turn otherTurned
  exact ⟨rfl, fun same => agrees.symm.trans (same.trans otherAgrees)⟩

theorem sameEffect_of_take {setting : Setting} {value : List Char}
    (taken : take collected setting value = some (.more next awaiting))
    (otherTaken : take other setting value = some (.more otherNext otherAwaiting)) :
    SameEffect collected other next otherNext awaiting otherAwaiting := by
  obtain ⟨_, found, same⟩ := Option.map_eq_some_iff.mp taken
  obtain ⟨_, otherFound, otherSame⟩ := Option.map_eq_some_iff.mp otherTaken
  cases same
  cases otherSame
  exact ⟨rfl, fun agrees => agrees.set found otherFound⟩

theorem sameEffect_of_readLong {argument : List Char}
    (read : readLong command collected argument = some (.more next awaiting))
    (otherRead : readLong command other argument = some (.more otherNext otherAwaiting)) :
    SameEffect collected other next otherNext awaiting otherAwaiting := by
  unfold readLong at read otherRead
  simp only at read otherRead
  split at read
  · rename_i flag behind
    rw [flag, behind] at otherRead
    exact sameEffect_of_turn read otherRead
  · rename_i flag behind
    rw [flag, behind] at otherRead
    cases read
    cases otherRead
    exact ⟨rfl, id⟩
  · rename_i flag behind
    rw [flag, behind] at otherRead
    exact sameEffect_of_take read otherRead
  · cases read

theorem sameEffect_of_readShort {letters : List Char}
    (read : readShort command collected letters = some (.more next awaiting))
    (otherRead : readShort command other letters = some (.more otherNext otherAwaiting)) :
    SameEffect collected other next otherNext awaiting otherAwaiting := by
  induction letters generalizing collected other with
  | nil =>
      cases read
      cases otherRead
      exact ⟨rfl, id⟩
  | cons letter rest ih =>
      unfold readShort at read otherRead
      cases flag : shortFlag? command letter with
      | none =>
          rw [flag] at read
          cases read
      | some found =>
          rw [flag] at read otherRead
          cases found with
          | setting setting =>
              simp only at read otherRead
              split at read
              · cases read
                cases otherRead
                exact ⟨rfl, id⟩
              · exact sameEffect_of_take read otherRead
              · rename_i notNil notEquals
                split at otherRead
                · exact absurd rfl notNil
                · exact absurd rfl (notEquals _)
                · exact sameEffect_of_take read otherRead
          | switch switch =>
              simp only at read otherRead
              split at read
              · rename_i turned
                split at otherRead
                · rename_i otherTurned
                  have step := sameEffect_of_turn turned otherTurned
                  obtain ⟨same, later⟩ := ih read otherRead
                  exact ⟨same, fun agrees => later (step.2 agrees)⟩
                · rename_i stopped
                  exact absurd otherRead (stopped _ _)
              · rename_i stopped
                exact absurd read (stopped _ _)

theorem sameEffect_of_readOption {argument : List Char}
    (read : readOption command collected argument = some (.more next awaiting))
    (otherRead : readOption command other argument = some (.more otherNext otherAwaiting)) :
    SameEffect collected other next otherNext awaiting otherAwaiting := by
  unfold readOption at read otherRead
  split at read
  case h_1 => exact sameEffect_of_readLong read otherRead
  case h_2 letters notLong =>
      have otherShort : readShort command other letters = some (.more otherNext otherAwaiting) := by
        split at otherRead
        case h_1 name same => exact absurd (List.cons.inj same).2 (notLong name)
        case h_2 _ same => exact (List.cons.inj same).2 ▸ otherRead
        case h_3 => cases otherRead
      exact sameEffect_of_readShort read otherShort
  case h_3 => cases read

end Option

section Flag

variable {command : Option CommandName} {collected next : Collected} {awaiting : Option Setting}
  {word format : String}

theorem agrees_of_set_output (taken : collected.set .output format = some next) :
    collected.Agrees next := by
  obtain ⟨_, _, rfl⟩ := Option.map_eq_some_iff.mp taken
  exact ⟨rfl, rfl, rfl, rfl, rfl⟩

theorem toList_outputJoined (format : String) :
    ("--output=" ++ format).toList = '-' :: '-' :: ("output".toList ++ '=' :: format.toList) := by
  rw [String.toList_append]
  rfl

theorem readLong_outputJoined (value : List Char) :
    readLong command collected ("output".toList ++ '=' :: value) =
      take collected .output value := by
  rfl

theorem readShort_verbose (command : Option CommandName) (collected : Collected) :
    readShort command collected ['v'] = turn collected .verbose := by
  cases already : collected.verbose <;> simp [readShort, shortFlag?, turn, already]

theorem agrees_of_readOption_flag (isFlag : IsFlag [word])
    (read : readOption command collected word.toList = some (.more next awaiting)) :
    collected.Agrees next ∧ awaiting = none := by
  cases isFlag with
  | quiet =>
      change turn collected .quiet = _ at read
      exact agrees_of_turn read
  | verbose =>
      change turn collected .verbose = _ at read
      exact agrees_of_turn read
  | verboseLetter =>
      change readShort command collected ['v'] = _ at read
      rw [readShort_verbose] at read
      exact agrees_of_turn read
  | outputJoined format =>
      rw [toList_outputJoined] at read
      change readLong command collected ("output".toList ++ '=' :: format.toList) = _ at read
      rw [readLong_outputJoined] at read
      obtain ⟨_, found, same⟩ := Option.map_eq_some_iff.mp read
      cases same
      exact ⟨agrees_of_set_output found, rfl⟩

theorem isOption_of_isFlag {rest : List String} (isFlag : IsFlag (word :: rest)) :
    isOption word.toList = true ∧ word.toList ≠ ['-', '-'] := by
  cases isFlag with
  | quiet => decide
  | verbose => decide
  | verboseLetter => decide
  | output => decide
  | outputJoined format =>
      rw [toList_outputJoined]
      exact ⟨rfl, nofun⟩

theorem readOption_of_letter {letter : Char} {letters : List Char} (notDash : letter ≠ '-')
    (read : readOption command collected ('-' :: 'v' :: letter :: letters) =
      some (.more next awaiting)) :
    ∃ middle, collected.Agrees middle ∧
      readOption command middle ('-' :: letter :: letters) = some (.more next awaiting) := by
  change readShort command collected ('v' :: letter :: letters) = _ at read
  unfold readShort at read
  simp only [shortFlag?] at read
  split at read
  case h_1 middle _ turned =>
      refine ⟨middle, (agrees_of_turn turned).1, ?_⟩
      unfold readOption
      split
      case h_1 same => exact absurd (List.cons.inj (List.cons.inj same).2).1 notDash
      case h_2 same => exact (List.cons.inj same).2 ▸ read
      case h_3 other => exact absurd rfl (other _)
  case h_2 stopped => exact absurd read (stopped _ _)

end Flag

/-! ### Behind the name of the command -/

section Inner

variable {command : CommandName} {collected other next otherNext result otherResult : Collected}
  {awaiting otherAwaiting nextAwaiting : Option Setting} {argument : String}
  {rest arguments others : List String}

/-- What one argument does that is no double dash and is accepted. -/
inductive Takes (command : CommandName) :
    Collected → Option Setting → String → Collected → Option Setting → Prop where
  | option {collected next : Collected} {argument : String} {awaiting : Option Setting}
      (isOption : isOption argument.toList = true)
      (read : readOption (some command) collected argument.toList = some (.more next awaiting)) :
      Takes command collected none argument next awaiting
  | value {collected next : Collected} {argument : String} {setting : Setting}
      (notOption : isOption argument.toList = false)
      (set : collected.set setting argument = some next) :
      Takes command collected (some setting) argument next none
  | document {collected next : Collected} {argument : String}
      (notOption : isOption argument.toList = false) (takesDocument : command ≠ .generators)
      (set : collected.setDocument argument = some next) :
      Takes command collected none argument next none

theorem takes_of_readCommand (notDashes : argument.toList ≠ ['-', '-'])
    (read : readCommand command collected awaiting (argument :: rest) = some (.ok result)) :
    ∃ next nextAwaiting, Takes command collected awaiting argument next nextAwaiting ∧
      readCommand command next nextAwaiting rest = some (.ok result) := by
  unfold readCommand at read
  simp only [notDashes, if_false] at read
  split at read
  case isTrue isOption =>
      cases awaiting with
      | some setting => cases read
      | none =>
          simp only [Option.isSome_none, Bool.false_eq_true, if_false] at read
          split at read
          · cases read
          · cases read
          · rename_i found
            exact ⟨_, _, .option isOption found, read⟩
  case isFalse notOption =>
      rw [Bool.not_eq_true] at notOption
      cases awaiting with
      | some setting =>
          simp only at read
          split at read
          · rename_i found
            exact ⟨_, _, .value notOption found, read⟩
          · cases read
      | none =>
          simp only at read
          split at read
          case isTrue => cases read
          case isFalse takesDocument =>
              split at read
              case h_1 found => exact ⟨_, _, .document notOption takesDocument found, read⟩
              case h_2 => cases read

theorem Takes.readCommand_cons (takes : Takes command collected awaiting argument next nextAwaiting)
    (notDashes : argument.toList ≠ ['-', '-']) (rest : List String) :
    readCommand command collected awaiting (argument :: rest) =
      readCommand command next nextAwaiting rest := by
  conv => lhs; unfold readCommand
  cases takes with
  | option isOption read => simp [notDashes, isOption, read]
  | value notOption set => simp [notDashes, notOption, set]
  | document notOption takesDocument set => simp [notDashes, notOption, takesDocument, set]

theorem readCommand_plain (command : CommandName) (collected : Collected) (rest : List String) :
    readCommand command collected none ("--" :: rest) =
      (readPlain (command ≠ .generators) collected rest).map .ok := by
  rfl

theorem readPlain_of_readCommand
    (read : readCommand command collected awaiting ("--" :: rest) = some (.ok result)) :
    awaiting = none ∧ readPlain (command ≠ .generators) collected rest = some result := by
  cases awaiting with
  | some setting => cases read
  | none =>
      obtain ⟨_, found, same⟩ := Option.map_eq_some_iff.mp read
      cases same
      exact ⟨rfl, found⟩

theorem Takes.agrees (agrees : collected.Agrees other)
    (takes : Takes command collected awaiting argument next nextAwaiting)
    (otherTakes : Takes command other awaiting argument otherNext otherAwaiting) :
    next.Agrees otherNext ∧ nextAwaiting = otherAwaiting := by
  cases takes with
  | option isOption read =>
      cases otherTakes with
      | option _ otherRead =>
          obtain ⟨same, later⟩ := sameEffect_of_readOption read otherRead
          exact ⟨later agrees, same⟩
      | document notOption _ _ => simp [isOption] at notOption
  | value _ set =>
      cases otherTakes with
      | value _ otherSet => exact ⟨agrees.set set otherSet, rfl⟩
  | document notOption _ set =>
      cases otherTakes with
      | option isOption _ => simp [isOption] at notOption
      | document _ _ otherSet => exact ⟨agrees.setDocument set otherSet, rfl⟩

theorem agrees_of_readPlain {takesDocument : Bool} (agrees : collected.Agrees other)
    (read : readPlain takesDocument collected arguments = some result)
    (otherRead : readPlain takesDocument other arguments = some otherResult) :
    result.Agrees otherResult := by
  induction arguments generalizing collected other with
  | nil =>
      cases read
      cases otherRead
      exact agrees
  | cons argument rest ih =>
      unfold readPlain at read otherRead
      split at read
      case isFalse => cases read
      case isTrue takes =>
          rw [if_pos takes] at otherRead
          split at read
          case h_2 => cases read
          case h_1 found =>
              split at otherRead
              case h_2 => cases otherRead
              case h_1 otherFound => exact ih (agrees.setDocument found otherFound) read otherRead

/-- An option is only read where no value is awaited. -/
theorem readOption_of_readCommand (isOption : isOption argument.toList = true)
    (notDashes : argument.toList ≠ ['-', '-'])
    (read : readCommand command collected awaiting (argument :: rest) = some (.ok result)) :
    awaiting = none ∧ ∃ next nextAwaiting,
      readOption (some command) collected argument.toList = some (.more next nextAwaiting) ∧
        readCommand command next nextAwaiting rest = some (.ok result) := by
  obtain ⟨next, nextAwaiting, takes, later⟩ := takes_of_readCommand notDashes read
  cases takes with
  | value notOption _ => simp [isOption] at notOption
  | document notOption _ _ => simp [isOption] at notOption
  | option _ found => exact ⟨rfl, next, nextAwaiting, found, later⟩

theorem readCommand_of_flag {flag : List String} (isFlag : IsFlag flag)
    (read : readCommand command collected awaiting (flag ++ rest) = some (.ok result)) :
    awaiting = none ∧ ∃ next, collected.Agrees next ∧
      readCommand command next none rest = some (.ok result) := by
  cases flag with
  | nil => cases isFlag
  | cons word words =>
      obtain ⟨isOption, notDashes⟩ := isOption_of_isFlag isFlag
      obtain ⟨rfl, next, nextAwaiting, found, later⟩ :=
        readOption_of_readCommand isOption notDashes read
      cases words with
      | nil =>
          obtain ⟨agrees, rfl⟩ := agrees_of_readOption_flag isFlag found
          exact ⟨rfl, next, agrees, later⟩
      | cons format words =>
          cases isFlag with
          | output =>
              cases found
              by_cases dashes : format.toList = ['-', '-']
              · simp [readCommand, dashes] at later
              · obtain ⟨final, _, setTakes, later⟩ := takes_of_readCommand dashes later
                cases setTakes with
                | value _ set => exact ⟨rfl, final, agrees_of_set_output set, later⟩

theorem readCommand_of_dropsFlag (drops : DropsFlag arguments others)
    (read : readCommand command collected awaiting arguments = some (.ok result)) :
    awaiting = none ∧ ∃ next, collected.Agrees next ∧
      readCommand command next none others = some (.ok result) := by
  cases drops with
  | flag isFlag rest => exact readCommand_of_flag isFlag read
  | letter notDash spelled left rest =>
      obtain ⟨rfl, next, nextAwaiting, found, later⟩ :=
        readOption_of_readCommand (by rw [spelled]; rfl) (by rw [spelled]; exact nofun) read
      rw [spelled] at found
      obtain ⟨middle, agrees, found⟩ := readOption_of_letter notDash found
      rw [← left] at found
      have takes := Takes.option (by rw [left]; rfl) found
      have notDashes : _ ≠ ['-', '-'] := fun same =>
        notDash (List.cons.inj (List.cons.inj (left.symm.trans same)).2).1
      exact ⟨rfl, middle, agrees, (takes.readCommand_cons notDashes rest).trans later⟩

theorem agrees_of_readCommand {otherArguments : List String}
    (same : SameButFlags arguments otherArguments) (agrees : collected.Agrees other)
    (read : readCommand command collected awaiting arguments = some (.ok result))
    (otherRead : readCommand command other awaiting otherArguments = some (.ok otherResult)) :
    result.Agrees otherResult := by
  -- a flag is met on one side only, so both collections vary; what is awaited does not
  induction same generalizing collected other awaiting with
  | done =>
      cases awaiting with
      | none =>
          cases read
          cases otherRead
          exact agrees
      | some setting => cases read
  | plain rest =>
      exact agrees_of_readPlain agrees (readPlain_of_readCommand read).2
        (readPlain_of_readCommand otherRead).2
  | keep notDashes _ ih =>
      have notDashes := fun dashes => notDashes (String.toList_inj.mp dashes)
      obtain ⟨_, _, takes, later⟩ := takes_of_readCommand notDashes read
      obtain ⟨_, _, otherTakes, otherLater⟩ := takes_of_readCommand notDashes otherRead
      obtain ⟨agrees, rfl⟩ := takes.agrees agrees otherTakes
      exact ih agrees later otherLater
  | left drops _ ih =>
      obtain ⟨rfl, _, unchanged, later⟩ := readCommand_of_dropsFlag drops read
      exact ih (unchanged.symm.trans agrees) later otherRead
  | right drops _ ih =>
      obtain ⟨rfl, _, unchanged, later⟩ := readCommand_of_dropsFlag drops otherRead
      exact ih (agrees.trans unchanged) read later

end Inner

/-! ### Before the name of the command -/

section Outer

variable {preamble other next otherNext : Preamble} {command : CommandName}
  {awaiting nextAwaiting otherAwaiting : Option Setting} {argument : String}
  {rest arguments others otherArguments : List String} {invocation otherInvocation : Invocation}

theorem requestOf_eq_run_iff :
    requestOf preamble command arguments = some (.run invocation) ↔
      ∃ outer inner, preamble.settle = some outer ∧
        readCommand command .empty none arguments = some (.ok inner) ∧
        commandOf command inner = some invocation.command ∧
        presentationOf outer inner = invocation.presentation := by
  constructor
  · intro accepted
    unfold requestOf at accepted
    split at accepted
    case h_4 inner read =>
        split at accepted
        case h_1 outer _ settled complete =>
            cases accepted
            exact ⟨outer, inner, settled, read, complete, rfl⟩
        case h_2 => cases accepted
    all_goals cases accepted
  · rintro ⟨outer, inner, settled, read, complete, shown⟩
    simp only [requestOf, settled, read, complete, shown]

theorem command_of_sameButFlags_behind (same : SameButFlags arguments otherArguments)
    (accepted : requestOf preamble command arguments = some (.run invocation))
    (otherAccepted : requestOf other command otherArguments = some (.run otherInvocation)) :
    invocation.command = otherInvocation.command := by
  obtain ⟨_, inner, _, read, complete, _⟩ := requestOf_eq_run_iff.mp accepted
  obtain ⟨_, otherInner, _, otherRead, otherComplete, _⟩ := requestOf_eq_run_iff.mp otherAccepted
  have agrees : inner.Agrees otherInner := agrees_of_readCommand same (.refl _) read otherRead
  rw [agrees.commandOf, otherComplete] at complete
  exact (Option.some.inj complete).symm

/-- What one argument does that is accepted and names no command. -/
inductive Passes : Preamble → Option Setting → String → Preamble → Option Setting → Prop where
  | held {preamble : Preamble} {argument : String} {setting : Setting}
      (notOption : isOption argument.toList = false) :
      Passes preamble (some setting) argument
        { preamble with held := some (setting, argument) } none
  | option {preamble : Preamble} {argument : String} {outer next : Collected}
      {awaiting : Option Setting} (isOption : isOption argument.toList = true)
      (settled : preamble.settle = some outer)
      (read : readOption none outer argument.toList = some (.more next awaiting)) :
      Passes preamble none argument ⟨next, none⟩ awaiting

theorem Passes.awaiting_eq (passes : Passes preamble awaiting argument next nextAwaiting)
    (otherPasses : Passes other awaiting argument otherNext otherAwaiting) :
    nextAwaiting = otherAwaiting := by
  cases passes with
  | held =>
      cases otherPasses with
      | held => rfl
  | option _ _ read =>
      cases otherPasses with
      | option _ _ otherRead => exact (sameEffect_of_readOption read otherRead).1

theorem Passes.readProgram_cons (passes : Passes preamble awaiting argument next nextAwaiting)
    (rest : List String) :
    readProgram preamble awaiting (argument :: rest) = readProgram next nextAwaiting rest := by
  conv => lhs; unfold readProgram
  cases passes with
  | held notOption => simp [notOption]
  | option isOption settled read => simp [isOption, settled, read]

theorem Passes.ne_dashes (passes : Passes preamble awaiting argument next nextAwaiting) :
    argument ≠ "--" := by
  rintro rfl
  cases passes with
  | held notOption => cases notOption
  | option _ _ read => cases read

theorem readProgram_of_name (notOption : isOption argument.toList = false)
    (named : CommandName.ofName? argument = some command) (rest : List String) :
    readProgram preamble none (argument :: rest) = requestOf preamble command rest := by
  have notHelp : argument ≠ "help" := by
    rintro rfl
    cases named
  unfold readProgram
  simp [notOption, notHelp, named]

theorem passes_or_names_of_readProgram
    (accepted : readProgram preamble awaiting (argument :: rest) = some (.run invocation)) :
    (∃ next nextAwaiting, Passes preamble awaiting argument next nextAwaiting ∧
      readProgram next nextAwaiting rest = some (.run invocation)) ∨
    (isOption argument.toList = false ∧ awaiting = none ∧
      ∃ command, CommandName.ofName? argument = some command ∧
        requestOf preamble command rest = some (.run invocation)) := by
  unfold readProgram at accepted
  cases awaiting with
  | some setting =>
      simp only at accepted
      split at accepted
      case isTrue => cases accepted
      case isFalse notOption =>
          rw [Bool.not_eq_true] at notOption
          exact .inl ⟨_, _, .held notOption, accepted⟩
  | none =>
      simp only at accepted
      split at accepted
      case isTrue isOption =>
          split at accepted
          case h_4 found =>
              obtain ⟨outer, settled, read⟩ := Option.bind_eq_some_iff.mp found
              exact .inl ⟨_, _, .option isOption settled read, accepted⟩
          all_goals cases accepted
      case isFalse notOption =>
          rw [Bool.not_eq_true] at notOption
          split at accepted
          case isTrue =>
              unfold helpOf at accepted
              split at accepted
              case h_3 =>
                  obtain ⟨_, _, same⟩ := Option.map_eq_some_iff.mp accepted
                  cases same
              all_goals cases accepted
          case isFalse =>
              split at accepted
              case h_1 named =>
                  exact .inr ⟨notOption, rfl, _, named, accepted⟩
              case h_2 => cases accepted

theorem readOption_of_readProgram (isOption : isOption argument.toList = true)
    (accepted : readProgram preamble awaiting (argument :: rest) = some (.run invocation)) :
    awaiting = none ∧ ∃ outer next nextAwaiting,
      readOption none outer argument.toList = some (.more next nextAwaiting) ∧
        readProgram ⟨next, none⟩ nextAwaiting rest = some (.run invocation) := by
  cases passes_or_names_of_readProgram accepted with
  | inr names => simp [isOption] at names
  | inl passed =>
      obtain ⟨next, nextAwaiting, passes, later⟩ := passed
      cases passes with
      | held notOption => simp [isOption] at notOption
      | option _ _ found => exact ⟨rfl, _, _, _, found, later⟩

theorem readProgram_of_flag {flag : List String} (isFlag : IsFlag flag)
    (accepted : readProgram preamble awaiting (flag ++ rest) = some (.run invocation)) :
    awaiting = none ∧ ∃ next, readProgram next none rest = some (.run invocation) := by
  cases flag with
  | nil => cases isFlag
  | cons word words =>
      obtain ⟨isOption, _⟩ := isOption_of_isFlag isFlag
      obtain ⟨rfl, _, next, nextAwaiting, found, later⟩ :=
        readOption_of_readProgram isOption accepted
      cases words with
      | nil =>
          obtain ⟨_, rfl⟩ := agrees_of_readOption_flag isFlag found
          exact ⟨rfl, _, later⟩
      | cons format words =>
          cases isFlag with
          | output =>
              cases found
              cases passes_or_names_of_readProgram later with
              | inr names => exact absurd names.2.1 (by simp)
              | inl passed =>
                  obtain ⟨_, _, passes, later⟩ := passed
                  cases passes with
                  | held => exact ⟨rfl, _, later⟩

theorem readProgram_of_dropsFlag (drops : DropsFlag arguments others)
    (accepted : readProgram preamble awaiting arguments = some (.run invocation)) :
    awaiting = none ∧ ∃ next, readProgram next none others = some (.run invocation) := by
  cases drops with
  | flag isFlag rest => exact readProgram_of_flag isFlag accepted
  | letter notDash spelled left rest =>
      obtain ⟨rfl, _, next, nextAwaiting, found, later⟩ :=
        readOption_of_readProgram (by rw [spelled]; rfl) accepted
      rw [spelled] at found
      obtain ⟨middle, _, found⟩ := readOption_of_letter notDash found
      rw [← left] at found
      have passes : Passes ⟨middle, none⟩ _ _ _ _ := .option (by rw [left]; rfl) rfl found
      exact ⟨rfl, _, (passes.readProgram_cons rest).trans later⟩

/-- The command that is read does not depend on what is collected before its name, nor on flags. -/
theorem command_of_readProgram (same : SameButFlags arguments otherArguments)
    (accepted : readProgram preamble awaiting arguments = some (.run invocation))
    (otherAccepted : readProgram other awaiting otherArguments = some (.run otherInvocation)) :
    invocation.command = otherInvocation.command := by
  -- the two sides need not have read the same so far, as long as they await the same
  induction same generalizing preamble other awaiting with
  | done => cases accepted
  | plain rest =>
      obtain ⟨_, _, _, _, found, _⟩ := readOption_of_readProgram rfl accepted
      cases found
  | keep _ same ih =>
      cases passes_or_names_of_readProgram accepted with
      | inl passed =>
          obtain ⟨_, _, passes, later⟩ := passed
          cases passes_or_names_of_readProgram otherAccepted with
          | inl otherPassed =>
              obtain ⟨_, _, otherPasses, otherLater⟩ := otherPassed
              obtain rfl := passes.awaiting_eq otherPasses
              exact ih later otherLater
          | inr names =>
              obtain ⟨notOption, rfl, _⟩ := names
              cases passes with
              | option isOption _ _ => simp [isOption] at notOption
      | inr names =>
          obtain ⟨notOption, rfl, command, named, accepted⟩ := names
          cases passes_or_names_of_readProgram otherAccepted with
          | inl otherPassed =>
              obtain ⟨_, _, otherPasses, _⟩ := otherPassed
              cases otherPasses with
              | option isOption _ => simp [isOption] at notOption
          | inr otherNames =>
              obtain ⟨_, _, _, otherNamed, otherAccepted⟩ := otherNames
              cases named.symm.trans otherNamed
              exact command_of_sameButFlags_behind same accepted otherAccepted
  | left drops _ ih =>
      obtain ⟨rfl, _, later⟩ := readProgram_of_dropsFlag drops accepted
      exact ih later otherAccepted
  | right drops _ ih =>
      obtain ⟨rfl, _, later⟩ := readProgram_of_dropsFlag drops otherAccepted
      exact ih accepted later

/-- Arguments that differ only in flags ask for the same command. -/
theorem command_of_sameButFlags (same : SameButFlags arguments otherArguments)
    (accepted : request? arguments = some (.run invocation))
    (otherAccepted : request? otherArguments = some (.run otherInvocation)) :
    invocation.command = otherInvocation.command :=
  command_of_readProgram same accepted otherAccepted

end Outer

end AudienceScope.CommandLine
