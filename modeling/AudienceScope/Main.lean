import AudienceScope.CommandLine.Run

/-!
The program: files, arguments and streams of the operating system around `runRequest`. What the
readers say of a text that they refuse goes without its place in the text.
-/

set_option autoImplicit false

namespace AudienceScope.CommandLine

/-- An error of the system in its own words and with its own number. -/
def FileError.ofIO : IO.Error → FileError
  | .alreadyExists _ number reason | .otherError number reason | .resourceBusy number reason
  | .resourceVanished number reason | .unsupportedOperation number reason
  | .hardwareFault number reason | .unsatisfiedConstraints number reason
  | .illegalOperation number reason | .protocolError number reason | .timeExpired number reason
  | .interrupted _ number reason | .noFileOrDirectory _ number reason
  | .invalidArgument _ number reason | .permissionDenied _ number reason
  | .resourceExhausted _ number reason | .inappropriateType _ number reason
  | .noSuchThing _ number reason => .system reason number.toNat
  | .unexpectedEof => .plain "failed to fill whole buffer"
  | .userError reason => .plain reason

def attempt {α : Type} (action : IO α) : IO (Except FileError α) := do
  return (← action.toBaseIO).mapError FileError.ofIO

def permissionDenied : Nat := 13

/-- The files of the operating system. A directory can be opened, but no byte can be read from it;
what may not be opened is there all the same. -/
def systemFiles : Files IO where
  Handle := IO.FS.Handle
  isFile path := do
    match ← attempt (IO.FS.Handle.mk path .read) with
    | .error (.system _ number) => return number = permissionDenied
    | .error (.plain _) => return false
    | .ok handle => return (← attempt (handle.read 1)).isOk
  read path := do
    match ← attempt do (← IO.FS.Handle.mk path .read).readBinToEnd with
    | .error error => return .error error
    | .ok bytes =>
      match String.fromUTF8? bytes with
      | some text => return .ok text
      | none => return .error .notUtf8
  create path := attempt (IO.FS.Handle.mk path .write)
  fill handle text := attempt do
    handle.putStr text
    handle.flush

def logVariable : String := "SDKSCOPE_LOG"

end AudienceScope.CommandLine

open AudienceScope.CommandLine in
def main (arguments : List String) : IO UInt32 := do
  match request? arguments with
  | none =>
    (← IO.getStderr).putStrLn ("error: the arguments are not accepted\n\n" ++
      "For more information, try '--help'.")
    return 2
  | some request =>
    let filter := request.logFilter (← IO.getEnv logVariable)
    let outcome ← runRequest systemFiles .plain request
    (← IO.getStderr).putStr (outcome.standardError filter)
    (← IO.getStdout).putStr outcome.standardOutput
    return outcome.code.toUInt32
