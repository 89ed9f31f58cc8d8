import ConvLab.Bench.Log

/-!
# Hosts

What a benchmark needs of the world around it: a log, a place to print, files and a clock.  Programs
are written for any host, so that they can run over a recorded session as well as for real.
-/

namespace ConvLab

/-- Why a file gives no text. -/
inductive FileError where
  /-- There is no file at the path. -/
  | missing
  /-- There is something at the path that cannot be read as a text. -/
  | unreadable (reason : String)
  deriving DecidableEq, Repr

namespace FileError

def throughFile : FileError := .unreadable "Not a directory (os error 20)"

def isFolder : FileError := .unreadable "Is a directory (os error 21)"

/-- No file can have the path. -/
def nulInPath : FileError := .unreadable "file name contained an unexpected NUL byte"

def noText : FileError := .unreadable "stream did not contain valid UTF-8"

end FileError

/-- The world around a benchmark. -/
class Host (n : Type → Type) where
  /-- Adds a line to the log. -/
  log : LogLine → n Unit
  /-- Prints a line. -/
  print : String → n Unit
  /-- The text of the file at a path. -/
  readFile : String → n (Except FileError String)
  /-- The time in nanoseconds. -/
  clock : n Nat

namespace Host

variable {n : Type → Type} [Host n]

/-- Logs what ends a run. -/
def logError (message : String) : n Unit := log ⟨.error, message⟩

/-- Logs what is out of the ordinary. -/
def logWarning (message : String) : n Unit := log ⟨.warn, message⟩

/-- Logs the course of a run. -/
def logInfo (message : String) : n Unit := log ⟨.info, message⟩

/-- Logs a detail. -/
def logDebug (message : String) : n Unit := log ⟨.debug, message⟩

end Host

/-- A program that can fail has the host of the program without failures. -/
instance {ε : Type} {n : Type → Type} [Monad n] [Host n] : Host (ExceptT ε n) where
  log line := ExceptT.lift (Host.log line)
  print line := ExceptT.lift (Host.print line)
  readFile path := ExceptT.lift (Host.readFile path)
  clock := ExceptT.lift Host.clock

end ConvLab
