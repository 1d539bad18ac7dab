import BulkSweep.Files.Content
import BulkSweep.Files.Error
import BulkSweep.Log
import BulkSweep.Paint
import BulkSweep.Progress
import BulkSweep.Value.Basic

/-!
# The host of a program

What a running program needs from outside: a terminal, a log, a clock, chance, files and word of an
interrupt.  The operations are given as a record over any monad, so that the same program runs in the
real world and in one that is made up.

A program breaks off where a length of time cannot be told.  What comes of that is up to the host: one of
a process ends, and so does any other one that is made `breaking`; else the program goes on.
-/

set_option autoImplicit false

namespace BulkSweep

/-! ## Files -/

/-- The operations on files.  A path is text with slashes; a relative one begins in the working
folder. -/
structure FileAccess (m : Type → Type) where
  /-- reads a whole file -/
  read : String → m (Except FileError Content)
  /-- whether the path leads to a file -/
  isFile : String → m Bool
  /-- makes a folder with all folders above it; those that are there stay -/
  makeFolders : String → m (Except FileError Unit)
  /-- gives a file a new text, all at once -/
  replace : String → String → m (Except FileError Unit)
  /-- adds text to the end of a file, which is made if there is none -/
  append : String → String → m (Except FileError Unit)
  /-- the own name of what the path leads to, without detours; the outermost folder has none -/
  ownName? : String → m (Option String)
  /-- the working folder -/
  workingFolder : m String

/-! ## Hosts -/

/-- Why a program waits. -/
inductive Wait where
  /-- before it counts again -/
  | recount
  /-- before it opens a cursor again -/
  | reopen
  /-- between batches -/
  | pause
  deriving DecidableEq, Repr, Inhabited

/-- Why a program breaks off in the middle: a length of time cannot be told. -/
inductive Overflow where
  /-- that of a pause together with its random part -/
  | pause (nanos : Nat)
  /-- that of the rest of a job, by its tracker at some moment -/
  | remaining (tracker : Tracker) (clock : Nat)
  deriving DecidableEq, Repr, Inhabited

/-- The words in which a program breaks off. -/
def Overflow.message : Overflow → String
  | pause _ => "overflow when adding durations"
  | remaining _ _ => "cannot convert float seconds to Duration: value is either too big or NaN"

/-- The operations of a host. -/
structure Host (m : Type → Type) where
  /-- the colours of the terminal -/
  palette : Palette
  /-- writes to the terminal -/
  print : String → m Unit
  /-- writes a line to the log -/
  log : Level → String → m Unit
  /-- the nanoseconds since some moment -/
  clock : m Nat
  /-- the local date and time, to the second -/
  timestamp : m String
  /-- waits for some nanoseconds -/
  sleep : Wait → Nat → m Unit
  /-- draws a random number -/
  draw : m Nat
  /-- makes an id that nothing has yet -/
  newId : m ObjectId
  /-- begins to listen for interrupts -/
  listen : m (Except FileError Unit)
  /-- whether the operator has asked to stop -/
  interrupted : m Bool
  /-- breaks the program off -/
  overflow : Overflow → m Unit
  /-- the files -/
  files : FileAccess m

namespace Host

variable {m : Type → Type}

/-- Writes a line to the terminal. -/
def printLine (h : Host m) (line : String) : m Unit :=
  h.print (line ++ "\n")

/-- Writes a coloured line to the terminal. -/
def printColoured (h : Host m) (c : Colour) (line : String) : m Unit :=
  h.printLine (h.palette.paint c line)

/-- The pauses of a retry, for one reason. -/
def backOff (h : Host m) (reason : Wait) : Retry.BackOff m where
  draw := h.draw
  sleep := h.sleep reason
  note := h.log .debug
  overflow := fun nanos => h.overflow (.pause nanos)

end Host

/-! ## Programs with a state of their own -/

/-- The files of a host, for a program with a state of its own. -/
def FileAccess.withState {m : Type → Type} [Monad m] {σ : Type} (f : FileAccess m) :
    FileAccess (StateT σ m) where
  read := fun path => f.read path
  isFile := fun path => f.isFile path
  makeFolders := fun path => f.makeFolders path
  replace := fun path text => f.replace path text
  append := fun path text => f.append path text
  ownName? := fun path => f.ownName? path
  workingFolder := f.workingFolder

/-- A host, for a program with a state of its own. -/
def Host.withState {m : Type → Type} [Monad m] {σ : Type} (h : Host m) : Host (StateT σ m) where
  palette := h.palette
  print := fun text => h.print text
  log := fun level line => h.log level line
  clock := h.clock
  timestamp := h.timestamp
  sleep := fun reason nanos => h.sleep reason nanos
  draw := h.draw
  newId := h.newId
  listen := h.listen
  interrupted := h.interrupted
  overflow := fun cause => h.overflow cause
  files := h.files.withState

/-- The pauses of a retry, for an operation with a state of its own. -/
def Retry.BackOff.withState {m : Type → Type} [Monad m] {σ : Type} (b : Retry.BackOff m) :
    Retry.BackOff (StateT σ m) where
  draw := b.draw
  sleep := fun nanos => b.sleep nanos
  note := fun line => b.note line
  overflow := fun nanos => b.overflow nanos

/-! ## Programs that break off -/

/-- The files of a host, for a program that may break off. -/
def FileAccess.breaking {m : Type → Type} [Monad m] {ε : Type} (f : FileAccess m) :
    FileAccess (ExceptT ε m) where
  read := fun path => f.read path
  isFile := fun path => f.isFile path
  makeFolders := fun path => f.makeFolders path
  replace := fun path text => f.replace path text
  append := fun path text => f.append path text
  ownName? := fun path => f.ownName? path
  workingFolder := f.workingFolder

/-- A host on which a program ends at once where it breaks off: nothing is done after it, and there is
no result. -/
def Host.breaking {m : Type → Type} [Monad m] (h : Host m) : Host (ExceptT Overflow m) where
  palette := h.palette
  print := fun text => h.print text
  log := fun level line => h.log level line
  clock := h.clock
  timestamp := h.timestamp
  sleep := fun reason nanos => h.sleep reason nanos
  draw := h.draw
  newId := h.newId
  listen := h.listen
  interrupted := h.interrupted
  overflow := fun cause => throw cause
  files := h.files.breaking

end BulkSweep
