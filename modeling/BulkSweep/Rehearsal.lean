import BulkSweep.Files.Tree
import BulkSweep.Program

/-!
# Rehearsals

A host in memory.  What a program would write, log or wait for is kept, its files stand in a file tree,
and the clock goes on by a fixed step with each look at it.
-/

set_option autoImplicit false

namespace BulkSweep

/-- All that a program has done so far in a rehearsal. -/
structure Rehearsal where
  /-- the files -/
  tree : FileTree
  /-- the text on the terminal -/
  terminal : String := ""
  /-- what was written beside the output -/
  complaints : String := ""
  /-- the log, last line first -/
  log : List (Level × String) := []
  /-- the waits, last one first -/
  waits : List (Wait × Nat) := []
  /-- the clock -/
  clock : Nat := 0
  /-- the last random number -/
  seed : Nat := 1
  /-- how many ids were made -/
  idsMade : Nat := 0
  /-- whether the operator has asked to stop -/
  interrupted : Bool := false
  deriving Repr, Inhabited

namespace Rehearsal

/-- How far the clock goes on with each look at it. -/
def tick : Nat := 1000000

/-- The next number of a sequence without an obvious order. -/
def nextSeed (seed : Nat) : Nat :=
  (seed * 6364136223846793005 + 1442695040888963407) % 2 ^ 64

/-- The id with the given number among those that are made. -/
def madeId (number : Nat) : ObjectId :=
  ⟨BitVec.ofNat 96 (0xb5 * 2 ^ 88 + number)⟩

/-- Changes the files. -/
def onTree {α : Type} (change : FileTree → FileTree × α) : StateM Rehearsal α :=
  fun r =>
    let (tree, result) := change r.tree
    (result, { r with tree := tree })

/-- The files of a rehearsal. -/
def files : FileAccess (StateM Rehearsal) where
  read := fun path => return (← get).tree.read path
  isFile := fun path => return (← get).tree.isFile path
  makeFolders := fun path => onTree fun tree => tree.makeFolders path
  replace := fun path text => onTree fun tree => tree.replace path (.text text)
  append := fun path text => onTree fun tree => tree.append path text
  ownName? := fun path => return (← get).tree.ownName? path
  workingFolder := return "/" ++ "/".intercalate (← get).tree.working

/-- The host of a rehearsal, with or without colours. -/
def host (coloured : Bool) : Host (StateM Rehearsal) where
  palette := ⟨coloured⟩
  print := fun text => modify fun r => { r with terminal := r.terminal ++ text }
  log := fun level line => modify fun r => { r with log := (level, line) :: r.log }
  clock := modifyGet fun r => (r.clock + tick, { r with clock := r.clock + tick })
  timestamp := return "2000-01-01 00:00:00"
  sleep := fun reason nanos => modify fun r =>
    { r with waits := (reason, nanos) :: r.waits, clock := r.clock + nanos }
  draw := modifyGet fun r => (nextSeed r.seed, { r with seed := nextSeed r.seed })
  newId := modifyGet fun r => (madeId r.idsMade, { r with idsMade := r.idsMade + 1 })
  listen := return .ok ()
  interrupted := return (← get).interrupted
  overflow := fun cause => modify fun r =>
    { r with complaints := r.complaints ++ cause.message ++ "\n" }
  files := files

/-- The host of a rehearsal that keeps those log lines that a threshold lets through. -/
def loggingHost (coloured : Bool) (logging : Option Logging) : Host (StateM Rehearsal) :=
  let host := host coloured
  { host with
    log := fun level line =>
      match logging with
      | none => return ()
      | some logging => if logging.level.keeps level then host.log level line else return () }

/-- The surroundings of a program in a rehearsal. -/
def surroundings (environment : Settings.Environment) : Surroundings (StateM Rehearsal) where
  host := loggingHost (Palette.ofEnvironment environment false).coloured
  environment := environment
  accountFolder := none
  complain := fun text => modify fun r => { r with complaints := r.complaints ++ text }

/-- The lines of the log, in order. -/
def logged (r : Rehearsal) : List (Level × String) :=
  r.log.reverse

/-- The waits for one reason, in order. -/
def waited (r : Rehearsal) (reason : Wait) : List Nat :=
  (r.waits.reverse.filter fun wait => wait.1 = reason).map Prod.snd

end Rehearsal

end BulkSweep
