import BulkSweep.Value.Basic

/-!
# Connections

What a job needs from a database: counting matches, reading the ids of matches through a cursor, and
changing documents by their ids.  A failure of a cursor may pass when the cursor is opened again; which
failures are of that kind is decided here.
-/

set_option autoImplicit false

namespace BulkSweep

/-! ## Namespaces -/

/-- A collection of a database. -/
structure Namespace where
  /-- the database -/
  database : String
  /-- the collection -/
  collection : String
  deriving DecidableEq, Repr, Inhabited

/-- Database and collection with a point between them. -/
def Namespace.text (ns : Namespace) : String :=
  ns.database ++ "." ++ ns.collection

/-! ## Errors -/

/-- What went wrong on the way to the database. -/
inductive Transport.Kind where
  /-- nothing there -/
  | notFound
  /-- not allowed -/
  | permissionDenied
  /-- nobody listens -/
  | connectionRefused
  /-- cut by the other side -/
  | connectionReset
  /-- no way to the host -/
  | hostUnreachable
  /-- no way to the network -/
  | networkUnreachable
  /-- given up by the other side -/
  | connectionAborted
  /-- no connection yet -/
  | notConnected
  /-- the address is taken -/
  | addressInUse
  /-- the network is down -/
  | networkDown
  /-- nobody reads any more -/
  | brokenPipe
  /-- there already -/
  | alreadyExists
  /-- it would have to wait -/
  | wouldBlock
  /-- an argument that makes no sense -/
  | invalidInput
  /-- data that make no sense -/
  | invalidData
  /-- it took too long -/
  | timedOut
  /-- nothing was written -/
  | writeZero
  /-- a signal came in between -/
  | interrupted
  /-- not available here -/
  | unsupported
  /-- the data end too early -/
  | unexpectedEnd
  /-- no memory left -/
  | outOfMemory
  /-- anything else -/
  | other
  deriving DecidableEq, Repr, Inhabited

/-- The wording of a kind on its own. -/
def Transport.Kind.text : Transport.Kind → String
  | notFound => "entity not found"
  | permissionDenied => "permission denied"
  | connectionRefused => "connection refused"
  | connectionReset => "connection reset"
  | hostUnreachable => "host unreachable"
  | networkUnreachable => "network unreachable"
  | connectionAborted => "connection aborted"
  | notConnected => "not connected"
  | addressInUse => "address in use"
  | networkDown => "network down"
  | brokenPipe => "broken pipe"
  | alreadyExists => "entity already exists"
  | wouldBlock => "operation would block"
  | invalidInput => "invalid input parameter"
  | invalidData => "invalid data"
  | timedOut => "timed out"
  | writeZero => "write zero"
  | interrupted => "operation interrupted"
  | unsupported => "unsupported"
  | unexpectedEnd => "unexpected end of file"
  | outOfMemory => "out of memory"
  | other => "other error"

/-- Why an operation on a connection failed. -/
inductive ConnError where
  /-- the server refused a command -/
  | command (code : Int) (message : String)
  /-- the way to the server failed, with a message of its own or without -/
  | transport (kind : Transport.Kind) (message : Option String)
  /-- the network failed -/
  | network (message : String)
  /-- a document of the server could not be read -/
  | decode (message : String)
  /-- the operation was cancelled by its caller -/
  | cancelled
  /-- the time that the caller allowed is over -/
  | deadlineExceeded
  /-- anything else -/
  | other (message : String)
  deriving DecidableEq, Repr, Inhabited

namespace ConnError

/-- The wording of a transport failure. -/
def transportText (kind : Transport.Kind) (message : Option String) : String :=
  message.getD kind.text

/-- The message of an error. -/
def message : ConnError → String
  | command code message => "command failed (code " ++ toString code ++ "): " ++ message
  | transport kind message => "I/O error: " ++ transportText kind message
  | network message => "network error: " ++ message
  | decode message => "failed to decode document: " ++ message
  | cancelled => "operation cancelled"
  | deadlineExceeded => "deadline exceeded"
  | other message => message

/-! ## Which errors pass -/

/-- The server codes of errors that pass: a lost cursor, interruptions by shutdown or by a change of
the primary, and a server-side time limit. -/
def passingCodes : List Int :=
  [43, 11600, 11602, 189, 91, 262]

/-- Pieces of messages that tell of network trouble, upper and lower case as written. -/
def passingPhrases : List String :=
  ["connection reset", "connection refused", "i/o timeout", "broken pipe", "no reachable servers",
   "EOF", "socket was unexpectedly closed", "server selection timeout"]

/-- Whether one text occurs in another. -/
def occursIn (piece : List Char) : List Char → Bool
  | [] => piece.isEmpty
  | c :: cs => piece.isPrefixOf (c :: cs) || occursIn piece cs

/-- Whether a message tells of network trouble. -/
def tellsTrouble (message : String) : Bool :=
  passingPhrases.any fun phrase => occursIn phrase.toList message.toList

/-- Whether a kind of transport failure passes. -/
def kindPasses : Transport.Kind → Bool
  | .connectionReset | .connectionRefused | .connectionAborted | .brokenPipe | .timedOut
  | .unexpectedEnd => true
  | _ => false

/-- Whether an error may pass when the operation is tried again.  What the caller itself caused never
does, nor does a document that cannot be read. -/
def isRetryable : ConnError → Bool
  | command code message => passingCodes.contains code || tellsTrouble message
  | transport kind message => kindPasses kind || tellsTrouble (transportText kind message)
  | network message | other message => tellsTrouble message
  | decode _ | cancelled | deadlineExceeded => false

end ConnError

/-! ## Operations -/

/-- What a cursor yields: ids, and the error that ends them unless they end by themselves. -/
structure Cursor where
  /-- the ids, in order -/
  ids : List Value
  /-- the error after the last id -/
  fault : Option ConnError
  deriving Inhabited

/-- What an update of some documents did. -/
structure UpdateCounts where
  /-- how many documents were found -/
  matched : Nat
  /-- how many of them changed -/
  modified : Nat
  deriving DecidableEq, Repr, Inhabited

/-- The operations of a connection. -/
structure Connection (m : Type → Type) where
  /-- counts the documents that a filter accepts -/
  count : Namespace → Document → m (Except ConnError Nat)
  /-- reads the ids of the documents that a filter accepts -/
  openCursor : Namespace → Document → m (Except ConnError Cursor)
  /-- deletes the documents with the given ids and tells how many there were -/
  deleteByIds : Namespace → List Value → m (Except ConnError Nat)
  /-- updates the documents with the given ids -/
  updateByIds : Namespace → List Value → Document → m (Except ConnError UpdateCounts)

/-- A connection, for a program that may break off. -/
def Connection.breaking {m : Type → Type} [Monad m] {ε : Type} (c : Connection m) :
    Connection (ExceptT ε m) where
  count := fun target filter => c.count target filter
  openCursor := fun target filter => c.openCursor target filter
  deleteByIds := fun target ids => c.deleteByIds target ids
  updateByIds := fun target ids operators => c.updateByIds target ids operators

end BulkSweep
