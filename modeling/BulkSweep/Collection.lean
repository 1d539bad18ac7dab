import Std.Data.HashSet
import BulkSweep.Connection
import BulkSweep.Filter
import BulkSweep.Update
import BulkSweep.Value.Label

/-!
# Collections

A collection is a list of documents.  Documents are found by a filter, or by their ids; two ids are
taken for one when their labels are the same.
-/

set_option autoImplicit false

namespace BulkSweep

/-- The name of the field that identifies a document. -/
def idField : String :=
  "_id"

namespace Document

/-- The id of a document. -/
def id? (d : Document) : Option Value :=
  get? d idField

/-- A document with an id; its own one stays, and a new one goes to the end. -/
def withId (d : Document) (id : ObjectId) : Document :=
  match id? d with
  | some _ => d
  | none => insert d idField (.objectId id)

end Document

/-- The documents of a collection, in order. -/
abbrev Collection : Type :=
  List Document

/-- The labels of some ids. -/
abbrev IdSet : Type :=
  Std.HashSet String

/-- The labels of the given ids. -/
def IdSet.ofIds (ids : List Value) : IdSet :=
  .ofList (ids.map Value.label)

/-- Whether a document has one of the given ids. -/
def IdSet.has (set : IdSet) (d : Document) : Bool :=
  match Document.id? d with
  | some id => set.contains id.label
  | none => false

namespace Collection

/-! ## Finding documents -/

/-- The documents that a filter accepts. -/
def find (docs : Collection) (filter : Document) : Collection :=
  docs.filter fun d => Filter.accepts d filter

/-- How many documents a filter accepts. -/
def count (docs : Collection) (filter : Document) : Nat :=
  (find docs filter).length

/-- The ids of the documents that a filter accepts.  A document without id has none. -/
def ids (docs : Collection) (filter : Document) : List Value :=
  (find docs filter).filterMap Document.id?

/-! ## Changing documents -/

/-- Deletes the documents with the given ids. -/
def delete (docs : Collection) (ids : List Value) : Collection :=
  let set := IdSet.ofIds ids
  docs.filter fun d => !set.has d

/-- The error of an update that cannot be applied to a document. -/
def updateError (e : Update.Error) : ConnError :=
  .command e.code e.message

/-- Updates the documents of a set, one after another.  The first failure ends it; the documents
before stay updated. -/
def updateSet (set : IdSet) (operators : Document) :
    Collection → UpdateCounts → Collection × Except ConnError UpdateCounts
  | [], counts => ([], .ok counts)
  | d :: rest, counts =>
    if set.has d then
      match Update.apply operators d with
      | .error e => (d :: rest, .error (updateError e))
      | .ok (updated, changed) =>
        let (others, result) := updateSet set operators rest
          ⟨counts.matched + 1, counts.modified + changed.toNat⟩
        (updated :: others, result)
    else
      let (others, result) := updateSet set operators rest counts
      (d :: others, result)

/-- The code of a server that is given an update which it cannot read. -/
def unreadableUpdate : Int := 9

/-- Updates the documents with the given ids.  An update that is no valid one changes nothing. -/
def update (docs : Collection) (ids : List Value) (operators : Document) :
    Collection × Except ConnError UpdateCounts :=
  match Update.validate operators with
  | .error e => (docs, .error (.command unreadableUpdate e.message))
  | .ok _ => updateSet (.ofIds ids) operators docs ⟨0, 0⟩

end Collection

end BulkSweep
