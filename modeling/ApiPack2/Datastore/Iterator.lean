import ApiPack2.Datastore.Commands
import ApiPack2.Datastore.Libpq

/-!
# The datastore iterator

`DatastoreIterator` runs one query through a server-side cursor and hands out its rows one by
one, refilling from the cursor when the rows it holds are used up. Every function is
translated statement by statement over a record of the members; the heap of libpq results is
carried along, and each use of a result is recorded in it. Log lines are left out.
-/

namespace ApiPack2

/-- `DatastoreIterator::State`. -/
inductive IteratorState where
  | ready
  | opened
  deriving DecidableEq

/-- `IntrusiveTracked::Creator *`; the only creator is the datastore that owns the iterator. -/
inductive Creator where
  | datastore
  deriving DecidableEq

/-- `IntrusiveTracked`: the reference count and the creator to notify when it drops to zero. -/
structure IntrusiveTracked where
  /-- Number of references. -/
  mReference : Nat
  /-- Creator to notify, none for a null pointer. -/
  mCreator : Option Creator
  deriving DecidableEq

/-- `unsigned char *` into the column of a row of a result. -/
structure ValuePtr where
  /-- The result pointed into. -/
  result : ResultId
  /-- The row pointed into. -/
  row : Nat
  deriving DecidableEq

/-- `DataObject`. -/
structure DataObject where
  /-- Length of the value. -/
  sizeInBytes : Nat
  /-- The value, none for a null pointer. -/
  thriftObject : Option ValuePtr
  deriving DecidableEq

/-- `DataObject::DataObject`. -/
def DataObject.new : DataObject := ⟨0, none⟩

/-- `DatastoreIterator`, with the heap of the results libpq returned to it. -/
structure DatastoreIterator (σ : Type) extends IntrusiveTracked where
  /-- Text of the last error. -/
  mError : String
  /-- FETCH command of the current cursor. -/
  mFetchCommand : String
  /-- CLOSE command of the current cursor. -/
  mCloseCommand : String
  /-- Command of the last query. -/
  mQueryCommand : String
  /-- Result whose rows are being handed out. -/
  mResult : Option ResultId
  /-- Whether a cursor is open. -/
  mState : IteratorState
  /-- Connection with its session, none for a null pointer. -/
  mConnection : Option σ
  /-- Text of the id of the thread that created the iterator. -/
  mThreadId : String
  /-- Connection string. -/
  mConnectionString : String
  /-- Next row of the held result. -/
  mResultOffset : Nat
  /-- An error has been set and not been reset. -/
  mWasError : Bool
  /-- The results libpq returned and the calls made so far. -/
  libpq : ResultHeap

namespace DatastoreIterator

variable {σ : Type} (pq : Libpq σ)

/-- What `PQexec` returns on a connection, and the connection afterwards. -/
def reply (connection : Option σ) (command : String) : Option PGresult × Option σ :=
  match connection with
  | none => (none, none)
  | some session => ((pq.exec session command).1, some (pq.exec session command).2)

/-- `PQexec(mConnection, command)`: the pointer returned and the iterator afterwards. -/
def PQexec (iter : DatastoreIterator σ) (command : String) :
    Option ResultId × DatastoreIterator σ :=
  let answer := reply pq iter.mConnection command
  (answer.1.map fun _ => iter.libpq.results.length,
    { iter with mConnection := answer.2, libpq := iter.libpq.receive command answer.1 })

/-- `PQclear(result)`. -/
def PQclear (iter : DatastoreIterator σ) (result : Option ResultId) : DatastoreIterator σ :=
  { iter with libpq := iter.libpq.clear result }

/-- Note that an accessor reads a result, or one of its rows. -/
def access (iter : DatastoreIterator σ) (result : Option ResultId) (row : Option Nat) :
    DatastoreIterator σ :=
  { iter with libpq := iter.libpq.read result row }

/-- `PQerrorMessage(mConnection)`. -/
def errorMessage (iter : DatastoreIterator σ) : String :=
  match iter.mConnection with
  | none => "connection pointer is NULL\n"
  | some session => pq.errorMessage session

/-- `DatastoreIterator::hasError`. -/
def hasError (iter : DatastoreIterator σ) : Bool := iter.mWasError

/-- `DatastoreIterator::resetError`. -/
def resetError (iter : DatastoreIterator σ) : DatastoreIterator σ :=
  { iter with mWasError := false }

/-- `DatastoreIterator::setError`. -/
def setError (iter : DatastoreIterator σ) : DatastoreIterator σ :=
  { iter with mWasError := true }

/-- `DatastoreIterator::isReady`. -/
def isReady (iter : DatastoreIterator σ) : Bool := iter.mState == .ready

/-- `DatastoreIterator::isValid`. -/
def isValid (iter : DatastoreIterator σ) : Bool := iter.mConnection.isSome

/-- `DatastoreIterator::isConnected`. -/
def isConnected (iter : DatastoreIterator σ) : Bool := iter.mConnection.any pq.connectionOk

/-- One command of `closeAndReset`: run it, note an error unless it completes, and clear its
result. -/
def runClosing (iter : DatastoreIterator σ) (command : String) : DatastoreIterator σ :=
  let (result, iter) := PQexec pq iter command
  let iter := iter.access result none
  let iter := if iter.libpq.status result ≠ .commandOk then iter.setError else iter
  iter.PQclear result

/-- `DatastoreIterator::closeAndReset`. -/
def closeAndReset (iter : DatastoreIterator σ) : DatastoreIterator σ :=
  if iter.mState = .opened then
    let iter := { iter.PQclear iter.mResult with mResult := none }
    let iter :=
      if iter.mConnection.isSome then
        let iter := runClosing pq iter iter.mCloseCommand
        runClosing pq iter "END"
      else iter
    { iter with mState := .ready }
  else { iter with mState := .ready }

/-- Drop the held result and fetch the next rows. -/
def fetchMore (iter : DatastoreIterator σ) : DatastoreIterator σ :=
  let iter := { iter.PQclear iter.mResult with mResultOffset := 0 }
  let (result, iter) := PQexec pq iter iter.mFetchCommand
  { iter with mResult := result }

/-- The first statement of `next`: fetch unless the held result has a row left. -/
def refill (iter : DatastoreIterator σ) : DatastoreIterator σ :=
  let iter := iter.access iter.mResult none
  if iter.mResult = none ∨ iter.mResultOffset = iter.libpq.ntuples iter.mResult then
    fetchMore pq iter
  else iter

/-- The object `next` makes of the row at the offset: a NULL keeps the size zero and the null
pointer. -/
def rowObject (iter : DatastoreIterator σ) : DataObject :=
  match iter.mResult, iter.libpq.cell iter.mResult iter.mResultOffset with
  | some result, some value =>
    { sizeInBytes := value.length, thriftObject := some ⟨result, iter.mResultOffset⟩ }
  | _, _ => .new

/-- The error branch of `next`, before it closes. -/
def fetchFailed (iter : DatastoreIterator σ) : DatastoreIterator σ :=
  { iter with mError := "Error fetching results : " ++ errorMessage pq iter ++ " " }.setError

/-- The second statement of `next`: hand out the row at the offset, or close. -/
def handOut (iter : DatastoreIterator σ) : Option DataObject × DatastoreIterator σ :=
  let iter := iter.access iter.mResult none
  if iter.libpq.status iter.mResult ≠ .tuplesOk then
    (none, closeAndReset pq (fetchFailed pq iter))
  else
    let iter := iter.access iter.mResult none
    if iter.libpq.ntuples iter.mResult = 0 then (none, closeAndReset pq iter)
    else
      let iter := iter.access iter.mResult (some iter.mResultOffset)
      (some iter.rowObject, { iter with mResultOffset := iter.mResultOffset + 1 })

/-- `DatastoreIterator::next`: the object returned, none for a null pointer, and the iterator
afterwards. -/
def next (iter : DatastoreIterator σ) : Option DataObject × DatastoreIterator σ :=
  handOut pq (refill pq iter)

/-- `DatastoreIterator::executeQuery(query, topic, fetchSize)`. -/
def executeCommand (iter : DatastoreIterator σ) (query : String) (topic : Topic)
    (fetchSize : Nat) : DatastoreIterator σ :=
  let iter := { iter with mResultOffset := 0, mResult := none }
  let (result, iter) := PQexec pq iter "BEGIN"
  let iter := iter.access result none
  if iter.libpq.status result ≠ .commandOk then
    let iter := { iter with
      mError := "Error executing query for topic : " ++ topic.toChar ++
        " : BEGIN command failed " ++ errorMessage pq iter }
    (iter.PQclear result).setError
  else
    let iter := iter.PQclear result
    let iter := { iter with
      mState := .opened
      mFetchCommand := fetchCommand fetchSize topic iter.mThreadId
      mCloseCommand := closeCommand topic iter.mThreadId }
    let (result, iter) := PQexec pq iter query
    let iter := iter.access result none
    if iter.libpq.status result ≠ .commandOk then
      let iter := { iter with mError := "Error executing query " ++ query ++ " :  " }
      closeAndReset pq (iter.PQclear result).setError
    else iter

/-- The three overloads of `DatastoreIterator::executeQuery` that build the command. -/
def executeQuery (iter : DatastoreIterator σ) (query : Query) (fetchSize : Nat) :
    DatastoreIterator σ :=
  let iter := { iter with mQueryCommand := query.command iter.mThreadId }
  executeCommand pq iter iter.mQueryCommand query.topic fetchSize

/-- `DatastoreIterator::destroyConnection`. -/
def destroyConnection (iter : DatastoreIterator σ) : DatastoreIterator σ :=
  { iter with mConnection := none }

/-- `DatastoreIterator::createConnection`. -/
def createConnection (iter : DatastoreIterator σ) : DatastoreIterator σ :=
  if iter.isValid then iter
  else
    let iter := iter.destroyConnection
    let iter := { iter with mConnection := pq.connectdb iter.mConnectionString }
    if ¬iter.isValid ∨ ¬iter.isConnected pq then
      { iter.setError with
        mError := "Error connecting to PostgreSQL with connection string: " ++
          iter.mConnectionString ++ ": " ++ errorMessage pq iter ++ " " }
    else iter

/-- `DatastoreIterator::DatastoreIterator`, on a thread with the given id text. -/
def new (connectionString threadId : String) : DatastoreIterator σ :=
  let iter : DatastoreIterator σ :=
    { mReference := 0
      mCreator := none
      mError := ""
      mFetchCommand := ""
      mCloseCommand := ""
      mQueryCommand := ""
      mResult := none
      mState := .ready
      mConnection := none
      mThreadId := threadId
      mConnectionString := connectionString
      mResultOffset := 0
      mWasError := false
      libpq := .empty }
  let iter := createConnection pq iter
  resetError { iter with mState := .ready }

/-- `DatastoreIterator::~DatastoreIterator`. -/
def destroy (iter : DatastoreIterator σ) : DatastoreIterator σ :=
  (closeAndReset pq iter).destroyConnection

end DatastoreIterator

end ApiPack2
