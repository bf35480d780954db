import WorkQueue.Sql.Adapter

namespace WorkQueue.Sql

/-- The replies in store: one for each statement, and failures of the transaction frame. -/
structure ReplyScript where
  replies : List (Except String Reply)
  beginError : Option String
  commitError : Option String
  rollbackError : Option String

structure Connection where
  adapter : Adapter
  script : ReplyScript
  sent : List Statement

namespace Connection

def start (a : Adapter) (script : ReplyScript) : Connection := ⟨a, script, []⟩

def record (c : Connection) (s : Statement) : Connection := { c with sent := s :: c.sent }

def serverError (text : String) : StoreError := .sql (.server text)

def beginning : Statement := .plain "BEGIN"

def committing : Statement := .plain "COMMIT"

def rollingBack : Statement := .plain "ROLLBACK"

/-- Sends a statement and takes the next reply; none left means no rows. -/
def send (c : Connection) (s : Statement) : Except SqlError Reply × Connection :=
  let c := c.record s
  match c.script.replies with
  | [] => (.ok .empty, c)
  | reply :: rest => (reply.mapError .server, { c with script.replies := rest })

def begin (c : Connection) : Except StoreError Unit × Connection :=
  let c := c.record beginning
  match c.script.beginError with
  | some text => (.error (serverError text), { c with script.beginError := none })
  | none => (.ok (), c)

def drop (c : Connection) : Connection := c.record rollingBack

/-- A transaction whose end fails is let go. -/
def commit (c : Connection) : Except StoreError Unit × Connection :=
  let c := c.record committing
  match c.script.commitError with
  | some text => (.error (serverError text), drop { c with script.commitError := none })
  | none => (.ok (), c)

def rollback (c : Connection) : Except StoreError Unit × Connection :=
  let c := c.record rollingBack
  match c.script.rollbackError with
  | some text => (.error (serverError text), drop { c with script.rollbackError := none })
  | none => (.ok (), c)

/-- A value that does not fit into its column is an error, and nothing is sent. -/
def perform (c : Connection) (call : StoreCall) : Except StoreError call.Answer × Connection :=
  match c.adapter.plan call with
  | .error e => (.error (.sql e), c)
  | .ok (.answer a) => (.ok a, c)
  | .ok (.send s read) =>
    let (reply, c) := c.send s
    ((reply.bind read).mapError .sql, c)

def answer {X : Effects} (app : (r : X.Request) → Connection → X.Answer r × Connection) :
    (r : QueueRequest X) → Connection → r.Answer × Connection
  | .begin, c => c.begin
  | .store call, c => c.perform call
  | .commit, c => c.commit
  | .rollback, c => c.rollback
  | .emit _, c => ((), c)
  | .note _, c => ((), c)
  | .app r, c => app r c

def sendAll : List Statement → Connection → Except SqlError Unit × Connection
  | [], c => (.ok (), c)
  | s :: rest, c =>
    match c.send s with
    | (.ok _, c) => sendAll rest c
    | (.error e, c) => (.error e, c)

def installSchema (c : Connection) : Except StoreError Unit × Connection :=
  match c.begin with
  | (.error e, c) => (.error e, c)
  | (.ok (), c) =>
    match c.sendAll c.adapter.tables.schema with
    | (.ok (), c) => c.commit
    | (.error e, c) => (.error (.sql e), c.drop)

def dropSchema (c : Connection) : Except StoreError Unit × Connection :=
  let (result, c) := c.sendAll c.adapter.tables.dropSchema
  (result.mapError .sql, c)

end Connection

end WorkQueue.Sql
