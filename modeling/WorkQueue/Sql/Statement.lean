import WorkQueue.Sql.Identifier
import WorkQueue.Time.Duration

namespace WorkQueue.Sql

inductive Parameter
  | integer (n : Int)
  | integers (l : List Int)
  | texts (l : List String)
  | double (bits : UInt64)
  | doubles (l : List UInt64)
deriving DecidableEq

structure Statement where
  text : String
  parameters : List Parameter
deriving DecidableEq

/-- The length in seconds: whole seconds plus the fraction, each rounded to double precision. -/
def secondsBits (d : Duration) : UInt64 :=
  (Float.ofNat d.wholeSeconds + Float.ofNat d.subsecNanos / 1e9).toBits

namespace Statement

def plain (text : String) : Statement := ⟨text, []⟩

/-- The rows of a table that a batch takes: those where `condition` holds, oldest first, skipping
rows that another unit of work has locked. `place` is the place of the limit. -/
def oldestRows (t : TableInfo) (condition place : String) : String :=
  s!"SELECT {t.key} AS item_id FROM {t.name} WHERE {condition} " ++
  s!"ORDER BY updated_at ASC, {t.key} ASC LIMIT {place} FOR UPDATE SKIP LOCKED"

def updateBatch (t : TableInfo) (batch rows status : String) : String :=
  s!"WITH {batch} AS ( {rows} ) UPDATE {t.name} AS q SET item_status = {status}, " ++
  s!"updated_at = NOW() FROM {batch} WHERE q.{t.key} = {batch}.item_id RETURNING {batch}.item_id"

def deleteBatch (t : TableInfo) (batch rows name : String) : String :=
  s!"WITH {batch} AS ( {rows} ) DELETE FROM {t.name} AS {name} USING {batch} " ++
  s!"WHERE {name}.{t.key} = {batch}.item_id RETURNING {batch}.item_id"

def insertItems (t : TableInfo) (ids attempts : List Int) (delays : List UInt64) : Statement where
  text := s!"INSERT INTO {t.name} ({t.key}, remaining_attempts, item_status, updated_at) " ++
    "SELECT src.id, src.attempts, $4, NOW() + make_interval(secs => src.delay) " ++
    "FROM UNNEST($1::BIGINT[], $2::INTEGER[], $3::DOUBLE PRECISION[]) " ++
    "AS src(id, attempts, delay)"
  parameters := [.integers ids, .integers attempts, .doubles delays, .integer Status.ready.code]

def claim (t : TableInfo) (limit : UInt32) : Statement where
  text := updateBatch t "ready" (oldestRows t "item_status = $1 AND updated_at <= NOW()" "$3") "$2"
  parameters := [.integer Status.ready.code, .integer Status.processing.code, .integer limit.toNat]

def release (t : TableInfo) (ids : List Int) : Statement where
  text := s!"UPDATE {t.name} SET item_status = $3, updated_at = NOW() " ++
    s!"WHERE {t.key} = ANY($1) AND item_status = $2"
  parameters := [.integers ids, .integer Status.processing.code, .integer Status.ready.code]

def delete (t : TableInfo) (id : Int) (status : Status) : Statement where
  text := s!"DELETE FROM {t.name} WHERE {t.key} = $1 AND item_status = $2"
  parameters := [.integer id, .integer status.code]

def demote (t : TableInfo) (id : Int) : Statement where
  text := s!"UPDATE {t.name} SET item_status = $3, " ++
    "remaining_attempts = GREATEST(remaining_attempts - 1, 0), updated_at = NOW() " ++
    s!"WHERE {t.key} = $1 AND item_status = $2"
  parameters := [.integer id, .integer Status.processing.code, .integer Status.retry.code]

def recover (t : TableInfo) (timeout : Duration) (limit : UInt32) : Statement where
  text := updateBatch t "stuck" (oldestRows t
    "item_status = $1 AND updated_at < NOW() - make_interval(secs => $2)" "$4") "$3"
  parameters := [.integer Status.processing.code, .double (secondsBits timeout),
    .integer Status.retry.code, .integer limit.toNat]

def requeue (t : TableInfo) (delay : Duration) (limit : UInt32) : Statement where
  text := updateBatch t "due" (oldestRows t
    ("item_status = $1 AND updated_at <= NOW() - make_interval(secs => $2) " ++
      "AND remaining_attempts > 0") "$4") "$3"
  parameters := [.integer Status.retry.code, .double (secondsBits delay),
    .integer Status.ready.code, .integer limit.toNat]

def discard (t : TableInfo) (limit : UInt32) : Statement where
  text := deleteBatch t "exhausted"
    (oldestRows t "item_status = $1 AND remaining_attempts = 0" "$2") "q"
  parameters := [.integer Status.retry.code, .integer limit.toNat]

def complete (t : TableInfo) (id : Int) : Statement where
  text := s!"INSERT INTO {t.name} ({t.key}, updated_at) VALUES ($1, NOW())"
  parameters := [.integer id]

def expireCompleted (t : TableInfo) (expiry : Duration) (limit : UInt32) : Statement where
  text := deleteBatch t "expired"
    (oldestRows t "updated_at <= NOW() - make_interval(secs => $1)" "$2") "c"
  parameters := [.double (secondsBits expiry), .integer limit.toNat]

def recordFailures (t : TableInfo) (ids : List Int) (errors : List String) : Statement where
  text := s!"INSERT INTO {t.name} ({t.key}, error_message, created_at) " ++
    "SELECT src.id, src.message, NOW() " ++
    "FROM UNNEST($1::BIGINT[], $2::TEXT[]) AS src(id, message)"
  parameters := [.integers ids, .texts errors]

def expireBroken (t : TableInfo) (expiry : Duration) (limit : UInt32) : Statement where
  text := s!"WITH expired AS ( SELECT {t.key} AS item_id FROM {t.name} GROUP BY {t.key} " ++
    "HAVING MAX(created_at) <= NOW() - make_interval(secs => $1) " ++
    s!"ORDER BY MAX(created_at) ASC, {t.key} ASC LIMIT $2 ), " ++
    s!"deleted AS ( DELETE FROM {t.name} AS b USING expired WHERE b.{t.key} = expired.item_id " ++
    s!"RETURNING b.{t.key} AS item_id ) SELECT DISTINCT item_id FROM deleted"
  parameters := [.double (secondsBits expiry), .integer limit.toNat]

def purge (t : TableInfo) (ids : List Int) : Statement where
  text := s!"DELETE FROM {t.name} WHERE {t.key} = ANY($1)"
  parameters := [.integers ids]

end Statement

namespace QueueTables

def itemsIndex (t : QueueTables) : String := t.items.indexName "status_updated_idx"

def completedIndex (t : QueueTables) : String := t.completed.indexName "updated_idx"

def brokenIndex (t : QueueTables) : String := t.broken.indexName "item_created_idx"

def schema (t : QueueTables) : List Statement := List.map Statement.plain [
  s!"CREATE TABLE IF NOT EXISTS {t.items.name} ( {t.items.key} BIGINT PRIMARY KEY, " ++
    "remaining_attempts INTEGER NOT NULL CHECK (remaining_attempts >= 0), " ++
    "item_status SMALLINT NOT NULL, updated_at TIMESTAMPTZ NOT NULL DEFAULT NOW() )",
  s!"CREATE INDEX IF NOT EXISTS {t.itemsIndex} ON {t.items.name} (item_status, updated_at)",
  s!"CREATE TABLE IF NOT EXISTS {t.completed.name} ( {t.completed.key} BIGINT PRIMARY KEY, " ++
    "updated_at TIMESTAMPTZ NOT NULL DEFAULT NOW() )",
  s!"CREATE INDEX IF NOT EXISTS {t.completedIndex} ON {t.completed.name} (updated_at)",
  s!"CREATE TABLE IF NOT EXISTS {t.broken.name} ( {t.broken.key} BIGINT NOT NULL, " ++
    "error_message TEXT NOT NULL, created_at TIMESTAMPTZ NOT NULL DEFAULT NOW() )",
  s!"CREATE INDEX IF NOT EXISTS {t.brokenIndex} ON {t.broken.name} ({t.broken.key}, created_at)"]

def dropSchema (t : QueueTables) : List Statement :=
  [t.items, t.completed, t.broken].map fun table =>
    .plain s!"DROP TABLE IF EXISTS {table.name}"

end QueueTables

end WorkQueue.Sql
