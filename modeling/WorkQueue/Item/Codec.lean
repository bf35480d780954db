import WorkQueue.Document.Decode
import WorkQueue.Item
import WorkQueue.Time.DurationText

namespace WorkQueue

def Duration.decode : Document → Except DecodeError Duration
  | .string s =>
    match Duration.parse s with
    | .ok d => .ok d
    | .error .overrun => .error (.overrun s)
    | .error _ => .error (.invalidValue (.string s) "a duration")
  | d => .error (.invalidType d "a duration")

def Duration.document (d : Duration) : Document := .string d.text

def ItemId.decode (d : Document) : Except DecodeError ItemId := return ⟨← d.u64⟩

def ItemId.document (id : ItemId) : Document := .ofNat id.value.toNat

namespace Item

def shape : Shape Item where
  name := "struct Item"
  fields := [
    ⟨"id", true, fun d item => return { item with id := ← ItemId.decode d }⟩,
    ⟨"ready_delay", false, fun d item => return { item with readyDelay := ← Duration.decode d }⟩,
    ⟨"retry_attempts", true, fun d item => return { item with retryAttempts := ← d.u32 }⟩]
  initial := ⟨⟨0⟩, .zero, 0⟩

def decode (d : Document) : Except DecodeError Item := shape.decode d

def document (item : Item) : Document := .object [
  ("id", item.id.document),
  ("ready_delay", item.readyDelay.document),
  ("retry_attempts", .ofNat item.retryAttempts.toNat)]

end Item

namespace Failure

def shape : Shape Failure where
  name := "struct ItemWithError"
  fields := [
    ⟨"id", true, fun d row => return { row with id := ← ItemId.decode d }⟩,
    ⟨"error", true, fun d row => return { row with error := ← d.text }⟩]
  initial := ⟨⟨0⟩, ""⟩

def decode (d : Document) : Except DecodeError Failure := shape.decode d

def document (row : Failure) : Document := .object [
  ("error", .string row.error),
  ("id", row.id.document)]

end Failure

namespace Status

def ofVariant (name : String) : Except DecodeError Status :=
  match ofLabel? name with
  | some s => .ok s
  | none => .error (.unknownVariant name (all.map label))

/-- A label, or an object that maps the label to null. -/
def decode : Document → Except DecodeError Status
  | .string name => ofVariant name
  | .object [(name, d)] => do
    let status ← ofVariant name
    match d with
    | .null => .ok status
    | d => .error (.invalidType d "unit")
  | .object fields => .error (.invalidValue (.object fields) "map with a single key")
  | d => .error (.invalidType d "string or map")

def document (s : Status) : Document := .string s.label

end Status

end WorkQueue
