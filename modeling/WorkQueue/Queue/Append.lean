import WorkQueue.Queue.Storage

namespace WorkQueue.Queue

open Operation

variable {X : Effects}

def insertSubject : List Item → Subject
  | [item] => .item item.id
  | _ => .table

def insert (items : List Item) : Operation X Unit :=
  inUnit (store (insertSubject items) (.insert items))

def append (item : Item) : Operation X Unit := do
  check item.validate
  insert [item]
  emit .append (.id item.id)

def firstInvalid (items : List Item) : Option (Nat × Item × InputFault) :=
  (items.zipIdx.filterMap fun (item, index) =>
    match item.validate with
    | .ok () => none
    | .error fault => some (index, item, fault)).head?

/-- An empty batch touches no storage and is no event. -/
def appends (items : List Item) : Operation X Unit := do
  if items.isEmpty then
    note .nothingToAppend
  else
    match firstInvalid items with
    | some (index, item, fault) => throw (.invalidBatchItem index item.id fault)
    | none =>
      insert items
      emit .appends (.ids (items.map (·.id)))

end WorkQueue.Queue
