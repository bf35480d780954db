import WorkQueue.Proofs.Grammar

/-!
What the indexes of a queue's tables are called. A name is checked for a table, but the name of an
index is longer, so it need not pass the same check, and it can be the name of another index or of a
table. The server creates no index whose name it keeps already.
-/

namespace WorkQueue.Sql

structure Relation where
  schema : String
  name : String
deriving DecidableEq

def recase (g : Char → Char) (name : String) : String := String.ofList (name.toList.map g)

/-- A name as the server keeps it: in lower case, and cut after 63 bytes. -/
def kept (name : String) : String := String.ofList ((name.toList.map Char.toLower).take 63)

/-- The schema that a name is in. A name that tells none is in the current one. -/
def schemaOf (view : String → String) (current name : String) : String :=
  match (segments name.toList).dropLast with
  | [schema] => view (String.ofList schema)
  | _ => current

namespace TableInfo

variable (view : String → String) (current : String)

def schema (t : TableInfo) : String := schemaOf view current t.name

def named (t : TableInfo) (ending : String) : Relation :=
  ⟨t.schema view current, view (t.base ++ ending)⟩

end TableInfo

namespace QueueTables

variable (view : String → String) (current : String)

def relations (t : QueueTables) : List Relation :=
  [t.items, t.completed, t.broken].map fun table => ⟨table.schema view current, view table.base⟩

def indexes (t : QueueTables) : List Relation := [
  ⟨t.items.schema view current, view t.itemsIndex⟩,
  ⟨t.completed.schema view current, view t.completedIndex⟩,
  ⟨t.broken.schema view current, view t.brokenIndex⟩]

def Apart (t : QueueTables) : Prop :=
  (t.indexes view current).Nodup ∧ ∀ i ∈ t.indexes view current, i ∉ t.relations view current

/-- A table is called like the index of another one, or what is completed like the items with
`_status`. -/
def Clash (t : QueueTables) : Prop :=
  t.completed.named view current "" = t.items.named view current "_status" ∨
  t.completed.named view current "" = t.items.named view current "_status_updated_idx" ∨
  t.broken.named view current "" = t.items.named view current "_status_updated_idx" ∨
  t.items.named view current "" = t.completed.named view current "_updated_idx" ∨
  t.broken.named view current "" = t.completed.named view current "_updated_idx" ∨
  t.items.named view current "" = t.broken.named view current "_item_created_idx" ∨
  t.completed.named view current "" = t.broken.named view current "_item_created_idx"

end QueueTables

section Length

variable {cs ending : List Char}

theorem Identifier.length_le (h : Identifier cs) : cs.length ≤ 63 := by
  obtain ⟨-, -, short⟩ := h
  exact Nat.succ_le_succ short

theorem identifier_append_iff (h : Identifier cs) (hending : ∀ c ∈ ending, IsWordChar c) :
    Identifier (cs ++ ending) ↔ cs.length + ending.length ≤ 63 := by
  obtain @⟨c, rest, first, others, -⟩ := h
  rw [List.cons_append, identifier_cons_iff, List.length_append, List.length_cons]
  constructor
  · rintro ⟨-, -, short⟩
    omega
  · intro hlength
    exact ⟨first, List.forall_mem_append.2 ⟨others, hending⟩, by omega⟩

end Length

theorem TableInfo.isIdentifier_indexName (t : TableInfo) {ending : String}
    (hending : ∀ c ∈ ending.toList, IsWordChar c) :
    isIdentifier (t.indexName ending).toList = true ↔ t.base.length + 1 + ending.length ≤ 63 := by
  have hall : ∀ c ∈ '_' :: ending.toList, IsWordChar c :=
    List.forall_mem_cons.2 ⟨.inr (.inr rfl), hending⟩
  have hlist : (t.indexName ending).toList = t.base.toList ++ '_' :: ending.toList := by
    simp [t.indexName_eq]
  rw [isIdentifier_iff, hlist, identifier_append_iff t.identifier_base hall, List.length_cons,
    String.length_toList, String.length_toList]
  omega

def IsLower (ending : String) : Prop := ∀ c ∈ ending.toList, c = '_' ∨ 'a' ≤ c ∧ c ≤ 'z'

theorem isLower_empty : IsLower "" := by simp [IsLower]

def KeepsLower (g : Char → Char) : Prop := ∀ c, c = '_' ∨ 'a' ≤ c ∧ c ≤ 'z' → g c = c

theorem keepsLower_id : KeepsLower id := fun _ _ => rfl

theorem keepsLower_toLower : KeepsLower Char.toLower := by
  intro c hc
  rw [Char.toLower, dif_neg]
  simp only [Char.le_def, UInt32.le_iff_toNat_le, ge_iff_le] at hc ⊢
  rintro ⟨-, hupper⟩
  rcases hc with rfl | ⟨hlower, -⟩
  · exact absurd hupper (by decide)
  · exact absurd (hlower.trans hupper) (by decide)

section Recase

variable {g : Char → Char}

theorem recase_id : recase id = id := by
  funext s
  simp [recase]

theorem recase_append (g : Char → Char) (s s' : String) :
    recase g (s ++ s') = recase g s ++ recase g s' := by
  simp [recase]

theorem KeepsLower.recase (hg : KeepsLower g) {ending : String}
    (h : IsLower ending) : Sql.recase g ending = ending := by
  rw [Sql.recase, List.map_congr_left fun c hc => hg c (h c hc), List.map_id', String.ofList_toList]

theorem append_ne {s s' ending ending' : String} (hlength : ending.length = ending'.length)
    (hne : ending ≠ ending') : s ++ ending ≠ s' ++ ending' := by
  intro h
  have hlist := congrArg String.toList h
  rw [String.toList_append, String.toList_append] at hlist
  rw [← String.length_toList, ← String.length_toList] at hlength
  exact hne (String.toList_injective (List.append_inj_right' hlist hlength))

theorem append_ne_self {s ending : String} (h : ending ≠ "") : s ++ ending ≠ s := by
  intro hsame
  have hlist := congrArg String.toList hsame
  rw [String.toList_append, List.append_right_eq_self] at hlist
  exact h (String.toList_injective hlist)

end Recase

section Named

variable {g : Char → Char} (hg : KeepsLower g) {current : String} {t u : TableInfo}
include hg

theorem named_eq_iff {ending ending' : String}
    (h : IsLower ending)
    (h' : IsLower ending') :
    t.named (recase g) current ending = u.named (recase g) current ending' ↔
      t.schema (recase g) current = u.schema (recase g) current ∧
        recase g t.base ++ ending = recase g u.base ++ ending' := by
  simp only [TableInfo.named, Relation.mk.injEq, recase_append, hg.recase h, hg.recase h']

theorem named_ne_self {ending : String} (hne : ending ≠ "")
    (h : IsLower ending) :
    t.named (recase g) current "" ≠ t.named (recase g) current ending := by
  rw [Ne, named_eq_iff hg isLower_empty h, String.append_empty]
  rintro ⟨-, hsame⟩
  exact append_ne_self hne hsame.symm

theorem named_ne (ending ending' last last' : String) (hlength : last.length = last'.length)
    (hne : last ≠ last')
    (h : IsLower (ending ++ last))
    (h' : IsLower (ending' ++ last')) :
    t.named (recase g) current (ending ++ last) ≠
      u.named (recase g) current (ending' ++ last') := by
  rw [Ne, named_eq_iff hg h h', ← String.append_assoc, ← String.append_assoc]
  rintro ⟨-, hsame⟩
  exact append_ne hlength hne hsame

end Named

section Names

variable (view : String → String) (current : String) (t : QueueTables)

theorem QueueTables.relations_eq : t.relations view current = [t.items.named view current "",
    t.completed.named view current "", t.broken.named view current ""] := by
  simp [relations, TableInfo.named]

theorem QueueTables.indexes_eq : t.indexes view current =
    [t.items.named view current "_status_updated_idx",
      t.completed.named view current "_updated_idx",
      t.broken.named view current "_item_created_idx"] := by
  simp [indexes, TableInfo.named, itemsIndex, completedIndex, brokenIndex, TableInfo.indexName_eq,
    String.append_assoc]

end Names

theorem QueueTables.apart_iff_not_clash {g : Char → Char} (hg : KeepsLower g) (current : String)
    (t : QueueTables) : t.Apart (recase g) current ↔ ¬t.Clash (recase g) current := by
  have hstatusUpdated : IsLower "_status_updated_idx" := by simp [IsLower]
  have hupdated : IsLower "_updated_idx" := by simp [IsLower]
  have hcreated : IsLower "_item_created_idx" := by simp [IsLower]
  have hitems : t.items.named (recase g) current "" ≠
      t.items.named (recase g) current "_status_updated_idx" :=
    named_ne_self hg (by decide) hstatusUpdated
  have hcompleted : t.completed.named (recase g) current "" ≠
      t.completed.named (recase g) current "_updated_idx" :=
    named_ne_self hg (by decide) hupdated
  have hbroken : t.broken.named (recase g) current "" ≠
      t.broken.named (recase g) current "_item_created_idx" :=
    named_ne_self hg (by decide) hcreated
  have hfirst : t.items.named (recase g) current "_status_updated_idx" =
      t.completed.named (recase g) current "_updated_idx" ↔
      t.completed.named (recase g) current "" = t.items.named (recase g) current "_status" := by
    have hsplit : "_status_updated_idx" = "_status" ++ "_updated_idx" := by decide
    rw [named_eq_iff hg hstatusUpdated hupdated, named_eq_iff hg isLower_empty (by simp [IsLower]),
      String.append_empty, hsplit, ← String.append_assoc, String.append_left_inj]
    exact and_congr eq_comm eq_comm
  have hsecond : t.items.named (recase g) current "_status_updated_idx" ≠
      t.broken.named (recase g) current "_item_created_idx" :=
    named_ne hg "_status" "_item" "_updated_idx" "_created_idx" (by decide) (by decide)
      hstatusUpdated hcreated
  have hthird : t.completed.named (recase g) current "_updated_idx" ≠
      t.broken.named (recase g) current "_item_created_idx" :=
    named_ne hg "" "_item" "_updated_idx" "_created_idx" (by decide) (by decide) hupdated hcreated
  rw [Apart, Clash, t.indexes_eq, t.relations_eq]
  generalize t.items.named (recase g) current "" = itemsTable at *
  generalize t.completed.named (recase g) current "" = completedTable at *
  generalize t.broken.named (recase g) current "" = brokenTable at *
  generalize t.items.named (recase g) current "_status_updated_idx" = itemsIndex at *
  generalize t.completed.named (recase g) current "_updated_idx" = completedIndex at *
  generalize t.broken.named (recase g) current "_item_created_idx" = brokenIndex at *
  simp only [List.nodup_cons, List.nodup_nil, List.mem_cons, List.not_mem_nil, forall_eq_or_imp,
    forall_eq, or_false, not_or, hfirst]
  tauto

section Kept

variable (current : String)

theorem kept_of_length_le {s : String} (h : s.length ≤ 63) : kept s = recase Char.toLower s := by
  rw [kept, recase, List.take_of_length_le]
  rwa [List.length_map, String.length_toList]

theorem TableName.dropLast_segments {cs : List Char} (h : TableName cs) :
    (segments cs).dropLast = [] ∨
      ∃ schema, (segments cs).dropLast = [schema] ∧ Identifier schema := by
  obtain h | ⟨hschema, h⟩ := h
  · exact .inl (by rw [segments_of_plain h]; rfl)
  · exact .inr ⟨_, by rw [segments_of_qualified hschema h]; rfl, hschema⟩

theorem TableInfo.schema_kept (t : TableInfo) :
    t.schema kept current = t.schema (recase Char.toLower) current := by
  unfold schema schemaOf
  rcases t.tableName_name.dropLast_segments with h | ⟨schema, h, hschema⟩
  · rw [h]
  · rw [h]
    exact kept_of_length_le (by simpa using hschema.length_le)

theorem TableInfo.named_kept (t : TableInfo) {ending : String}
    (h : (t.base ++ ending).length ≤ 63) :
    t.named kept current ending = t.named (recase Char.toLower) current ending := by
  rw [named, named, t.schema_kept, kept_of_length_le h]

end Kept

section Prefixed

theorem segments_append {ending : List Char} (h : '.' ∉ ending) (cs : List Char) :
    segments (cs ++ ending) =
      (segments cs).dropLast ++ [(segments cs).getLastD [] ++ ending] := by
  induction cs with
  | nil =>
    have hdot : ∀ l ∈ [ending], '.' ∉ l := by simpa using h
    have hjoin := List.splitOn_intercalate '.' hdot (List.cons_ne_nil _ _)
    rwa [List.intercalate_singleton, ← segments_eq_splitOn] at hjoin
  | cons c rest ih =>
    obtain ⟨part, parts, hparts⟩ := List.exists_cons_of_ne_nil (segments_ne_nil rest)
    rw [List.cons_append, segments, segments, ih, hparts]
    split
    · rfl
    · cases parts <;> rfl

variable {start : String} {t : QueueTables}

theorem unqualified_append {ending : String} (h : '.' ∉ ending.toList) :
    unqualified (start ++ ending) = unqualified start ++ ending := by
  rw [unqualified, String.toList_append, segments_append h]
  simp [unqualified]

theorem schemaOf_append {ending : String} (h : '.' ∉ ending.toList) (view : String → String)
    (current : String) : schemaOf view current (start ++ ending) = schemaOf view current start := by
  rw [schemaOf, String.toList_append, segments_append h, List.dropLast_concat, schemaOf]

theorem QueueTables.names_of_withPrefix (h : withPrefix start = .ok t) :
    t.items.name = start ++ "_items" ∧ t.completed.name = start ++ "_completed" ∧
      t.broken.name = start ++ "_broken" := by
  unfold withPrefix at h
  cases hitems : TableInfo.new (start ++ "_items") defaultKey with
  | error e => rw [hitems] at h; cases h
  | ok items =>
    cases hcompleted : TableInfo.new (start ++ "_completed") defaultKey with
    | error e => rw [hitems, hcompleted] at h; cases h
    | ok completed =>
      cases hbroken : TableInfo.new (start ++ "_broken") defaultKey with
      | error e => rw [hitems, hcompleted, hbroken] at h; cases h
      | ok broken =>
        rw [hitems, hcompleted, hbroken] at h
        cases h
        exact ⟨(TableInfo.new_eq_ok_iff.1 hitems).2.2.1,
          (TableInfo.new_eq_ok_iff.1 hcompleted).2.2.1, (TableInfo.new_eq_ok_iff.1 hbroken).2.2.1⟩

def prefixed (view : String → String) (current start ending : String) : Relation :=
  ⟨schemaOf view current start, view (unqualified start ++ ending)⟩

theorem TableInfo.named_eq_prefixed {table : TableInfo} {own : String}
    (hname : table.name = start ++ own) (hdot : '.' ∉ own.toList) (view : String → String)
    (current ending : String) :
    table.named view current ending = prefixed view current start (own ++ ending) := by
  rw [named, schema, base, hname, schemaOf_append hdot, unqualified_append hdot,
    String.append_assoc, prefixed]

def tableEndings : List String := ["_items", "_completed", "_broken"]

def indexEndings : List String :=
  ["_items_status_updated_idx", "_completed_updated_idx", "_broken_item_created_idx"]

theorem QueueTables.relations_of_withPrefix (h : withPrefix start = .ok t) (view : String → String)
    (current : String) :
    t.relations view current = tableEndings.map (prefixed view current start) ∧
      t.indexes view current = indexEndings.map (prefixed view current start) := by
  obtain ⟨hitems, hcompleted, hbroken⟩ := names_of_withPrefix h
  rw [relations_eq, indexes_eq]
  simp only [TableInfo.named_eq_prefixed hitems (by simp), TableInfo.named_eq_prefixed hcompleted
    (by simp), TableInfo.named_eq_prefixed hbroken (by simp)]
  exact ⟨rfl, rfl⟩

theorem prefixed_recase {g : Char → Char} (hg : KeepsLower g) (current : String) {ending : String}
    (h : IsLower ending) :
    prefixed (recase g) current start ending = ⟨schemaOf (recase g) current start,
      recase g (unqualified start) ++ String.ofList ending.toList⟩ := by
  rw [prefixed, recase_append, hg.recase h, String.ofList_toList]

theorem prefixed_kept {m : Nat} (hm : (unqualified start).length + m = 63) (current : String)
    {ending : String} (h : IsLower ending) :
    prefixed kept current start ending = ⟨schemaOf kept current start,
      recase Char.toLower (unqualified start) ++ String.ofList (ending.toList.take m)⟩ := by
  have hlower : ending.toList.map Char.toLower = ending.toList := by
    rw [List.map_congr_left fun c hc => keepsLower_toLower c (h c hc), List.map_id']
  have hlength : ((unqualified start).toList.map Char.toLower).length = 63 - m := by
    rw [List.length_map, String.length_toList]
    omega
  rw [prefixed, kept, recase, String.toList_append, List.map_append, hlower, List.take_append,
    hlength, List.take_of_length_le (by omega), Nat.sub_sub_self (by omega), String.ofList_append]

theorem QueueTables.apart_of_withPrefix (h : withPrefix start = .ok t) {view : String → String}
    {current schema common : String} {rest : String → List Char}
    (hview : ∀ e ∈ tableEndings ++ indexEndings,
      prefixed view current start e = ⟨schema, common ++ String.ofList (rest e)⟩) :
    t.Apart view current ↔ (indexEndings.map rest).Nodup ∧
      ∀ l ∈ indexEndings.map rest, l ∉ tableEndings.map rest := by
  let joined (l : List Char) : Relation := ⟨schema, common ++ String.ofList l⟩
  have hinjective : Function.Injective joined := by
    intro l l' heq
    exact String.ofList_inj.1 ((String.append_right_inj _).1 (congrArg Relation.name heq))
  obtain ⟨hrelations, hindexes⟩ := relations_of_withPrefix h view current
  have htables : t.relations view current = (tableEndings.map rest).map joined := by
    rw [hrelations, List.map_map]
    exact List.map_congr_left fun e he => hview e (List.mem_append_left _ he)
  have hnames : t.indexes view current = (indexEndings.map rest).map joined := by
    rw [hindexes, List.map_map]
    exact List.map_congr_left fun e he => hview e (List.mem_append_right _ he)
  rw [Apart, htables, hnames, List.nodup_map_iff hinjective, List.forall_mem_map]
  simp only [List.mem_map_of_injective hinjective]

theorem lower_endings : ∀ e ∈ tableEndings ++ indexEndings, IsLower e := by
  simp [tableEndings, indexEndings, IsLower]

theorem QueueTables.apart_recase_of_withPrefix (h : withPrefix start = .ok t) {g : Char → Char}
    (hg : KeepsLower g) (current : String) : t.Apart (recase g) current := by
  rw [apart_of_withPrefix h fun e he => prefixed_recase hg current (lower_endings e he)]
  simp [tableEndings, indexEndings]

theorem QueueTables.apart_kept_of_withPrefix (h : withPrefix start = .ok t) (current : String) :
    t.Apart kept current ↔ (unqualified start).length ≤ 52 := by
  have hlength : (unqualified start).length ≤ 53 := by
    have hbase := t.completed.identifier_base.length_le
    rw [TableInfo.base, (names_of_withPrefix h).2.1, unqualified_append (by simp),
      String.length_toList, String.length_append] at hbase
    exact Nat.le_of_add_le_add_right hbase
  obtain ⟨k, hk⟩ := Nat.exists_eq_add_of_le hlength
  rw [apart_of_withPrefix h fun e he =>
    prefixed_kept (m := k + 10) (by omega) current (lower_endings e he)]
  simp [tableEndings, indexEndings]
  omega

theorem QueueTables.length_base_of_withPrefix (h : withPrefix start = .ok t) :
    t.items.base.length = (unqualified start).length + 6 ∧
      t.completed.base.length = (unqualified start).length + 10 ∧
      t.broken.base.length = (unqualified start).length + 7 := by
  obtain ⟨hitems, hcompleted, hbroken⟩ := names_of_withPrefix h
  have hlength (ending : String) (hdot : '.' ∉ ending.toList) :
      (unqualified (start ++ ending)).length = (unqualified start).length + ending.length := by
    rw [unqualified_append hdot, String.length_append]
  rw [TableInfo.base, TableInfo.base, TableInfo.base, hitems, hcompleted, hbroken]
  exact ⟨hlength "_items" (by simp), hlength "_completed" (by simp), hlength "_broken" (by simp)⟩

end Prefixed

namespace QueueTables

section Valid

variable (t : QueueTables)

theorem isIdentifier_itemsIndex :
    isIdentifier t.itemsIndex.toList = true ↔ t.items.base.length ≤ 44 := by
  have hlength : "status_updated_idx".length = 18 := by decide
  rw [itemsIndex, t.items.isIdentifier_indexName (by simp [IsWordChar, IsLetter]), hlength]
  omega

theorem isIdentifier_completedIndex :
    isIdentifier t.completedIndex.toList = true ↔ t.completed.base.length ≤ 51 := by
  have hlength : "updated_idx".length = 11 := by decide
  rw [completedIndex, t.completed.isIdentifier_indexName (by simp [IsWordChar, IsLetter]), hlength]
  omega

theorem isIdentifier_brokenIndex :
    isIdentifier t.brokenIndex.toList = true ↔ t.broken.base.length ≤ 46 := by
  have hlength : "item_created_idx".length = 16 := by decide
  rw [brokenIndex, t.broken.isIdentifier_indexName (by simp [IsWordChar, IsLetter]), hlength]
  omega

end Valid

variable {t : QueueTables} (current : String)

theorem apart_kept_iff (hitems : t.items.base.length ≤ 44)
    (hcompleted : t.completed.base.length ≤ 51) (hbroken : t.broken.base.length ≤ 46) :
    t.Apart kept current ↔ t.Apart (recase Char.toLower) current := by
  have hsame (table : TableInfo) (ending : String) (h : table.base.length + ending.length ≤ 63) :
      table.named kept current ending = table.named (recase Char.toLower) current ending :=
    table.named_kept current (by rwa [String.length_append])
  have hempty : "".length = 0 := rfl
  have hfirst : "_status_updated_idx".length = 19 := by decide
  have hsecond : "_updated_idx".length = 12 := by decide
  have hthird : "_item_created_idx".length = 17 := by decide
  rw [Apart, Apart, relations_eq, relations_eq, indexes_eq, indexes_eq]
  rw [hsame t.items "" (by omega), hsame t.completed "" (by omega), hsame t.broken "" (by omega),
    hsame t.items "_status_updated_idx" (by omega), hsame t.completed "_updated_idx" (by omega),
    hsame t.broken "_item_created_idx" (by omega)]

/-- What the indexes are called. Their names are valid exactly up to a length of the tables' names,
and distinct exactly if no table is called like an index, or what is completed like the items with
`_status`. If they are valid, the server tells them apart in the same cases, up to letter case. With
tables of a common prefix all names are distinct, those of the indexes are valid for a prefix of at
most 38 bytes without its schema, and the server creates all indexes for one of at most 52. -/
theorem index_names_apart_iff (t : QueueTables) (current : String) :
    ((isIdentifier t.itemsIndex.toList = true ↔ t.items.base.length ≤ 44) ∧
      (isIdentifier t.completedIndex.toList = true ↔ t.completed.base.length ≤ 51) ∧
      (isIdentifier t.brokenIndex.toList = true ↔ t.broken.base.length ≤ 46)) ∧
    (t.Apart id current ↔ ¬t.Clash id current) ∧
    (t.items.base.length ≤ 44 → t.completed.base.length ≤ 51 → t.broken.base.length ≤ 46 →
      (t.Apart kept current ↔ ¬t.Clash (recase Char.toLower) current)) ∧
    ∀ start, withPrefix start = .ok t → t.Apart id current ∧
      ((isIdentifier t.itemsIndex.toList = true ∧ isIdentifier t.completedIndex.toList = true ∧
        isIdentifier t.brokenIndex.toList = true) ↔ (unqualified start).length ≤ 38) ∧
      (t.Apart kept current ↔ (unqualified start).length ≤ 52) := by
  refine ⟨⟨t.isIdentifier_itemsIndex, t.isIdentifier_completedIndex, t.isIdentifier_brokenIndex⟩,
    ?_, fun hitems hcompleted hbroken => ?_,
    fun start h => ⟨?_, ?_, apart_kept_of_withPrefix h current⟩⟩
  · rw [← recase_id]
    exact apart_iff_not_clash keepsLower_id current t
  · rw [apart_kept_iff current hitems hcompleted hbroken]
    exact apart_iff_not_clash keepsLower_toLower current t
  · rw [← recase_id]
    exact apart_recase_of_withPrefix h keepsLower_id current
  · obtain ⟨hitems, hcompleted, hbroken⟩ := length_base_of_withPrefix h
    rw [t.isIdentifier_itemsIndex, t.isIdentifier_completedIndex, t.isIdentifier_brokenIndex]
    omega

theorem exists_withPrefix {start : String} (h : Identifier start.toList)
    (hlength : start.length ≤ 53) : ∃ t, withPrefix start = .ok t := by
  have hname (ending : String) (hending : ∀ c ∈ ending.toList, IsWordChar c)
      (hshort : ending.length ≤ 10) : isTableName (start ++ ending).toList = true := by
    refine isTableName_iff.2 (.plain ?_)
    rw [String.toList_append, identifier_append_iff h hending, String.length_toList,
      String.length_toList]
    omega
  have hkey : isIdentifier defaultKey.toList = true := by decide
  have hitems := hname "_items" (by simp [IsWordChar, IsLetter]) (by decide)
  have hcompleted := hname "_completed" (by simp [IsWordChar, IsLetter]) (by decide)
  have hbroken := hname "_broken" (by simp [IsWordChar, IsLetter]) (by decide)
  unfold withPrefix TableInfo.new
  rw [dif_pos hitems, dif_pos hkey, dif_pos hcompleted, dif_pos hbroken, dif_pos hkey, dif_pos hkey]
  exact ⟨_, rfl⟩

/-- Of a prefix of 53 bytes the index on what is completed has a name that is too long, and the
server keeps nothing of it but the name of the table. Two indexes share a name if the table of what
is completed is called like the items with `_status`. -/
theorem index_names_shared :
    (∃ t, withPrefix (String.ofList (List.replicate 53 'p')) = .ok t ∧
      isIdentifier t.completedIndex.toList = false ∧ ¬t.Apart kept "public") ∧
    ∃ t : QueueTables, t.items.name = "a" ∧ t.completed.name = "a_status" ∧ t.broken.name = "b" ∧
      t.itemsIndex = t.completedIndex ∧ ¬t.Apart id "public" := by
  constructor
  · have hletter : ∀ d ∈ List.replicate 52 'p', IsWordChar d := fun d hd =>
      List.eq_of_mem_replicate hd ▸ .inl (.inl (by decide))
    have hidentifier : Identifier (String.ofList (List.replicate 53 'p')).toList := by
      rw [String.toList_ofList]
      exact .mk (.inl (.inl (by decide))) hletter (by rw [List.length_replicate]; decide)
    have hlength : (String.ofList (List.replicate 53 'p')).length = 53 := by
      rw [String.length_ofList, List.length_replicate]
    have hbase : (unqualified (String.ofList (List.replicate 53 'p'))).length = 53 := by
      rw [unqualified, segments_of_plain hidentifier, List.getLastD_cons, List.getLastD_nil,
        String.ofList_toList, hlength]
    obtain ⟨t, ht⟩ := exists_withPrefix hidentifier hlength.le
    refine ⟨t, ht, ?_, ?_⟩
    · rw [← Bool.not_eq_true, t.isIdentifier_completedIndex, (length_base_of_withPrefix ht).2.1,
        hbase]
      decide
    · rw [apart_kept_of_withPrefix ht, hbase]
      decide
  · refine ⟨⟨⟨"a", "k", by decide, by decide⟩, ⟨"a_status", "k", by decide, by decide⟩,
      ⟨"b", "k", by decide, by decide⟩⟩, rfl, rfl, rfl, by decide, fun h => absurd h.1 (by decide)⟩

end QueueTables

end WorkQueue.Sql
