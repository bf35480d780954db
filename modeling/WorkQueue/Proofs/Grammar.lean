import WorkQueue.Proofs.Columns

namespace WorkQueue.Sql

def IsLetter (c : Char) : Prop := 'a' ≤ c ∧ c ≤ 'z' ∨ 'A' ≤ c ∧ c ≤ 'Z'

def IsWordChar (c : Char) : Prop := IsLetter c ∨ '0' ≤ c ∧ c ≤ '9' ∨ c = '_'

inductive Identifier : List Char → Prop
  | mk {c rest} (first : IsLetter c ∨ c = '_') (others : ∀ d ∈ rest, IsWordChar d)
    (short : rest.length ≤ 62) : Identifier (c :: rest)

inductive TableName : List Char → Prop
  | plain {part} (h : Identifier part) : TableName part
  | qualified {schema part} (hschema : Identifier schema) (h : Identifier part) :
    TableName (schema ++ '.' :: part)

section Characters

variable {c : Char}

theorem startsIdentifier_iff : startsIdentifier c = true ↔ IsLetter c ∨ c = '_' := by
  simp only [startsIdentifier, Char.isAlpha, Char.isUpper, Char.isLower, IsLetter, Char.le_def,
    Bool.or_eq_true, Bool.and_eq_true, decide_eq_true_eq, beq_iff_eq, ge_iff_le]
  tauto

theorem continuesIdentifier_iff : continuesIdentifier c = true ↔ IsWordChar c := by
  have hstart := startsIdentifier_iff (c := c)
  simp only [startsIdentifier, Bool.or_eq_true, beq_iff_eq] at hstart
  simp only [continuesIdentifier, Char.isAlphanum, Char.isDigit, IsWordChar, Char.le_def,
    Bool.or_eq_true, Bool.and_eq_true, decide_eq_true_eq, beq_iff_eq, ge_iff_le]
  tauto

end Characters

theorem identifier_cons_iff {c : Char} {rest : List Char} : Identifier (c :: rest) ↔
    (IsLetter c ∨ c = '_') ∧ (∀ d ∈ rest, IsWordChar d) ∧ rest.length ≤ 62 := by
  constructor
  · rintro ⟨first, others, short⟩
    exact ⟨first, others, short⟩
  · rintro ⟨first, others, short⟩
    exact .mk first others short

theorem isIdentifier_iff {cs : List Char} : isIdentifier cs = true ↔ Identifier cs := by
  cases cs with
  | nil => exact ⟨nofun, nofun⟩
  | cons c rest =>
    simp only [isIdentifier, identifier_cons_iff, Bool.and_eq_true, startsIdentifier_iff,
      decide_eq_true_eq, List.all_eq_true, continuesIdentifier_iff]
    tauto

theorem Identifier.isWordChar {cs : List Char} (h : Identifier cs) : ∀ c ∈ cs, IsWordChar c := by
  obtain ⟨first, others, -⟩ := h
  refine List.forall_mem_cons.2 ⟨?_, others⟩
  exact first.imp_right .inr

theorem not_isWordChar_dot : ¬IsWordChar '.' := by
  unfold IsWordChar IsLetter
  decide

theorem Identifier.dot_not_mem {cs : List Char} (h : Identifier cs) : '.' ∉ cs :=
  fun hdot => not_isWordChar_dot (h.isWordChar _ hdot)

theorem segments_eq_splitOn (cs : List Char) : segments cs = cs.splitOn '.' := by
  induction cs with
  | nil => rfl
  | cons c rest ih =>
    have hne : rest.splitOn '.' ≠ [] := List.splitOnP_ne_nil _ _
    have hsplit := List.splitOnP_cons_eq_if_modifyHead (p := (· == '.')) c rest
    rw [segments, ih]
    refine Eq.trans ?_ hsplit.symm
    simp only [beq_iff_eq]
    split
    · rfl
    · obtain ⟨part, parts, hparts⟩ := List.exists_cons_of_ne_nil hne
      rw [hparts]
      exact (congrArg (List.modifyHead (c :: ·)) hparts).symm

theorem intercalate_segments (cs : List Char) : ['.'].intercalate (segments cs) = cs := by
  rw [segments_eq_splitOn, List.intercalate_splitOn]

theorem segments_ne_nil (cs : List Char) : segments cs ≠ [] := by
  rw [segments_eq_splitOn]
  exact List.splitOnP_ne_nil _ _

theorem segments_of_plain {part : List Char} (h : Identifier part) : segments part = [part] := by
  have hdot : ∀ l ∈ [part], '.' ∉ l := by simpa using h.dot_not_mem
  have hjoin := List.splitOn_intercalate '.' hdot (List.cons_ne_nil _ _)
  rwa [List.intercalate_singleton, ← segments_eq_splitOn] at hjoin

theorem segments_of_qualified {schema part : List Char} (hschema : Identifier schema)
    (h : Identifier part) : segments (schema ++ '.' :: part) = [schema, part] := by
  have hdot : ∀ l ∈ [schema, part], '.' ∉ l := by
    simpa using ⟨hschema.dot_not_mem, h.dot_not_mem⟩
  have hjoin := List.splitOn_intercalate '.' hdot (List.cons_ne_nil _ _)
  rw [List.intercalate_cons_cons, List.intercalate_singleton, ← segments_eq_splitOn] at hjoin
  simpa using hjoin

theorem isTableName_iff {cs : List Char} : isTableName cs = true ↔ TableName cs := by
  simp only [isTableName, Bool.and_eq_true, List.all_eq_true, isIdentifier_iff, decide_eq_true_eq]
  constructor
  · rintro ⟨hparts, hlength⟩
    have hjoin := intercalate_segments cs
    have hne := segments_ne_nil cs
    generalize segments cs = parts at hparts hlength hjoin hne
    match parts with
    | [] => exact absurd rfl hne
    | [part] =>
      rw [List.intercalate_singleton] at hjoin
      exact hjoin ▸ .plain (hparts part List.mem_cons_self)
    | [schema, part] =>
      rw [List.intercalate_cons_cons, List.intercalate_singleton, List.append_assoc] at hjoin
      obtain ⟨hschema, hpart⟩ := List.forall_mem_cons.1 hparts
      exact hjoin ▸ .qualified hschema (hpart part List.mem_cons_self)
  · rintro (h | ⟨hschema, h⟩)
    · rw [segments_of_plain h]
      exact ⟨by simpa using h, Nat.le_succ 1⟩
    · rw [segments_of_qualified hschema h]
      exact ⟨by simpa using ⟨hschema, h⟩, le_refl 2⟩

theorem TableName.identifier_getLastD {cs : List Char} (h : TableName cs) :
    Identifier ((segments cs).getLastD []) := by
  obtain h | ⟨hschema, h⟩ := h
  · rw [segments_of_plain h]
    exact h
  · rw [segments_of_qualified hschema h]
    exact h

theorem TableName.isWordChar {cs : List Char} (h : TableName cs) :
    ∀ c ∈ cs, IsWordChar c ∨ c = '.' := by
  intro c hc
  obtain h | ⟨hschema, h⟩ := h
  · exact .inl (h.isWordChar c hc)
  · rcases List.mem_append.1 hc with hc | hc
    · exact .inl (hschema.isWordChar c hc)
    · exact (List.mem_cons.1 hc).symm.imp_left (h.isWordChar c)

def unqualified (name : String) : String := String.ofList ((segments name.toList).getLastD [])

namespace TableInfo

variable (t : TableInfo)

theorem tableName_name : TableName t.name.toList := isTableName_iff.1 t.name_valid

theorem identifier_key : Identifier t.key.toList := isIdentifier_iff.1 t.key_valid

def base : String := unqualified t.name

theorem identifier_base : Identifier t.base.toList := by
  rw [base, unqualified, String.toList_ofList]
  exact t.tableName_name.identifier_getLastD

theorem indexName_eq (suffix : String) : t.indexName suffix = t.base ++ "_" ++ suffix := rfl

end TableInfo

/-- Neither a quote, a blank or a semicolon, nor a control character, nor beyond ASCII. -/
def Harmless (c : Char) : Prop := c ∉ "\"'` ;".toList ∧ 32 ≤ c.toNat ∧ c.toNat < 127

instance : DecidablePred Harmless := fun c =>
  inferInstanceAs (Decidable (c ∉ "\"'` ;".toList ∧ 32 ≤ c.toNat ∧ c.toNat < 127))

theorem forall_ascii {p : Char → Prop} (h : ∀ n < 128, p (Char.ofNat n)) {c : Char}
    (hc : c.toNat < 128) : p c := by
  have hp := h c.toNat hc
  rwa [Char.ofNat_toNat] at hp

instance : DecidablePred IsWordChar := fun c =>
  inferInstanceAs (Decidable
    (('a' ≤ c ∧ c ≤ 'z' ∨ 'A' ≤ c ∧ c ≤ 'Z') ∨ '0' ≤ c ∧ c ≤ '9' ∨ c = '_'))

theorem IsWordChar.lt {c : Char} (h : IsWordChar c) : c.toNat < 128 := by
  simp only [IsWordChar, IsLetter, Char.le_def, UInt32.le_iff_toNat_le] at h
  rcases h with (h | h) | h | rfl
  · exact Nat.lt_of_le_of_lt h.2 (by decide)
  · exact Nat.lt_of_le_of_lt h.2 (by decide)
  · exact Nat.lt_of_le_of_lt h.2 (by decide)
  · decide

theorem IsWordChar.harmless {c : Char} (h : IsWordChar c) : Harmless c :=
  forall_ascii (p := fun c => IsWordChar c → Harmless c) (by decide +kernel) h.lt h

theorem harmless_of_wordChar_or_dot {c : Char} (h : IsWordChar c ∨ c = '.') : Harmless c := by
  rcases h with h | rfl
  · exact h.harmless
  · decide

/-- A text made of pieces that are the same for all tables, and of parts that depend on the tables
and hold nothing harmful. -/
inductive Assembled : (Adapter → String) → Prop
  | fixed (s : String) : Assembled fun _ => s
  | spliced {part : Adapter → String} (h : ∀ a, ∀ c ∈ (part a).toList, Harmless c) : Assembled part
  | append {first second : Adapter → String} (hfirst : Assembled first)
    (hsecond : Assembled second) : Assembled fun a => first a ++ second a

namespace Assembled

variable (table : Adapter → TableInfo)

theorem name : Assembled fun a => (table a).name :=
  .spliced fun a c hc => harmless_of_wordChar_or_dot ((table a).tableName_name.isWordChar c hc)

theorem key : Assembled fun a => (table a).key :=
  .spliced fun a c hc => ((table a).identifier_key.isWordChar c hc).harmless

theorem base : Assembled fun a => (table a).base :=
  .spliced fun a c hc => ((table a).identifier_base.isWordChar c hc).harmless

theorem filter_harmful {text : Adapter → String} (h : Assembled text) (a a' : Adapter) :
    (text a).toList.filter (¬Harmless ·) = (text a').toList.filter (¬Harmless ·) := by
  induction h with
  | fixed s => rfl
  | @spliced part h =>
    have none : ∀ a, (part a).toList.filter (¬Harmless ·) = [] := fun a =>
      List.filter_eq_nil_iff.2 fun c hc => by simpa using h a c hc
    rw [none a, none a']
  | append _ _ ihfirst ihsecond =>
    rw [String.toList_append, String.toList_append, List.filter_append, List.filter_append,
      ihfirst, ihsecond]

theorem oldestRows (condition place : String) :
    Assembled fun a => Statement.oldestRows (table a) condition place := by
  unfold Statement.oldestRows
  apply_rules [fixed, append, name, key]

theorem updateBatch {rows : Adapter → String} (h : Assembled rows) (batch status : String) :
    Assembled fun a => Statement.updateBatch (table a) batch (rows a) status := by
  unfold Statement.updateBatch
  apply_rules [fixed, append, name, key]

theorem deleteBatch {rows : Adapter → String} (h : Assembled rows) (batch called : String) :
    Assembled fun a => Statement.deleteBatch (table a) batch (rows a) called := by
  unfold Statement.deleteBatch
  apply_rules [fixed, append, name, key]

theorem statement (call : StoreCall) : Assembled fun a => (a.statement call).text := by
  cases call with
  | claim limit => exact updateBatch _ (oldestRows _ _ _) _ _
  | recover timeout limit => exact updateBatch _ (oldestRows _ _ _) _ _
  | requeue delay limit => exact updateBatch _ (oldestRows _ _ _) _ _
  | discard limit => exact deleteBatch _ (oldestRows _ _ _) _ _
  | expireCompleted expiry limit => exact deleteBatch _ (oldestRows _ _ _) _ _
  | _ =>
    dsimp only [Adapter.statement, Statement.insertItems, Statement.release, Statement.delete,
      Statement.demote, Statement.complete, Statement.recordFailures, Statement.expireBroken,
      Statement.purge]
    apply_rules [fixed, append, name, key]

theorem getElem? {statements : Adapter → List Statement} (texts : List (Adapter → String))
    (h : ∀ text ∈ texts, Assembled text)
    (heq : ∀ a, (statements a).map (·.text) = texts.map (· a)) (i : Nat) :
    Assembled fun a => (((statements a)[i]?).map (·.text)).getD "" := by
  have htext : (fun a => (((statements a)[i]?).map (·.text)).getD "") =
      (texts[i]?).getD fun _ => "" := by
    funext a
    rw [← List.getElem?_map, heq, List.getElem?_map]
    cases texts[i]? <;> rfl
  rw [htext]
  cases htexts : texts[i]? with
  | none => exact fixed ""
  | some text => exact h text (List.mem_of_getElem? htexts)

theorem schema (i : Nat) : Assembled fun a => ((a.tables.schema[i]?).map (·.text)).getD "" := by
  refine getElem? [_, _, _, _, _, _] ?_ (fun a => rfl) i
  simp only [List.forall_mem_cons, List.not_mem_nil, false_imp_iff, implies_true, and_true,
    QueueTables.itemsIndex, QueueTables.completedIndex, QueueTables.brokenIndex,
    TableInfo.indexName_eq]
  refine ⟨?_, ?_, ?_, ?_, ?_, ?_⟩ <;> apply_rules [fixed, append, name, key, base]

theorem dropSchema (i : Nat) :
    Assembled fun a => ((a.tables.dropSchema[i]?).map (·.text)).getD "" := by
  refine getElem? [_, _, _] ?_ (fun a => rfl) i
  simp only [List.forall_mem_cons, List.not_mem_nil, false_imp_iff, implies_true, and_true]
  refine ⟨?_, ?_, ?_⟩ <;> apply_rules [fixed, append, name]

end Assembled

inductive Occasion
  | call (c : StoreCall)
  | create (step : Nat)
  | drop (step : Nat)

def Adapter.statement? (a : Adapter) : Occasion → Option Statement
  | .call c => match a.plan c with
    | .ok (.send s _) => some s
    | _ => none
  | .create step => a.tables.schema[step]?
  | .drop step => a.tables.dropSchema[step]?

theorem Assembled.statement? (o : Occasion) :
    Assembled fun a => ((a.statement? o).map (·.text)).getD "" := by
  cases o with
  | call c =>
    simp only [Adapter.statement?, Adapter.plan_eq, carried]
    cases c.isSpared with
    | true => exact fixed ""
    | false =>
      cases misfit? c.outbound with
      | some v => exact fixed ""
      | none => exact statement c
  | create step => exact schema step
  | drop step => exact dropSchema step

namespace TableInfo

variable {name key : String} {t : TableInfo}

theorem new_eq_ok_iff : new name key = .ok t ↔
    TableName name.toList ∧ Identifier key.toList ∧ t.name = name ∧ t.key = key := by
  rw [← isTableName_iff, ← isIdentifier_iff]
  constructor
  · intro h
    unfold new at h
    split at h
    · next hname =>
      split at h
      · next hkey =>
        cases h
        exact ⟨hname, hkey, rfl, rfl⟩
      · cases h
    · cases h
  · rintro ⟨hname, hkey, rfl, rfl⟩
    rw [new, dif_pos hname, dif_pos hkey]

theorem new_of_not_tableName (h : ¬TableName name.toList) :
    new name key = .error (.invalidIdentifier name) := by
  rw [← isTableName_iff] at h
  rw [new, dif_neg h]

theorem new_of_not_identifier (hname : TableName name.toList) (hkey : ¬Identifier key.toList) :
    new name key = .error (.invalidIdentifier key) := by
  rw [← isTableName_iff] at hname
  rw [← isIdentifier_iff] at hkey
  rw [new, dif_pos hname, dif_neg hkey]

end TableInfo

/-- Names are accepted exactly by the grammar and kept as they are, a bad table name counts before a
bad key, and no accepted name brings anything harmful into a statement: it has the same harmful
characters whatever the tables are called. -/
theorem names_guarded :
    (∀ name key t, TableInfo.new name key = .ok t ↔
      TableName name.toList ∧ Identifier key.toList ∧ t.name = name ∧ t.key = key) ∧
    (∀ name key, ¬TableName name.toList →
      TableInfo.new name key = .error (.invalidIdentifier name)) ∧
    (∀ name key, TableName name.toList → ¬Identifier key.toList →
      TableInfo.new name key = .error (.invalidIdentifier key)) ∧
    (∀ o, Assembled fun a => ((a.statement? o).map (·.text)).getD "") ∧
    ∀ o (a a' : Adapter) s s', a.statement? o = some s → a'.statement? o = some s' →
      s.text.toList.filter (¬Harmless ·) = s'.text.toList.filter (¬Harmless ·) := by
  refine ⟨fun _ _ _ => TableInfo.new_eq_ok_iff, fun _ _ => TableInfo.new_of_not_tableName,
    fun _ _ => TableInfo.new_of_not_identifier, Assembled.statement?, fun o a a' s s' hs hs' => ?_⟩
  have hsame := (Assembled.statement? o).filter_harmful a a'
  simpa only [hs, hs', Option.map_some, Option.getD_some] using hsame

end WorkQueue.Sql
