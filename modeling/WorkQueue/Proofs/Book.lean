import Mathlib
import WorkQueue.Event

/-!
Books over a stream of events: a line for each key that came up, with the sum of what the events of
that key weigh. A sink of events keeps such books, and says in its own way what the key of an event
is and how lines are found. What is in a book depends on the events alone, and not on their order.
-/

namespace WorkQueue

def EventData.size : EventData → Nat
  | count n => n.toNat
  | id _ => 1
  | ids l => l.length

/-- What the events weigh together that `p` picks. -/
def weighed (weight : Event → Nat) (p : Event → Bool) (events : List Event) : Nat :=
  ((events.filter p).map weight).sum

section Weighed

variable (weight : Event → Nat) (p : Event → Bool)

@[simp] theorem weighed_nil : weighed weight p [] = 0 := rfl

@[simp] theorem weighed_cons (e : Event) (events : List Event) :
    weighed weight p (e :: events) = (if p e then weight e else 0) + weighed weight p events := by
  cases h : p e <;> simp [weighed, h]

@[simp] theorem weighed_append (events more : List Event) :
    weighed weight p (events ++ more) = weighed weight p events + weighed weight p more := by
  simp [weighed]

theorem weighed_singleton (e : Event) : weighed weight p [e] = if p e then weight e else 0 := by
  simp

theorem weighed_eq_zero {events : List Event} (h : ∀ e ∈ events, p e = false) :
    weighed weight p events = 0 := by
  rw [weighed, List.filter_eq_nil_iff.2 fun e he => by simp [h e he]]
  rfl

theorem weighed_perm {events events' : List Event} (h : events.Perm events') :
    weighed weight p events = weighed weight p events' :=
  ((h.filter p).map weight).sum_eq

end Weighed

abbrev Book (K : Type) := List (K × UInt64)

variable {K : Type}

namespace Book

/-- `n` is entered under `k`: into the one line of that key, or into a new one. -/
inductive Entered (k : K) (n : UInt64) : Book K → Book K → Prop
  | again {before after total} (h : ∀ l ∈ before ++ after, l.1 ≠ k) :
    Entered k n (before ++ (k, total) :: after) (before ++ (k, total + n) :: after)
  | first {before after} (h : ∀ l ∈ before ++ after, l.1 ≠ k) :
    Entered k n (before ++ after) (before ++ (k, n) :: after)

/-- A book that was kept over `events`, which are in order. -/
inductive Kept (key : Event → K) (weight : Event → Nat) : List Event → Book K → Prop
  | nil : Kept key weight [] []
  | snoc {events e book book'} (h : Kept key weight events book)
    (hentered : Entered (key e) (.ofNat (weight e)) book book') :
    Kept key weight (events ++ [e]) book'

def Sorted [LT K] (book : Book K) : Prop := book.Pairwise (·.1 < ·.1)

def sumIn (p : K → Bool) (book : Book K) : Nat := ((book.filter (p ·.1)).map (·.2.toNat)).sum

section Sum

variable (p : K → Bool)

@[simp] theorem sumIn_nil : sumIn p [] = 0 := rfl

@[simp] theorem sumIn_append (book more : Book K) :
    sumIn p (book ++ more) = sumIn p book + sumIn p more := by
  simp [sumIn]

@[simp] theorem sumIn_cons (l : K × UInt64) (book : Book K) :
    sumIn p (l :: book) = (if p l.1 then l.2.toNat else 0) + sumIn p book := by
  cases h : p l.1 <;> simp [sumIn, h]

end Sum

section Entered

variable {k k' : K} {n m : UInt64} {book book' : Book K}

theorem Entered.mem_other (h : Entered k n book book') (hne : k' ≠ k) :
    (k', m) ∈ book' ↔ (k', m) ∈ book := by
  cases h <;> simp [hne]

theorem Entered.mem_same (h : Entered k n book book') : (k, m) ∈ book' ↔
    (∃ total, (k, total) ∈ book ∧ m = total + n) ∨ (∀ l ∈ book, l.1 ≠ k) ∧ m = n := by
  cases h with
  | @again before after total h =>
    have hnot (t : UInt64) : (k, t) ∉ before ∧ (k, t) ∉ after := by
      constructor <;> intro hmem <;> exact h (k, t) (by simp [hmem]) rfl
    simp [hnot]
  | @first before after h =>
    have hnot (t : UInt64) : (k, t) ∉ before ∧ (k, t) ∉ after := by
      constructor <;> intro hmem <;> exact h (k, t) (by simp [hmem]) rfl
    have hnone : ∀ l ∈ before ++ after, l.1 ≠ k := h
    simp only [List.mem_append, List.mem_cons, hnot, false_or, or_false, Prod.mk.injEq, true_and,
      false_and, exists_false] at hnone ⊢
    exact ⟨fun hm => ⟨hnone, hm⟩, And.right⟩

theorem Entered.sumIn {p : K → Bool} {w : Nat} (h : Entered k (.ofNat w) book book')
    (hsmall : p k = true → sumIn p book + w < 2 ^ 64) :
    sumIn p book' = sumIn p book + if p k then w else 0 := by
  cases hk : p k with
  | false => cases h <;> simp [hk]
  | true =>
    have hsum := hsmall hk
    cases h with
    | @again before after total =>
      simp only [sumIn_append, sumIn_cons, hk, if_true] at hsum ⊢
      rw [UInt64.toNat_add, UInt64.toNat_ofNat', Nat.mod_eq_of_lt (a := w) (by omega),
        Nat.mod_eq_of_lt (by omega)]
      omega
    | @first before after =>
      simp only [sumIn_append, sumIn_cons, hk, if_true] at hsum ⊢
      rw [UInt64.toNat_ofNat', Nat.mod_eq_of_lt (by omega)]
      omega

end Entered

namespace Kept

variable {key : Event → K} {weight : Event → Nat} {events events' : List Event}
  {book book' : Book K}

/-- A line is what the events of its key weigh together, modulo 2^64. -/
theorem mem_iff [DecidableEq K] (h : Kept key weight events book) {k : K} {n : UInt64} :
    (k, n) ∈ book ↔
      (∃ e ∈ events, key e = k) ∧ n = .ofNat (weighed weight (fun e => key e = k) events) := by
  induction h generalizing n with
  | nil => simp
  | @snoc events e book book' h hentered ih =>
    by_cases hk : key e = k
    · subst hk
      have hlast : ∃ x ∈ events ++ [e], key x = key e := ⟨e, by simp, rfl⟩
      rw [hentered.mem_same]
      simp only [weighed_append, weighed_singleton, decide_true, if_true, UInt64.ofNat_add, ih, hlast,
        true_and]
      by_cases hseen : ∃ x ∈ events, key x = key e
      · have hsome : ¬∀ l ∈ book, l.1 ≠ key e := fun h => h _ (ih.2 ⟨hseen, rfl⟩) rfl
        simp only [hseen, hsome, true_and, false_and, or_false, exists_eq_left]
      · have hzero : weighed weight (fun x => key x = key e) events = 0 :=
          weighed_eq_zero _ _ fun x hx => decide_eq_false fun heq => hseen ⟨x, hx, heq⟩
        have hnone : ∀ l ∈ book, l.1 ≠ key e := by
          rintro ⟨k, t⟩ hl rfl
          exact hseen (ih.1 hl).1
        rw [hzero, and_iff_right hnone]
        simp only [hseen, false_and, exists_false, false_or]
        rw [show UInt64.ofNat 0 = 0 from rfl, UInt64.zero_add]
    · rw [hentered.mem_other (Ne.symm hk), ih]
      simp [hk]

theorem exists_line_iff [DecidableEq K] (h : Kept key weight events book) (k : K) :
    (∃ l ∈ book, l.1 = k) ↔ ∃ e ∈ events, key e = k := by
  constructor
  · rintro ⟨⟨k, n⟩, hl, rfl⟩
    exact (h.mem_iff.1 hl).1
  · intro hseen
    exact ⟨_, h.mem_iff.2 ⟨hseen, rfl⟩, rfl⟩

theorem sumIn_eq (h : Kept key weight events book) {p : K → Bool}
    (hsmall : weighed weight (fun e => p (key e)) events < 2 ^ 64) :
    sumIn p book = weighed weight (fun e => p (key e)) events := by
  induction h with
  | nil => rfl
  | @snoc events e book book' h hentered ih =>
    rw [weighed_append, weighed_singleton] at hsmall
    have hbefore := ih (Nat.lt_of_le_of_lt (Nat.le_add_right _ _) hsmall)
    rw [hentered.sumIn fun hk => ?_, hbefore, weighed_append, weighed_singleton]
    rw [if_pos hk] at hsmall
    rwa [hbefore]

theorem eq_of_perm [LinearOrder K] (hperm : events.Perm events')
    (h : Kept key weight events book) (h' : Kept key weight events' book') (hsorted : book.Sorted)
    (hsorted' : book'.Sorted) : book = book' := by
  have hmem (l : K × UInt64) : l ∈ book ↔ l ∈ book' := by
    obtain ⟨k, n⟩ := l
    rw [h.mem_iff, h'.mem_iff, weighed_perm _ _ hperm]
    simp only [hperm.mem_iff]
  have hnodup {book : Book K} (h : book.Sorted) : book.Nodup :=
    List.Pairwise.imp (fun hlt heq => hlt.ne (congrArg Prod.fst heq)) h
  refine ((List.perm_ext_iff_of_nodup (hnodup hsorted) (hnodup hsorted')).2 hmem).eq_of_pairwise
    (fun a b _ _ hab hba => absurd hba hab.asymm) hsorted hsorted'

end Kept

end Book

end WorkQueue
