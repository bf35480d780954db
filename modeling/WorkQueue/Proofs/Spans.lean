import Mathlib
import WorkQueue.Time.DurationText

namespace WorkQueue.Duration

open Reader

/-- Some text takes a reader to a total and a place, wherever that is in the text. -/
def Reads (r : Reader) (cs : List Char) (total : Duration) (place : Place) : Prop :=
  ∃ offset, cs.foldlM step r = .ok ⟨total, offset, place⟩

theorem Reads.append {r : Reader} {cs more : List Char} {t t' : Duration} {p p' : Place}
    (h : Reads r cs t p) (hmore : ∀ offset, Reads ⟨t, offset, p⟩ more t' p') :
    Reads r (cs ++ more) t' p' := by
  obtain ⟨offset, h⟩ := h
  obtain ⟨offset', hmore⟩ := hmore offset
  refine ⟨offset', ?_⟩
  rw [List.foldlM_append, h]
  exact hmore

theorem Reads.single {r : Reader} {c : Char} {t : Duration} {p : Place}
    (h : r.next c = .ok (t, p)) : Reads r [c] t p := by
  refine ⟨r.offset + c.utf8Size, ?_⟩
  simp [step, h]

theorem word_ok {n : Nat} (h : n < UInt64.size) : word n = .ok n := if_pos h

section Digits

def Place.Awaits : Place → Prop
  | .start | .between _ => True
  | _ => False

theorem digit?_digitChar : ∀ n < 10, digit? n.digitChar = some n := by decide

theorem isBlank_digitChar : ∀ n < 10, Text.isBlank n.digitChar = false := by decide

theorem reads_digits {n : Nat} (h : n < UInt64.size) {r : Reader} (hr : r.place.Awaits) :
    Reads r (Nat.toDigits 10 n) r.total (.count n) := by
  induction n using Nat.strongRecOn with
  | ind n ih =>
    by_cases hn : n < 10
    · rw [Nat.toDigits_of_lt_base hn]
      apply Reads.single
      obtain ⟨total, offset, place⟩ := r
      cases place with
      | start | between => simp [next, awaitSpan, digit?_digitChar n hn, isBlank_digitChar n hn]
      | _ => exact hr.elim
    · rw [Nat.toDigits_of_base_le (by decide) (by omega)]
      refine (ih (n / 10) (by omega) (by omega)).append fun offset => .single ?_
      have hlast : n % 10 < 10 := Nat.mod_lt n (by decide)
      have hsum : 10 * (n / 10) + n % 10 = n := Nat.div_add_mod n 10
      simp only [next, digit?_digitChar _ hlast, hsum, word_ok h]
      rfl

end Digits

section Units

structure IsLetter (c : Char) : Prop where
  unit : isUnitLetter c = true
  digit : digit? c = none
  blank : Text.isBlank c = false

instance (c : Char) : Decidable (IsLetter c) :=
  decidable_of_iff (isUnitLetter c = true ∧ digit? c = none ∧ Text.isBlank c = false)
    ⟨fun ⟨hunit, hdigit, hblank⟩ => ⟨hunit, hdigit, hblank⟩,
      fun ⟨hunit, hdigit, hblank⟩ => ⟨hunit, hdigit, hblank⟩⟩

variable {n : Nat} {t : Duration}

theorem reads_letters {letters : List Char} (h : ∀ c ∈ letters, IsLetter c) {r : Reader}
    {before : List Char} (hr : r.place = .unit n none before) :
    Reads r letters r.total (.unit n none (letters.reverse ++ before)) := by
  induction letters generalizing r before with
  | nil => exact ⟨r.offset, by rw [List.reverse_nil, List.nil_append, ← hr]; rfl⟩
  | cons c letters ih =>
    obtain ⟨hc, hrest⟩ := List.forall_mem_cons.1 h
    have hfirst : Reads r [c] r.total (.unit n none (c :: before)) := by
      apply Reads.single
      simp [next, hr, hc.unit]
    rw [List.reverse_cons, List.append_assoc]
    exact hfirst.append fun offset => ih hrest rfl

theorem reads_unit {name : List Char} (h : ∀ c ∈ name, IsLetter c) (hname : name ≠ [])
    (offset : Nat) : Reads ⟨t, offset, .count n⟩ name t (.unit n none name.reverse) := by
  cases name with
  | nil => exact absurd rfl hname
  | cons c letters =>
    obtain ⟨hc, hrest⟩ := List.forall_mem_cons.1 h
    have hfirst : Reads ⟨t, offset, .count n⟩ [c] t (.unit n none [c]) := by
      apply Reads.single
      simp [next, hc.unit, hc.digit, hc.blank]
    rw [List.reverse_cons]
    exact hfirst.append fun offset => reads_letters hrest rfl

end Units

def Names (name : String) (u : TimeUnit) : Prop :=
  TimeUnit.ofName? name = some u ∧ ∀ c ∈ name.toList, IsLetter c

-- Goes through the letters one by one. The instance that is found otherwise tries all characters.
instance (name : String) (u : TimeUnit) : Decidable (Names name u) :=
  have := List.decidableBAll IsLetter name.toList
  inferInstanceAs (Decidable (_ ∧ _))

structure Span where
  count : Nat
  unit : TimeUnit
  name : String
  named : Names name unit

namespace Span

def spelled (n : Nat) (u : TimeUnit) (name : String) (one : Names name u)
    (many : Names (name ++ "s") u) : Span where
  count := n
  unit := u
  name := if n > 1 then name ++ "s" else name
  named := by
    split
    · exact many
    · exact one

def nanos (s : Span) : Nat := s.count * s.unit.nanos

def chars (s : Span) : List Char := Nat.toDigits 10 s.count ++ s.name.toList

theorem nanos_mk (n : Nat) (u : TimeUnit) (name : String) (named : Names name u) :
    nanos ⟨n, u, name, named⟩ = n * u.nanos := rfl

theorem nanos_spelled (n : Nat) (u : TimeUnit) (name : String) (one : Names name u)
    (many : Names (name ++ "s") u) : (spelled n u name one many).nanos = n * u.nanos := rfl

theorem sum_cons (s : Span) (l : List Span) :
    ((s :: l).map nanos).sum = s.nanos + (l.map nanos).sum := by simp

theorem name_ne_nil (s : Span) : s.name.toList ≠ [] := by
  intro h
  have hnamed := s.named.1
  rw [String.toList_eq_nil_iff.1 h] at hnamed
  cases hnamed

def Small (s : Span) : Prop := s.unit.grain = 1 → s.nanos < nanosPerSecond

theorem grain_mul (n : Nat) (u : TimeUnit) : u.grain * (n * (u.nanos / u.grain)) = n * u.nanos := by
  cases u <;> simp [TimeUnit.grain, TimeUnit.nanos, nanosPerSecond] <;> omega

theorem grains_lt {s : Span} (hsmall : s.Small)
    (hrange : s.nanos < UInt64.size * nanosPerSecond) :
    s.count * (s.unit.nanos / s.unit.grain) < UInt64.size := by
  have hgrain : s.unit.grain = 1 ∨ s.unit.grain = nanosPerSecond := by
    cases s.unit <;> simp [TimeUnit.grain]
  have hnanos : s.unit.grain * (s.count * (s.unit.nanos / s.unit.grain)) = s.nanos :=
    grain_mul s.count s.unit
  generalize s.count * (s.unit.nanos / s.unit.grain) = grains at hnanos ⊢
  rcases hgrain with hgrain | hgrain
  · have hlt := hsmall hgrain
    rw [hgrain, Nat.one_mul] at hnanos
    rw [hnanos]
    exact Nat.lt_trans hlt (by decide)
  · rw [← hnanos, hgrain, Nat.mul_comm] at hrange
    exact Nat.lt_of_mul_lt_mul_right hrange

theorem count_lt {s : Span} (hsmall : s.Small)
    (hrange : s.nanos < UInt64.size * nanosPerSecond) : s.count < UInt64.size := by
  have hgrains : 0 < s.unit.nanos / s.unit.grain := by cases s.unit <;> decide
  exact Nat.lt_of_le_of_lt (Nat.le_mul_of_pos_right _ hgrains) (grains_lt hsmall hrange)

end Span

theorem addGrains_ok (t : Duration) (grain : Nat) {count : Nat} (hcount : count < UInt64.size)
    (hsubsec : grain = 1 → count < nanosPerSecond)
    (hrange : t.nanos + grain * count < UInt64.size * nanosPerSecond) :
    ∃ sum, t.addGrains grain count = .ok sum ∧ sum.nanos = t.nanos + grain * count := by
  refine ⟨⟨t.nanos + grain * count, hrange⟩, ?_, rfl⟩
  have hsum : ofNanos? (t.nanos + grain * count) = some ⟨t.nanos + grain * count, hrange⟩ :=
    dif_pos hrange
  simp only [addGrains, word_ok hcount, hsum, bind, Except.bind]
  by_cases hgrain : grain = 1
  · have hword : t.subsecNanos + count < UInt64.size := by
      have hlt : t.subsecNanos < nanosPerSecond := Nat.mod_lt _ (by decide)
      have hcount := hsubsec hgrain
      simp only [nanosPerSecond, UInt64.size] at hlt hcount ⊢
      omega
    simp only [if_pos hgrain, word_ok hword]
    rfl
  · simp only [if_neg hgrain]

theorem addSpan_ok {t : Duration} {s : Span}
    (hsmall : s.Small)
    (hrange : t.nanos + s.nanos < UInt64.size * nanosPerSecond) :
    ∃ sum, t.addSpan s.count none s.name.toList = .ok sum ∧ sum.nanos = t.nanos + s.nanos := by
  have hgrains := Span.grain_mul s.count s.unit
  have hcount := Span.grains_lt hsmall (by omega)
  obtain ⟨sum, hsum, hnanos⟩ := addGrains_ok t s.unit.grain hcount
    (fun hgrain => by
      rw [hgrain, Nat.one_mul] at hgrains
      rw [hgrain, hgrains]
      exact hsmall hgrain)
    (by rw [hgrains]; exact hrange)
  refine ⟨sum, ?_, ?_⟩
  · have hname : s.name.toList.isEmpty = false := by
      rw [List.isEmpty_eq_false_iff]
      exact s.name_ne_nil
    simp only [addSpan, hname, String.ofList_toList, s.named.1, hsum]
    rfl
  · rw [hnanos, hgrains, Span.nanos]

section Reading

def joined (l : List Span) : List Char := [' '].intercalate (l.map Span.chars)

theorem reads_span {s : Span} (hcount : s.count < UInt64.size) {r : Reader} (hr : r.place.Awaits) :
    Reads r s.chars r.total (.unit s.count none s.name.toList.reverse) :=
  (reads_digits hcount hr).append fun offset => reads_unit s.named.2 s.name_ne_nil offset

theorem read_blank {t sum : Duration} {n offset : Nat} {name : List Char}
    (h : t.addSpan n none name = .ok sum) :
    [' '].foldlM step ⟨t, offset, .unit n none name.reverse⟩ =
      .ok ⟨sum, offset + 1, .between (offset + 1)⟩ := by
  have hletter : isUnitLetter ' ' = false := by decide
  have hdigit : digit? ' ' = none := by decide
  have hblank : Text.isBlank ' ' = true := by decide
  simp [step, next, hletter, hdigit, hblank, h]
  rfl

theorem read_spans {l : List Span} (hl : l ≠ []) {r : Reader} (hr : r.place.Awaits)
    (hsmall : ∀ s ∈ l, s.Small)
    (hrange : r.total.nanos + (l.map Span.nanos).sum < UInt64.size * nanosPerSecond) :
    ∃ total, ((joined l).foldlM step r >>= finish) = .ok total ∧
      total.nanos = r.total.nanos + (l.map Span.nanos).sum := by
  induction l generalizing r with
  | nil => exact absurd rfl hl
  | cons s rest ih =>
    obtain ⟨hs, hrest⟩ := List.forall_mem_cons.1 hsmall
    rw [List.map_cons, List.sum_cons, ← Nat.add_assoc] at hrange ⊢
    obtain ⟨sum, hsum, hnanos⟩ := addSpan_ok (t := r.total) hs (by omega)
    obtain ⟨offset, hread⟩ := reads_span (Span.count_lt hs (by omega)) hr
    cases rest with
    | nil =>
      refine ⟨sum, ?_, hnanos⟩
      rw [joined, List.map_singleton, List.intercalate_singleton, hread]
      change r.total.addSpan s.count none s.name.toList.reverse.reverse = _
      rw [List.reverse_reverse, hsum]
    | cons next rest =>
      obtain ⟨total, htotal, hrest⟩ := ih (List.cons_ne_nil _ _)
        (r := ⟨sum, offset + 1, .between (offset + 1)⟩) trivial hrest (by rw [hnanos]; exact hrange)
      refine ⟨total, ?_, ?_⟩
      · rw [joined, List.map_cons, List.map_cons, List.intercalate_cons_cons, List.foldlM_append,
          List.foldlM_append, hread]
        change ([' '].foldlM step _ >>= (joined (next :: rest)).foldlM step) >>= finish = _
        rw [read_blank hsum]
        exact htotal
      · rw [hrest, hnanos]

theorem joined_ne {l : List Span} (hl : l ≠ []) : joined l ≠ ['0'] := by
  intro h
  have hlength : (joined l).length = 1 := congrArg List.length h
  cases l with
  | nil => exact hl rfl
  | cons s rest =>
    have hdigits : 0 < (Nat.toDigits 10 s.count).length :=
      List.length_pos_iff.2 Nat.toDigits_ne_nil
    have hname : 0 < s.name.toList.length := List.length_pos_iff.2 s.name_ne_nil
    have hchars : s.chars.length = (Nat.toDigits 10 s.count).length + s.name.toList.length :=
      List.length_append
    cases rest with
    | nil =>
      rw [joined, List.map_singleton, List.intercalate_singleton] at hlength
      omega
    | cons next rest =>
      rw [joined, List.map_cons, List.map_cons, List.intercalate_cons_cons, List.length_append,
        List.length_append] at hlength
      omega

end Reading

section Printing

variable (d : Duration)

def spans : List Span :=
  let s := d.wholeSeconds
  let n := d.subsecNanos
  [.spelled (s / 31557600) .year "year" (by decide) (by decide),
   .spelled (s % 31557600 / 2630016) .month "month" (by decide) (by decide),
   .spelled (s % 31557600 % 2630016 / 86400) .day "day" (by decide) (by decide),
   ⟨s % 31557600 % 2630016 % 86400 / 3600, .hour, "h", by decide⟩,
   ⟨s % 31557600 % 2630016 % 86400 % 3600 / 60, .minute, "m", by decide⟩,
   ⟨s % 31557600 % 2630016 % 86400 % 60, .second, "s", by decide⟩,
   ⟨n / 1000000, .millisecond, "ms", by decide⟩,
   ⟨n % 1000000 / 1000, .microsecond, "us", by decide⟩,
   ⟨n % 1000, .nanosecond, "ns", by decide⟩]

def printed : List Span := d.spans.filter (·.count > 0)

theorem parts_eq : d.parts = d.spans.map fun s => (s.count, s.name) := rfl

theorem toList_text (h : d.isZero = false) : d.text.toList = joined d.printed := by
  have hspan : String.toList ∘ (fun p : Nat × String => toString p.1 ++ p.2) ∘
      (fun s : Span => (s.count, s.name)) = Span.chars := by
    funext s
    simp [Span.chars]
  simp only [text, h, Bool.false_eq_true, if_false, String.toList_intercalate, parts_eq,
    List.filter_map, List.map_map, hspan]
  rfl

theorem sum_spans : (d.spans.map Span.nanos).sum = d.nanos := by
  have hsplit : d.nanos = nanosPerSecond * d.wholeSeconds + d.subsecNanos :=
    (Nat.div_add_mod d.nanos nanosPerSecond).symm
  simp only [spans]
  generalize d.wholeSeconds = s at hsplit ⊢
  generalize d.subsecNanos = n at hsplit ⊢
  -- Seconds and nanoseconds are what is left over, however much was split off before.
  rw [← Nat.mod_mod_of_dvd (_ % 86400) (by decide : 60 ∣ 3600),
    ← Nat.mod_mod_of_dvd n (by decide : 1000 ∣ 1000000)]
  have hyears := Nat.div_add_mod s 31557600
  generalize s / 31557600 = years, s % 31557600 = s at hyears ⊢
  have hmonths := Nat.div_add_mod s 2630016
  generalize s / 2630016 = months, s % 2630016 = s at hmonths ⊢
  have hdays := Nat.div_add_mod s 86400
  generalize s / 86400 = days, s % 86400 = s at hdays ⊢
  have hhours := Nat.div_add_mod s 3600
  generalize s / 3600 = hours, s % 3600 = s at hhours ⊢
  have hminutes := Nat.div_add_mod s 60
  generalize s / 60 = minutes, s % 60 = s at hminutes ⊢
  have hmillis := Nat.div_add_mod n 1000000
  generalize n / 1000000 = millis, n % 1000000 = n at hmillis ⊢
  have hmicros := Nat.div_add_mod n 1000
  generalize n / 1000 = micros, n % 1000 = n at hmicros ⊢
  simp only [Span.sum_cons, Span.nanos_spelled, Span.nanos_mk, List.map_nil, List.sum_nil,
    TimeUnit.nanos]
  rw [nanosPerSecond] at hsplit
  omega

theorem sum_filter (l : List Span) :
    ((l.filter (·.count > 0)).map Span.nanos).sum = (l.map Span.nanos).sum := by
  induction l with
  | nil => rfl
  | cons s l ih =>
    by_cases h : s.count > 0
    · simp [h, ih]
    · have hzero : s.nanos = 0 := by rw [Span.nanos, Nat.eq_zero_of_not_pos h, Nat.zero_mul]
      simp [h, hzero, ih]

theorem sum_printed : (d.printed.map Span.nanos).sum = d.nanos :=
  (sum_filter d.spans).trans d.sum_spans

theorem printed_ne_nil (h : d.isZero = false) : d.printed ≠ [] := by
  have hnanos : d.nanos ≠ 0 := beq_eq_false_iff_ne.1 h
  intro hnone
  apply hnanos
  rw [← d.sum_printed, hnone]
  rfl

theorem small_spans : ∀ s ∈ d.spans, s.Small := by
  have hn : d.subsecNanos < nanosPerSecond := Nat.mod_lt _ (by decide)
  have coarse {s : Span} (h : s.unit.grain = nanosPerSecond) : s.Small := by
    intro hone
    rw [h] at hone
    exact absurd hone (by decide)
  simp only [spans, List.forall_mem_cons]
  refine ⟨coarse rfl, coarse rfl, coarse rfl, coarse rfl, coarse rfl, coarse rfl,
    fun _ => ?_, fun _ => ?_, fun _ => ?_, nofun⟩
  · rw [Span.nanos_mk]
    exact Nat.lt_of_le_of_lt (Nat.div_mul_le_self _ _) hn
  · rw [Span.nanos_mk]
    exact Nat.lt_of_le_of_lt (Nat.le_trans (Nat.div_mul_le_self _ _) (Nat.mod_le _ _)) hn
  · rw [Span.nanos_mk, TimeUnit.nanos, Nat.mul_one]
    exact Nat.lt_of_le_of_lt (Nat.mod_le _ _) hn

theorem parse_text : parse d.text = .ok d := by
  cases hzero : d.isZero with
  | true =>
    have hnanos : d.nanos = 0 := beq_iff_eq.1 hzero
    have hd : d = zero := Duration.ext hnanos
    rw [hd]
    decide +kernel
  | false =>
    have hprinted : d.printed ≠ [] := d.printed_ne_nil hzero
    obtain ⟨total, htotal, hsum⟩ := read_spans hprinted (r := ⟨zero, 0, .start⟩) trivial
      (fun s hs => d.small_spans s (List.mem_of_mem_filter hs)) (by
        rw [d.sum_printed]
        exact (Nat.zero_add _).trans_lt d.inRange)
    have hd : total = d := by
      apply Duration.ext
      rw [hsum, d.sum_printed]
      exact Nat.zero_add _
    rw [parse, d.toList_text hzero, read, if_neg (joined_ne hprinted), htotal, hd]

end Printing

end WorkQueue.Duration
