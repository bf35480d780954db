import WorkQueue.Config.Environment
import WorkQueue.Proofs.Spans

namespace WorkQueue

namespace Text

structure Tight (cs : List Char) : Prop where
  first : ∃ c rest, cs = c :: rest ∧ isBlank c = false
  last : ∃ before c, cs = before ++ [c] ∧ isBlank c = false

variable {cs cs' : List Char}

theorem Tight.trim (h : Tight cs) : trim cs = cs := by
  obtain ⟨c, rest, hfirst, hc⟩ := h.first
  obtain ⟨before, d, hlast, hd⟩ := h.last
  have hleft : cs.dropWhile isBlank = cs := by
    rw [hfirst, List.dropWhile_cons_of_neg (by simp [hc])]
  have hright : cs.reverse.dropWhile isBlank = cs.reverse := by
    rw [hlast, List.reverse_append, List.reverse_singleton, List.singleton_append,
      List.dropWhile_cons_of_neg (by simp [hd])]
  rw [Text.trim, hleft, hright, List.reverse_reverse]

theorem Tight.of_forall (hne : cs ≠ []) (h : ∀ c ∈ cs, isBlank c = false) : Tight cs where
  first := by
    obtain ⟨c, rest, rfl⟩ := List.exists_cons_of_ne_nil hne
    exact ⟨c, rest, rfl, h c List.mem_cons_self⟩
  last :=
    ⟨cs.dropLast, cs.getLast hne, (List.dropLast_append_getLast hne).symm,
      h _ (List.getLast_mem hne)⟩

theorem Tight.append (h : Tight cs) (between : List Char) (h' : Tight cs') :
    Tight (cs ++ between ++ cs') where
  first := by
    obtain ⟨c, rest, rfl, hc⟩ := h.first
    exact ⟨c, rest ++ between ++ cs', by simp, hc⟩
  last := by
    obtain ⟨before, d, rfl, hd⟩ := h'.last
    exact ⟨cs ++ between ++ before, d, by simp, hd⟩

end Text

section Numbers

variable {limit n : Nat}

theorem isBlank_of_isDigit {c : Char} (h : c.isDigit = true) : Text.isBlank c = false := by
  have hbounds : 48 ≤ c.toNat ∧ c.toNat ≤ 57 := by
    simpa [Char.isDigit, UInt32.le_iff_toNat_le] using h
  simp [Text.isBlank]
  omega

theorem tight_toDigits (n : Nat) : Text.Tight (Nat.toDigits 10 n) :=
  .of_forall Nat.toDigits_ne_nil fun _ hc =>
    isBlank_of_isDigit (Nat.isDigit_of_mem_toDigits (by decide) (by decide) hc)

theorem readDigits_append (limit n : Nat) (cs more : List Char) :
    readDigits limit n (cs ++ more) =
      readDigits limit n cs >>= fun m => readDigits limit m more := by
  induction cs generalizing n with
  | nil => rfl
  | cons c cs ih =>
    simp only [List.cons_append, readDigits]
    split
    · split
      · exact ih _
      · rfl
    · rfl

theorem isDigit_digitChar : ∀ n < 10, n.digitChar.isDigit = true := by decide

theorem toNat_digitChar : ∀ n < 10, n.digitChar.toNat - '0'.toNat = n := by decide

theorem readDigits_digitChar {d : Nat} (hd : d < 10) (h : 10 * n + d < limit) :
    readDigits limit n [d.digitChar] = .ok (10 * n + d) := by
  simp only [readDigits, isDigit_digitChar d hd, toNat_digitChar d hd, h, if_true]

theorem readDigits_toDigits (h : n < limit) : readDigits limit 0 (Nat.toDigits 10 n) = .ok n := by
  induction n using Nat.strongRecOn with
  | ind n ih =>
    by_cases hn : n < 10
    · rw [Nat.toDigits_of_lt_base hn, readDigits_digitChar hn (by omega), Nat.mul_zero,
        Nat.zero_add]
    · have hsum : 10 * (n / 10) + n % 10 = n := Nat.div_add_mod n 10
      rw [Nat.toDigits_of_base_le (by decide) (by omega), readDigits_append,
        ih (n / 10) (by omega) (by omega)]
      exact (readDigits_digitChar (Nat.mod_lt n (by decide)) (by omega)).trans (by rw [hsum])

theorem readNumber_of_isDigit {c : Char} {cs : List Char} (hc : c.isDigit = true) :
    readNumber limit (c :: cs) = readDigits limit 0 (c :: cs) := by
  unfold readNumber
  split
  · next h => cases h
  · next h => cases h; cases hc
  · next h => cases h; cases hc
  · next h => cases h; cases hc
  · rfl

theorem readNumber_toDigits (h : n < limit) :
    readNumber limit (Text.trim (Nat.toDigits 10 n)) = .ok n := by
  rw [(tight_toDigits n).trim, ← readDigits_toDigits h]
  have hdigits : ∀ c ∈ Nat.toDigits 10 n, c.isDigit = true :=
    fun _ hc => Nat.isDigit_of_mem_toDigits (by decide) (by decide) hc
  obtain ⟨c, cs, hcs⟩ := List.exists_cons_of_ne_nil (Nat.toDigits_ne_nil (b := 10) (n := n))
  rw [hcs] at hdigits ⊢
  exact readNumber_of_isDigit (hdigits c List.mem_cons_self)

end Numbers

namespace Duration

theorem tight_chars (s : Span) : Text.Tight s.chars := by
  refine .of_forall ?_ fun c hc => ?_
  · exact List.append_ne_nil_of_left_ne_nil Nat.toDigits_ne_nil _
  · rcases List.mem_append.1 hc with hc | hc
    · exact isBlank_of_isDigit (Nat.isDigit_of_mem_toDigits (by decide) (by decide) hc)
    · exact (s.named.2 c hc).blank

theorem tight_joined {l : List Span} (hl : l ≠ []) : Text.Tight (joined l) := by
  induction l with
  | nil => exact absurd rfl hl
  | cons s rest ih =>
    cases rest with
    | nil =>
      rw [joined, List.map_singleton, List.intercalate_singleton]
      exact tight_chars s
    | cons next rest =>
      rw [joined, List.map_cons, List.map_cons, List.intercalate_cons_cons]
      exact (tight_chars s).append [' '] (ih (List.cons_ne_nil _ _))

theorem tight_text (d : Duration) : Text.Tight d.text.toList := by
  cases hzero : d.isZero with
  | true =>
    rw [text, if_pos hzero]
    have hblank : ∀ c ∈ ['0', 's'], Text.isBlank c = false := by
      simp [Text.isBlank]
    exact .of_forall (List.cons_ne_nil _ _) hblank
  | false =>
    rw [d.toList_text hzero]
    exact tight_joined (d.printed_ne_nil hzero)

theorem read_trim_text (d : Duration) : read (Text.trim d.text.toList) = .ok d := by
  rw [d.tight_text.trim]
  exact d.parse_text

end Duration

end WorkQueue
