import FormRules.Number.Natural
import Mathlib

/-!
# Counts in arguments

Digits are read from the left while their value fits a machine word.  Reading stops at
the first character that is no digit or whose digit is too much, and a character that is
no digit is one even where the value could not grow any more.
-/

namespace FormRules.Number

/-- Digits whose value fits a machine word; there may be none. -/
structure Fitting (digits : List Char) (n : Nat) : Prop where
  all : ∀ c ∈ digits, c.isDigit = true
  value : Nat.ofDigitChars 10 digits 0 = n
  fits : n < 2 ^ 64

/-- A count as it is written: one or more digits, perhaps after a plus sign. -/
def IsCount (cs : List Char) (n : Nat) : Prop :=
  ∃ digits, (cs = digits ∨ cs = '+' :: digits) ∧ digits ≠ [] ∧ Fitting digits n

/-- Why no more can be read at a character after some digits. -/
inductive StopsAt (read : List Char) (c : Char) : NaturalFault → Prop
  | invalidDigit (hc : c.isDigit = false) : StopsAt read c .invalidDigit
  | tooLarge (hc : c.isDigit = true)
      (hlarge : 2 ^ 64 ≤ Nat.ofDigitChars 10 (read ++ [c]) 0) : StopsAt read c .tooLarge

/-- What is to be read as digits: a plus sign is left out if anything follows it. -/
def unsigned : List Char → List Char
  | '+' :: c :: rest => c :: rest
  | cs => cs

/-- Why a text is no count: it is empty, or there is a first character at which no more
can be read. -/
inductive NoCount : List Char → NaturalFault → Prop
  | empty : NoCount [] .empty
  | stops {cs read after : List Char} {c : Char} {n : Nat} {fault : NaturalFault}
      (hcs : unsigned cs = read ++ c :: after) (hread : Fitting read n)
      (hstop : StopsAt read c fault) : NoCount cs fault

section

variable {read rest : List Char} {value n : Nat} {c : Char} {fault : NaturalFault}

theorem fitting_nil : Fitting [] 0 where
  all := by simp
  value := Nat.ofDigitChars_nil
  fits := by decide

/-- One more digit makes ten times the value and the digit. -/
theorem Fitting.value_concat (hread : Fitting read value) (c : Char) :
    Nat.ofDigitChars 10 (read ++ [c]) 0 = 10 * value + digitValue c := by
  rw [Nat.ofDigitChars_append, hread.value, Nat.ofDigitChars_cons, Nat.ofDigitChars_nil]
  rfl

/-- Some digits of a count are a count. -/
theorem Fitting.before (rest : List Char) (h : Fitting (read ++ rest) n) :
    Fitting read (Nat.ofDigitChars 10 read 0) where
  all c hc := h.all c (List.mem_append_left _ hc)
  value := rfl
  fits := by
    have hvalue := h.value
    rw [Nat.ofDigitChars_append, Nat.ofDigitChars_eq_ofDigitChars_zero] at hvalue
    -- more digits never make a value smaller
    have hscale : 1 ≤ 10 ^ rest.length := Nat.one_le_pow _ _ (by decide)
    have hgrows := Nat.mul_le_mul_right (Nat.ofDigitChars 10 read 0) hscale
    have hfits := h.fits
    omega

theorem StopsAt.not_fitting (h : StopsAt read c fault) : ¬ Fitting (read ++ c :: rest) n := by
  intro hfitting
  have hread : Fitting (read ++ [c]) _ := Fitting.before rest (by simpa using hfitting)
  cases h with
  | invalidDigit hc =>
      have hdigit := hread.all c (by simp)
      rw [hc] at hdigit
      contradiction
  | tooLarge hc hlarge => exact absurd hread.fits (Nat.not_lt.2 hlarge)

/-- After some digits, a character is one digit more, or nothing more can be read. -/
theorem Fitting.next_or_stops (hread : Fitting read value) (c : Char) :
    Fitting (read ++ [c]) (10 * value + digitValue c) ∨ ∃ fault, StopsAt read c fault := by
  have hvalue := hread.value_concat c
  by_cases hc : c.isDigit = true
  · by_cases hfits : 10 * value + digitValue c < 2 ^ 64
    · left
      refine ⟨fun d hd => ?_, hvalue, hfits⟩
      rcases List.mem_append.1 hd with hd | hd
      · exact hread.all d hd
      · rwa [List.mem_singleton.1 hd]
    · exact .inr ⟨_, .tooLarge hc (by omega)⟩
  · exact .inr ⟨_, .invalidDigit (Bool.eq_false_iff.2 hc)⟩

theorem readDigits_of_fitting (hnext : Fitting (read ++ [c]) (10 * value + digitValue c)) :
    readDigits value (c :: rest) = readDigits (10 * value + digitValue c) rest := by
  rw [readDigits, if_pos (hnext.all c (by simp))]
  exact if_pos hnext.fits

theorem readDigits_of_stopsAt (rest : List Char) (hread : Fitting read value)
    (hstop : StopsAt read c fault) : readDigits value (c :: rest) = .error fault := by
  rw [readDigits]
  cases hstop with
  | invalidDigit hc => rw [if_neg (by simp [hc])]
  | tooLarge hc hlarge =>
      rw [hread.value_concat c] at hlarge
      rw [if_pos hc]
      exact if_neg (Nat.not_lt.2 hlarge)

/-- Reading succeeds when all characters are digits and their value fits. -/
theorem readDigits_eq_ok_iff (hread : Fitting read value) :
    readDigits value rest = .ok n ↔ Fitting (read ++ rest) n := by
  induction rest generalizing read value with
  | nil =>
      rw [List.append_nil, readDigits, Except.ok.injEq]
      constructor
      · rintro rfl
        exact hread
      · intro h
        rw [← hread.value, h.value]
  | cons c rest ih =>
      rcases hread.next_or_stops c with hnext | ⟨fault, hstop⟩
      · rw [readDigits_of_fitting hnext, ih hnext, List.append_assoc, List.singleton_append]
      · rw [readDigits_of_stopsAt rest hread hstop]
        constructor
        · intro h
          contradiction
        · intro h
          exact absurd h hstop.not_fitting

/-- Reading fails at the first character at which no more can be read. -/
theorem readDigits_eq_error_iff (hread : Fitting read value) :
    readDigits value rest = .error fault ↔
      ∃ more c after m, rest = more ++ c :: after ∧ Fitting (read ++ more) m ∧
        StopsAt (read ++ more) c fault := by
  induction rest generalizing read value with
  | nil =>
      rw [readDigits]
      constructor
      · intro h
        contradiction
      · rintro ⟨more, c, after, m, hsplit, -⟩
        simp at hsplit
  | cons c rest ih =>
      rcases hread.next_or_stops c with hnext | ⟨fault', hstop⟩
      · rw [readDigits_of_fitting hnext, ih hnext]
        constructor
        · rintro ⟨more, d, after, m, rfl, hmore, hd⟩
          rw [List.append_assoc] at hmore hd
          exact ⟨c :: more, d, after, m, rfl, hmore, hd⟩
        · rintro ⟨more, d, after, m, hsplit, hmore, hd⟩
          cases more with
          | nil =>
              rw [List.append_nil] at hd
              obtain ⟨rfl, rfl⟩ := List.cons.inj hsplit
              exact absurd hnext hd.not_fitting
          | cons c' more =>
              obtain ⟨rfl, rfl⟩ := List.cons.inj hsplit
              refine ⟨more, d, after, m, rfl, ?_, ?_⟩
              · rwa [List.append_assoc]
              · rwa [List.append_assoc]
      · rw [readDigits_of_stopsAt rest hread hstop, Except.error.injEq]
        constructor
        · rintro rfl
          exact ⟨[], c, rest, value, rfl, by rwa [List.append_nil], by rwa [List.append_nil]⟩
        · rintro ⟨more, d, after, m, hsplit, hmore, hd⟩
          cases more with
          | nil =>
              rw [List.append_nil] at hd
              obtain ⟨rfl, rfl⟩ := List.cons.inj hsplit
              have hagain := readDigits_of_stopsAt rest hread hd
              rw [readDigits_of_stopsAt rest hread hstop, Except.error.injEq] at hagain
              exact hagain
          | cons c' more =>
              obtain ⟨rfl, rfl⟩ := List.cons.inj hsplit
              exact absurd hmore hstop.not_fitting

end

section

variable {cs : List Char} {n : Nat} {fault : NaturalFault}

/-- Nothing but a plus sign is ever left out. -/
theorem eq_unsigned_or (cs : List Char) : cs = unsigned cs ∨ cs = '+' :: unsigned cs := by
  unfold unsigned
  split
  · exact .inr rfl
  · exact .inl rfl

theorem unsigned_ne_nil (h : cs ≠ []) : unsigned cs ≠ [] := by
  unfold unsigned
  split
  · simp
  · exact h

theorem unsigned_of_head_ne {c : Char} {rest : List Char} (hc : c ≠ '+') :
    unsigned (c :: rest) = c :: rest := by
  unfold unsigned
  split
  next heq => exact absurd (List.cons.inj heq).1 hc
  next => rfl

theorem readNatural_of_ne_nil (h : cs ≠ []) : readNatural cs = readDigits 0 (unsigned cs) := by
  obtain ⟨c, rest, rfl⟩ := List.exists_cons_of_ne_nil h
  by_cases hc : c = '+'
  · subst hc
    cases rest with
    | nil => rfl
    | cons d rest => rfl
  · rw [unsigned_of_head_ne hc]
    unfold readNatural
    split
    next heq => contradiction
    next heq => exact absurd (List.cons.inj heq).1 hc
    next heq => exact absurd (List.cons.inj heq).1 hc
    next => rfl

/-- A count is made of the digits behind its plus sign, if it has one. -/
theorem isCount_iff (h : cs ≠ []) : IsCount cs n ↔ Fitting (unsigned cs) n := by
  constructor
  · rintro ⟨digits, hcs, hne, hdigits⟩
    obtain ⟨c, rest, rfl⟩ := List.exists_cons_of_ne_nil hne
    rcases hcs with rfl | rfl
    · have hc : c ≠ '+' := by
        rintro rfl
        exact absurd (hdigits.all '+' (by simp)) (by decide)
      rwa [unsigned_of_head_ne hc]
    · exact hdigits
  · intro hdigits
    exact ⟨unsigned cs, eq_unsigned_or cs, unsigned_ne_nil h, hdigits⟩

/-- A count is written with digits and a plus sign alone. -/
theorem IsCount.mem {c : Char} (h : IsCount cs n) (hc : c ∈ cs) : c.isDigit = true ∨ c = '+' := by
  obtain ⟨digits, rfl | rfl, -, hdigits⟩ := h
  · exact .inl (hdigits.all c hc)
  · rcases List.mem_cons.1 hc with rfl | hc
    · exact .inr rfl
    · exact .inl (hdigits.all c hc)

/-- What is read as a count is one, with its value. -/
theorem readNatural_eq_ok_iff : readNatural cs = .ok n ↔ IsCount cs n := by
  by_cases h : cs = []
  · subst h
    constructor
    · intro hread
      contradiction
    · rintro ⟨digits, hcs, hne, -⟩
      simp [hne.symm] at hcs
  · rw [readNatural_of_ne_nil h, readDigits_eq_ok_iff fitting_nil, List.nil_append, isCount_iff h]

/-- What is refused as a count is none, for the fault that is given. -/
theorem readNatural_eq_error_iff : readNatural cs = .error fault ↔ NoCount cs fault := by
  by_cases h : cs = []
  · subst h
    constructor
    · intro hread
      cases hread
      exact .empty
    · intro hfault
      cases hfault with
      | empty => rfl
      | stops hcs => simp [unsigned] at hcs
  · rw [readNatural_of_ne_nil h, readDigits_eq_error_iff fitting_nil]
    constructor
    · rintro ⟨read, c, after, n, hcs, hread, hstop⟩
      exact .stops hcs hread hstop
    · intro hfault
      cases hfault with
      | empty => contradiction
      | stops hcs hread hstop => exact ⟨_, _, _, _, hcs, hread, hstop⟩

end

end FormRules.Number
