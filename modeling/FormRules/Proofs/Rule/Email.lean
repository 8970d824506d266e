import FormRules.Proofs.Pattern.CharSet
import FormRules.Proofs.Pattern.Language
import FormRules.Proofs.Pattern.Matching
import FormRules.Proofs.Rule.Verdict
import FormRules.Proofs.Value
import FormRules.Rule.Custom
import Mathlib.Data.List.Chain

/-!
# E-mail addresses of the custom rule

The shape of an address allows a separator before every run of word characters,
and so it can match one address in many ways.  What it describes is simple: two
words with single dots and hyphens inside, an at sign between them, and a dot
before the last two or three characters.
-/

namespace FormRules

namespace Shape

open Pattern

/-- An ASCII letter or digit, or the low line. -/
def IsWord (c : Char) : Prop := c.isAlphanum = true ∨ c = '_'

/-- A character that can stand between two word characters. -/
def IsSeparator (c : Char) : Prop := c = '.' ∨ c = '-'

/-- Word characters and separators, where a separator stands neither at an end
nor next to another one. -/
structure DottedWord (w : List Char) : Prop where
  ne_nil : w ≠ []
  chars : ∀ c ∈ w, IsWord c ∨ IsSeparator c
  head : ∀ c, w.head? = some c → IsWord c
  last : ∀ c, w.getLast? = some c → IsWord c
  apart : w.IsChain fun c d => ¬ (IsSeparator c ∧ IsSeparator d)

/-- Two dotted words with an at sign between them.  The last separator of the
second one is a dot with two or three characters behind it. -/
def EmailAddress (t : List Char) : Prop :=
  ∃ mailbox host, t = mailbox ++ '@' :: host ∧ '@' ∉ mailbox ∧ '@' ∉ host ∧
    DottedWord mailbox ∧ DottedWord host ∧
    ∃ before label, host = before ++ '.' :: label ∧ (∀ c ∈ label, ¬ IsSeparator c) ∧
      2 ≤ label.length ∧ label.length ≤ 3

section

variable {c d : Char} {u v w t : List Char}

theorem IsWord.not_isSeparator (h : IsWord c) : ¬ IsSeparator c := by
  rintro (rfl | rfl) <;> revert h <;> simp [IsWord]

theorem IsWord.ne_at (h : IsWord c) : c ≠ '@' := by
  rintro rfl
  revert h
  simp [IsWord]

theorem mem_separators : (CharSet.ofString ".-").mem c = true ↔ IsSeparator c := by
  rw [CharSet.mem_ofString]
  simp [IsSeparator]

/-! ### Dotted words -/

/-- Word characters alone are a dotted word. -/
theorem dottedWord_of_word (hne : w ≠ []) (h : ∀ c ∈ w, IsWord c) : DottedWord w where
  ne_nil := hne
  chars c hc := .inl (h c hc)
  head c hc := h c (List.mem_of_mem_head? hc)
  last c hc := h c (List.mem_of_mem_getLast? hc)
  apart := by
    rw [List.isChain_iff_getElem]
    intro i hi hboth
    exact (h _ (List.getElem_mem _)).not_isSeparator hboth.1

/-- Dotted words in a row are one. -/
theorem DottedWord.append (hv : DottedWord v) (hw : DottedWord w) : DottedWord (v ++ w) where
  ne_nil := by simp [hv.ne_nil]
  chars c hc := by
    rcases List.mem_append.1 hc with hc | hc
    · exact hv.chars c hc
    · exact hw.chars c hc
  head c hc := by
    rw [List.head?_append_of_ne_nil _ hv.ne_nil] at hc
    exact hv.head c hc
  last c hc := by
    rw [List.getLast?_append_of_ne_nil _ hw.ne_nil] at hc
    exact hw.last c hc
  apart := by
    refine hv.apart.append hw.apart ?_
    intro c hc d _ hboth
    exact (hv.last c hc).not_isSeparator hboth.1

/-- A separator between two dotted words makes one of them. -/
theorem DottedWord.append_cons (hv : DottedWord v) (hc : IsSeparator c) (hw : DottedWord w) :
    DottedWord (v ++ c :: w) where
  ne_nil := by simp
  chars d hd := by
    rcases List.mem_append.1 hd with hd | hd
    · exact hv.chars d hd
    · rcases List.mem_cons.1 hd with rfl | hd
      · exact .inr hc
      · exact hw.chars d hd
  head d hd := by
    rw [List.head?_append_of_ne_nil _ hv.ne_nil] at hd
    exact hv.head d hd
  last d hd := by
    rw [List.getLast?_append_of_ne_nil _ (by simp), List.getLast?_cons_of_ne_nil hw.ne_nil] at hd
    exact hw.last d hd
  apart := by
    refine hv.apart.append (List.isChain_cons.2 ⟨?_, hw.apart⟩) ?_
    · intro d hd hboth
      exact (hw.head d hd).not_isSeparator hboth.2
    · intro d hd e _ hboth
      exact (hv.last d hd).not_isSeparator hboth.1

/-- A start of a dotted word is one if it ends in a word character. -/
theorem DottedWord.of_append (h : DottedWord (v ++ w)) (hne : v ≠ [])
    (hlast : ∀ c, v.getLast? = some c → IsWord c) : DottedWord v where
  ne_nil := hne
  chars c hc := h.chars c (List.mem_append_left _ hc)
  head c hc := h.head c (by rwa [List.head?_append_of_ne_nil _ hne])
  last := hlast
  apart := (List.isChain_append.1 h.apart).1

/-- What stands before a separator of a dotted word is a dotted word. -/
theorem DottedWord.before (h : DottedWord (v ++ c :: w)) (hc : IsSeparator c) : DottedWord v := by
  have hne : v ≠ [] := by
    rintro rfl
    exact (h.head c rfl).not_isSeparator hc
  refine h.of_append hne fun d hd => ?_
  rcases h.chars d (List.mem_append_left _ (List.mem_of_mem_getLast? hd)) with hword | hsep
  · exact hword
  · exact absurd ⟨hsep, hc⟩ ((List.isChain_append.1 h.apart).2.2 d hd c rfl)

/-- The last character of a dotted word stands alone, behind a dotted word, or
behind a dotted word and a separator. -/
theorem DottedWord.last_cases (h : DottedWord w) :
    ∃ c, IsWord c ∧ (w = [c] ∨ ∃ v, DottedWord v ∧
      (w = v ++ [c] ∨ ∃ d, IsSeparator d ∧ w = v ++ [d, c])) := by
  obtain ⟨v, c, rfl⟩ := (List.eq_nil_or_concat' w).resolve_left h.ne_nil
  have hc : IsWord c := h.last c (by simp)
  refine ⟨c, hc, ?_⟩
  rcases List.eq_nil_or_concat' v with rfl | ⟨v, d, rfl⟩
  · exact .inl rfl
  · right
    rcases h.chars d (by simp) with hword | hsep
    · refine ⟨v ++ [d], h.of_append (by simp) fun e he => ?_, .inl rfl⟩
      obtain rfl : d = e := by simpa using he
      exact hword
    · rw [List.append_assoc] at h ⊢
      exact ⟨v, h.before hsep, .inr ⟨d, hsep, rfl⟩⟩

/-! ### The language of dotted words -/

theorem mem_language_word :
    w ∈ (many1 (one .asciiWord)).language ↔ w ≠ [] ∧ ∀ c ∈ w, IsWord c := by
  rw [mem_language_many1_one]
  simp only [CharSet.mem_asciiWord, IsWord]

/-- A run of word characters, with a separator before it or without. -/
def piece : Pattern := seq (optional (one (.ofString ".-"))) (many1 (one .asciiWord))

theorem mem_language_piece : w ∈ piece.language ↔
    ∃ v, v ≠ [] ∧ (∀ c ∈ v, IsWord c) ∧ (w = v ∨ ∃ d, IsSeparator d ∧ w = d :: v) := by
  rw [piece, mem_language_seq]
  simp only [mem_language_optional, mem_language_word, mem_language_one, mem_separators]
  constructor
  · rintro ⟨_, v, rfl, rfl | ⟨d, rfl, hd⟩, hne, hword⟩
    · exact ⟨v, hne, hword, .inl rfl⟩
    · exact ⟨v, hne, hword, .inr ⟨d, hd, rfl⟩⟩
  · rintro ⟨v, hne, hword, rfl | ⟨d, hd, rfl⟩⟩
    · exact ⟨[], _, rfl, .inl rfl, hne, hword⟩
    · exact ⟨[d], v, rfl, .inr ⟨d, rfl, hd⟩, hne, hword⟩

theorem DottedWord.append_piece (hv : DottedWord v) (hw : w ∈ piece.language) :
    DottedWord (v ++ w) := by
  obtain ⟨u, hne, hword, rfl | ⟨d, hd, rfl⟩⟩ := mem_language_piece.1 hw
  · exact hv.append (dottedWord_of_word hne hword)
  · exact hv.append_cons hd (dottedWord_of_word hne hword)

theorem mem_language_dottedWord_iff : w ∈ dottedWord.language ↔
    ∃ u, u ≠ [] ∧ (∀ c ∈ u, IsWord c) ∧
      ∃ ws : List (List Char), w = u ++ ws.flatten ∧ ∀ v ∈ ws, v ∈ piece.language := by
  rw [dottedWord, ← piece, mem_language_seq]
  simp only [mem_language_word, mem_language_many]
  constructor
  · rintro ⟨u, _, rfl, ⟨hne, hword⟩, ws, rfl, hws⟩
    exact ⟨u, hne, hword, ws, rfl, hws⟩
  · rintro ⟨u, hne, hword, ws, rfl, hws⟩
    exact ⟨u, _, rfl, ⟨hne, hword⟩, ws, rfl, hws⟩

/-- One piece more keeps a word in the language. -/
theorem append_mem_language_dottedWord (hw : w ∈ dottedWord.language) (hv : v ∈ piece.language) :
    w ++ v ∈ dottedWord.language := by
  obtain ⟨u, hne, hword, ws, rfl, hws⟩ := mem_language_dottedWord_iff.1 hw
  refine mem_language_dottedWord_iff.2 ⟨u, hne, hword, ws ++ [v], by simp, ?_⟩
  intro x hx
  rcases List.mem_append.1 hx with hx | hx
  · exact hws x hx
  · rwa [List.mem_singleton.1 hx]

/-- Pieces behind a dotted word make a dotted word. -/
theorem DottedWord.append_pieces (hw : DottedWord w) {ws : List (List Char)}
    (hws : ∀ v ∈ ws, v ∈ piece.language) : DottedWord (w ++ ws.flatten) := by
  induction ws generalizing w with
  | nil => simpa using hw
  | cons v ws ih =>
      rw [List.flatten_cons, ← List.append_assoc]
      exact ih (hw.append_piece (hws v (by simp))) fun x hx => hws x (by simp [hx])

theorem mem_language_dottedWord : w ∈ dottedWord.language ↔ DottedWord w := by
  constructor
  · intro hw
    obtain ⟨u, hne, hword, ws, rfl, hws⟩ := mem_language_dottedWord_iff.1 hw
    exact (dottedWord_of_word hne hword).append_pieces hws
  · -- By induction on the length: the last one or two characters are a piece.
    intro hw
    induction hlen : w.length using Nat.strong_induction_on generalizing w with
    | h n ih =>
        obtain ⟨c, hc, rfl | ⟨v, hv, hcases⟩⟩ := hw.last_cases
        · exact mem_language_dottedWord_iff.2 ⟨[c], by simp, by simpa using hc, [], by simp⟩
        · have hlast : ∀ d ∈ [c], IsWord d := by simpa using hc
          rcases hcases with rfl | ⟨d, hd, rfl⟩
          · refine append_mem_language_dottedWord (ih v.length ?_ hv rfl) ?_
            · simp [← hlen]
            · exact mem_language_piece.2 ⟨[c], by simp, hlast, .inl rfl⟩
          · refine append_mem_language_dottedWord (ih v.length ?_ hv rfl) ?_
            · simp [← hlen]
            · exact mem_language_piece.2 ⟨[c], by simp, hlast, .inr ⟨d, hd, rfl⟩⟩

/-! ### The language of addresses -/

/-- A dot and two or three word characters. -/
def label : Pattern := seq (one (.single '.')) (iter (one .asciiWord) 2 (some 3))

theorem mem_language_label : w ∈ label.language ↔
    ∃ v, w = '.' :: v ∧ (∀ c ∈ v, IsWord c) ∧ 2 ≤ v.length ∧ v.length ≤ 3 := by
  rw [label, mem_language_seq]
  simp only [mem_language_one, CharSet.mem_single, mem_language_iter_one, CharSet.mem_asciiWord,
    Option.some.injEq, forall_eq']
  constructor
  · rintro ⟨_, v, rfl, ⟨c, rfl, rfl⟩, hword, hlen⟩
    exact ⟨v, rfl, hword, hlen⟩
  · rintro ⟨v, rfl, hword, hlen⟩
    exact ⟨['.'], v, rfl, ⟨'.', rfl, rfl⟩, hword, hlen⟩

theorem label_subset_piece (h : w ∈ label.language) : w ∈ piece.language := by
  obtain ⟨v, rfl, hword, hlen, -⟩ := mem_language_label.1 h
  refine mem_language_piece.2 ⟨v, ?_, hword, .inr ⟨'.', .inl rfl, rfl⟩⟩
  rintro rfl
  simp at hlen

theorem DottedWord.at_notMem (h : DottedWord w) : '@' ∉ w := by
  intro hmem
  rcases h.chars '@' hmem with hword | hsep
  · exact hword.ne_at rfl
  · revert hsep
    simp [IsSeparator]

/-- A dotted word and labels behind it are a dotted word with a label at its
end. -/
theorem mem_language_host :
    (∃ u v, w = u ++ v ∧ u ∈ dottedWord.language ∧ v ∈ (many1 label).language) ↔
      DottedWord w ∧ ∃ u v, w = u ++ '.' :: v ∧ (∀ c ∈ v, ¬ IsSeparator c) ∧
        2 ≤ v.length ∧ v.length ≤ 3 := by
  constructor
  · rintro ⟨u, v, rfl, hu, hv⟩
    obtain ⟨ws, rfl, hne, hws⟩ := mem_language_many1.1 hv
    have hu := mem_language_dottedWord.1 hu
    refine ⟨hu.append_pieces fun v hv => label_subset_piece (hws v hv), ?_⟩
    obtain ⟨ws, last, rfl⟩ := (List.eq_nil_or_concat' ws).resolve_left hne
    obtain ⟨v, rfl, hword, hlen⟩ := mem_language_label.1 (hws last (by simp))
    exact ⟨u ++ ws.flatten, v, by simp, fun c hc => (hword c hc).not_isSeparator, hlen⟩
  · rintro ⟨hw, u, v, rfl, hv, hlen⟩
    have hword : ∀ c ∈ v, IsWord c := fun c hc =>
      (hw.chars c (by simp [hc])).resolve_right (hv c hc)
    refine ⟨u, '.' :: v, rfl, mem_language_dottedWord.2 (hw.before (.inl rfl)), ?_⟩
    refine mem_language_many1.2 ⟨['.' :: v], by simp, by simp, ?_⟩
    intro x hx
    rw [List.mem_singleton.1 hx]
    exact mem_language_label.2 ⟨v, rfl, hword, hlen⟩

/-- The parts of an address between the anchors. -/
def emailParts : List Pattern := [dottedWord, one (.single '@'), dottedWord, many1 label]

theorem mem_language_emailParts : t ∈ (seqAll emailParts).language ↔ EmailAddress t := by
  simp only [emailParts, mem_language_seqAll_cons, mem_language_seqAll_nil, mem_language_one,
    CharSet.mem_single]
  constructor
  · rintro ⟨mailbox, _, rfl, hmailbox, _, _, rfl, ⟨c, rfl, rfl⟩, u, _, rfl, hu, v, _, rfl, hv, rfl⟩
    have hmailbox := mem_language_dottedWord.1 hmailbox
    obtain ⟨hhost, hlabel⟩ := mem_language_host.1 ⟨u, v, rfl, hu, hv⟩
    refine ⟨mailbox, u ++ v, by simp, hmailbox.at_notMem, hhost.at_notMem, hmailbox, hhost, hlabel⟩
  · rintro ⟨mailbox, host, rfl, -, -, hmailbox, hhost, hlabel⟩
    obtain ⟨u, v, rfl, hu, hv⟩ := mem_language_host.2 ⟨hhost, hlabel⟩
    exact ⟨mailbox, _, rfl, mem_language_dottedWord.2 hmailbox, ['@'], _, rfl, ⟨'@', rfl, rfl⟩,
      u, v, by simp, hu, v, [], by simp, hv, rfl⟩

theorem isLookFree_dottedWord : dottedWord.IsLookFree := ⟨trivial, trivial, trivial⟩

/-- The shape of an address occurs in the texts that are addresses. -/
theorem occurs_email_iff : email.occurs t = true ↔ EmailAddress t := by
  have hfree : ∀ p ∈ emailParts, p.IsLookFree := by
    intro p hp
    simp only [emailParts, List.mem_cons, List.not_mem_nil, or_false] at hp
    rcases hp with rfl | rfl | rfl | rfl
    · exact isLookFree_dottedWord
    · trivial
    · exact isLookFree_dottedWord
    · exact ⟨trivial, trivial⟩
  rw [occurs_eq_true_iff, ← mem_language_emailParts]
  exact occurs_anchored_iff_mem_language hfree

/-! ### The characters of addresses -/

/-- A visible ASCII character. -/
def IsVisible (c : Char) : Prop := 0x21 ≤ c.toNat ∧ c.toNat ≤ 0x7E

theorem IsVisible.isBlank_eq_false (h : IsVisible c) : Text.isBlank c = false := by
  obtain ⟨hlow, hhigh⟩ := h
  simp only [Text.isBlank, Bool.or_eq_false_iff, Bool.and_eq_false_iff, decide_eq_false_iff_not,
    beq_eq_false_iff_ne]
  omega

theorem isVisible_of_isAlphanum (h : c.isAlphanum = true) : IsVisible c := by
  rw [Char.isAlphanum, Bool.or_eq_true, isAlpha_iff, isDigit_iff] at h
  unfold IsVisible
  omega

theorem DottedWord.isVisible (h : DottedWord w) (hc : c ∈ w) : IsVisible c := by
  rcases h.chars c hc with (hword | rfl) | rfl | rfl
  · exact isVisible_of_isAlphanum hword
  all_goals exact ⟨by decide, by decide⟩

theorem EmailAddress.isVisible (h : EmailAddress t) (hc : c ∈ t) : IsVisible c := by
  obtain ⟨mailbox, host, rfl, -, -, hmailbox, hhost, -⟩ := h
  rcases List.mem_append.1 hc with hc | hc
  · exact hmailbox.isVisible hc
  · rcases List.mem_cons.1 hc with rfl | hc
    · exact ⟨by decide, by decide⟩
    · exact hhost.isVisible hc

theorem EmailAddress.at_mem (h : EmailAddress t) : '@' ∈ t := by
  obtain ⟨mailbox, host, rfl, -⟩ := h
  simp

end

end Shape

namespace CustomRule

open Shape

theorem isEmail_eq_true_iff (value : Value) : isEmail value = true ↔
    value.isEmpty = true ∨ ∃ s, value = .text s ∧ EmailAddress s.toList := by
  rw [isEmail, hasShape, Bool.or_eq_true, occurs_email_iff,
    Value.render_iff_text (by decide) fun _ => EmailAddress.at_mem]

/-- **The addresses that the custom rule passes.**  An empty value passes, and so
does a text of two dotted words with an at sign between them, where the last
separator is a dot and two or three characters stand behind it.  All other values
fail, among them each text with a character that is blank or outside of ASCII,
each number and each truth value. -/
theorem email_addresses_pass :
    ∃ v, validEmail.build none = .ok v ∧
      v.Decides "valid_email" (fun value =>
        value.isEmpty = true ∨ ∃ s, value = .text s ∧ EmailAddress s.toList) ∧
      ∀ fields,
        (∀ s, (∃ c ∈ s.toList, 0x7F < c.toNat ∨ Text.isBlank c = true) →
          v.validate (.text s) fields = some "valid_email") ∧
        (∀ x, v.validate (.number x) fields = some "valid_email") ∧
        ∀ b, v.validate (.bool b) fields = some "valid_email" := by
  have hdecides := Validator.decides_of_test validEmail.name isEmail_eq_true_iff
  refine ⟨_, rfl, hdecides, fun fields => ⟨?_, hdecides.fails_unless_text fields⟩⟩
  rintro s ⟨c, hc, hforeign⟩
  refine hdecides.fails ?_ fields
  rintro (hempty | ⟨s', hs, haddress⟩)
  · rw [Value.isEmpty, String.isEmpty_iff] at hempty
    simp [hempty] at hc
  · obtain rfl := Value.text.inj hs
    have hvisible := haddress.isVisible hc
    rcases hforeign with hhigh | hblank
    · have := hvisible.2
      omega
    · rw [hvisible.isBlank_eq_false] at hblank
      contradiction

end CustomRule

end FormRules
