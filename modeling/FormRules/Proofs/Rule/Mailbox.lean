import FormRules.Proofs.Pattern.CharSet
import FormRules.Proofs.Pattern.Language
import FormRules.Proofs.Pattern.Matching
import FormRules.Proofs.Rule.Verdict
import FormRules.Proofs.Text.Trim
import FormRules.Proofs.Value
import FormRules.Rule.Standard

/-!
# E-mail addresses of the standard rule

The host of an address is what labels with dots between them make: no label is
longer than sixty-three characters, and none has a hyphen at an end.  The shape
says so by a counted repetition between two fixed characters.  The local part is
free but for its alphabet.
-/

namespace FormRules

namespace Shape

open Pattern

/-- A character of a local part. -/
def IsMailbox (c : Char) : Prop :=
  c.isAlphanum = true ∨ c ∈ ".!#$%&'*+/=?^_`\x7b|\x7d~-".toList

/-- One to sixty-three letters, digits and hyphens with no hyphen at an end. -/
structure HostLabel (w : List Char) : Prop where
  one_le : 1 ≤ w.length
  length_le : w.length ≤ 63
  chars : ∀ c ∈ w, c.isAlphanum = true ∨ c = '-'
  head : ∀ c, w.head? = some c → c.isAlphanum = true
  last : ∀ c, w.getLast? = some c → c.isAlphanum = true

/-- A local part and a host with an at sign between them.  The host is labels
with dots between them. -/
def MailAddress (t : List Char) : Prop :=
  ∃ mailbox host, t = mailbox ++ '@' :: host ∧ '@' ∉ mailbox ∧ '@' ∉ host ∧
    mailbox ≠ [] ∧ (∀ c ∈ mailbox, IsMailbox c) ∧ ∀ label ∈ host.splitOn '.', HostLabel label

section

variable {c d : Char} {t u v w : List Char} {labels : List (List Char)}

/-! ### Labels -/

theorem hostLabel_singleton (hc : c.isAlphanum = true) : HostLabel [c] where
  one_le := by simp
  length_le := by simp
  chars d hd := .inl (by rwa [List.mem_singleton.1 hd])
  head d hd := by rwa [← Option.some.inj hd]
  last d hd := by rwa [← Option.some.inj hd]

/-- Letters, digits and hyphens between two letters or digits are a label, if
they are not too many. -/
theorem hostLabel_between (hc : c.isAlphanum = true) (hd : d.isAlphanum = true)
    (hw : ∀ e ∈ w, e.isAlphanum = true ∨ e = '-') (hlen : w.length ≤ 61) :
    HostLabel (c :: (w ++ [d])) where
  one_le := by simp
  length_le := by
    simp only [List.length_cons, List.length_append, List.length_nil]
    omega
  chars e he := by
    rcases List.mem_cons.1 he with rfl | he
    · exact .inl hc
    rcases List.mem_append.1 he with he | he
    · exact hw e he
    · rw [List.mem_singleton.1 he]
      exact .inl hd
  head e he := by rwa [← Option.some.inj he]
  last e he := by
    rw [← List.cons_append, List.getLast?_concat] at he
    rwa [← Option.some.inj he]

/-- A label is one character, or it has a first and a last one. -/
theorem HostLabel.ends (h : HostLabel w) :
    ∃ c, c.isAlphanum = true ∧ (w = [c] ∨ ∃ v d, w = c :: (v ++ [d]) ∧
      d.isAlphanum = true ∧ (∀ e ∈ v, e.isAlphanum = true ∨ e = '-') ∧ v.length ≤ 61) := by
  cases w with
  | nil => exact absurd h.one_le (by simp)
  | cons c w =>
      refine ⟨c, h.head c rfl, ?_⟩
      rcases List.eq_nil_or_concat' w with rfl | ⟨v, d, rfl⟩
      · exact .inl rfl
      · have hlast : d.isAlphanum = true := by
          apply h.last d
          rw [← List.cons_append, List.getLast?_concat]
        have hlen := h.length_le
        simp only [List.length_cons, List.length_append, List.length_nil] at hlen
        exact .inr ⟨v, d, rfl, hlast, fun e he => h.chars e (by simp [he]), by omega⟩

theorem mem_language_hostLabel : w ∈ hostLabel.language ↔ HostLabel w := by
  simp only [hostLabel, mem_language_seq, mem_language_optional, mem_language_iter_one,
    mem_language_one, CharSet.mem_union, CharSet.mem_asciiAlphanumeric, CharSet.mem_single,
    Option.some.injEq, forall_eq', Nat.zero_le, true_and]
  constructor
  · rintro ⟨_, _, rfl, ⟨c, rfl, hc⟩, rfl | ⟨v, _, rfl, ⟨hv, hlen⟩, d, rfl, hd⟩⟩
    · exact hostLabel_singleton hc
    · exact hostLabel_between hc hd hv hlen
  · intro h
    obtain ⟨c, hc, rfl | ⟨v, d, rfl, hd, hv, hlen⟩⟩ := h.ends
    · exact ⟨[c], [], rfl, ⟨c, rfl, hc⟩, .inl rfl⟩
    · exact ⟨[c], v ++ [d], rfl, ⟨c, rfl, hc⟩, .inr ⟨v, [d], rfl, ⟨hv, hlen⟩, d, rfl, hd⟩⟩

theorem HostLabel.notMem (h : HostLabel w) (hc : ¬ (c.isAlphanum = true ∨ c = '-')) : c ∉ w :=
  fun hmem => hc (h.chars c hmem)

/-! ### Hosts -/

/-- A label with a dot before it. -/
def dottedLabel : Pattern := seq (one (.single '.')) hostLabel

theorem mem_language_dottedLabel :
    w ∈ dottedLabel.language ↔ ∃ label, w = '.' :: label ∧ HostLabel label := by
  simp only [dottedLabel, mem_language_seq, mem_language_one, CharSet.mem_single,
    mem_language_hostLabel]
  constructor
  · rintro ⟨_, label, rfl, ⟨c, rfl, rfl⟩, hlabel⟩
    exact ⟨label, rfl, hlabel⟩
  · rintro ⟨label, rfl, hlabel⟩
    exact ⟨['.'], label, rfl, ⟨'.', rfl, rfl⟩, hlabel⟩

theorem intercalate_dot_cons (label : List Char) (labels : List (List Char)) :
    ['.'].intercalate (label :: labels) = label ++ (labels.map ('.' :: ·)).flatten := by
  induction labels generalizing label with
  | nil => simp
  | cons next labels ih => rw [List.intercalate_cons_cons, ih]; simp

theorem mem_language_dottedLabels : w ∈ (many dottedLabel).language ↔
    ∃ labels : List (List Char), w = (labels.map ('.' :: ·)).flatten ∧
      ∀ label ∈ labels, HostLabel label := by
  rw [mem_language_many]
  constructor
  · rintro ⟨ws, rfl, hws⟩
    have hdotted : ∀ u ∈ ws, '.' :: u.tail = u ∧ HostLabel u.tail := by
      intro u hu
      obtain ⟨label, rfl, hlabel⟩ := mem_language_dottedLabel.1 (hws u hu)
      exact ⟨rfl, hlabel⟩
    have hmap : (ws.map List.tail).map ('.' :: ·) = ws := by
      rw [List.map_map]
      exact (List.map_congr_left fun u hu => (hdotted u hu).1).trans (List.map_id ws)
    refine ⟨ws.map List.tail, by rw [hmap], ?_⟩
    intro label hlabel
    obtain ⟨u, hu, rfl⟩ := List.mem_map.1 hlabel
    exact (hdotted u hu).2
  · rintro ⟨labels, rfl, hlabels⟩
    refine ⟨labels.map ('.' :: ·), rfl, ?_⟩
    intro u hu
    obtain ⟨label, hlabel, rfl⟩ := List.mem_map.1 hu
    exact mem_language_dottedLabel.2 ⟨label, rfl, hlabels label hlabel⟩

/-- A label with dotted labels behind it is a text that its dots cut into
labels. -/
theorem mem_language_labels :
    (∃ u v, w = u ++ v ∧ u ∈ hostLabel.language ∧ v ∈ (many dottedLabel).language) ↔
      ∀ label ∈ w.splitOn '.', HostLabel label := by
  constructor
  · rintro ⟨u, v, rfl, hu, hv⟩
    have hu := mem_language_hostLabel.1 hu
    obtain ⟨labels, rfl, hlabels⟩ := mem_language_dottedLabels.1 hv
    have hall : ∀ label ∈ u :: labels, HostLabel label := List.forall_mem_cons.2 ⟨hu, hlabels⟩
    have hdot : ∀ label ∈ u :: labels, '.' ∉ label := fun label hlabel =>
      (hall label hlabel).notMem (by decide)
    rwa [← intercalate_dot_cons, List.splitOn_intercalate '.' hdot (by simp)]
  · intro hall
    obtain ⟨u, labels, hsplit⟩ := List.exists_cons_of_ne_nil (List.splitOn_ne_nil '.' w)
    rw [hsplit, List.forall_mem_cons] at hall
    refine ⟨u, (labels.map ('.' :: ·)).flatten, ?_, mem_language_hostLabel.2 hall.1,
      mem_language_dottedLabels.2 ⟨labels, rfl, hall.2⟩⟩
    rw [← intercalate_dot_cons, ← hsplit, List.intercalate_splitOn]

/-- A character of a host is a dot or stands in a label. -/
theorem mem_labels (hc : c ∈ w) : c = '.' ∨ ∃ label ∈ w.splitOn '.', c ∈ label := by
  obtain ⟨u, labels, hsplit⟩ := List.exists_cons_of_ne_nil (List.splitOn_ne_nil '.' w)
  have hjoin : ['.'].intercalate (w.splitOn '.') = w := List.intercalate_splitOn '.'
  rw [← hjoin, hsplit, intercalate_dot_cons] at hc
  rw [hsplit]
  rcases List.mem_append.1 hc with hc | hc
  · exact .inr ⟨u, by simp, hc⟩
  · simp only [List.mem_flatten, List.mem_map] at hc
    obtain ⟨_, ⟨label, hlabel, rfl⟩, hc⟩ := hc
    rcases List.mem_cons.1 hc with rfl | hc
    · exact .inl rfl
    · exact .inr ⟨label, List.mem_cons_of_mem _ hlabel, hc⟩

theorem at_notMem_of_labels (h : ∀ label ∈ w.splitOn '.', HostLabel label) : '@' ∉ w := by
  intro hmem
  rcases mem_labels hmem with hdot | ⟨label, hlabel, hat⟩
  · contradiction
  · exact (h label hlabel).notMem (by decide) hat

/-! ### Addresses -/

theorem mem_mailboxSet : mailboxSet.mem c = true ↔ IsMailbox c := by
  rw [mailboxSet, CharSet.mem_union, CharSet.mem_asciiAlphanumeric, CharSet.mem_ofString, IsMailbox]

/-- The parts of an address between the anchors. -/
def mailboxParts : List Pattern :=
  [many1 (one mailboxSet), one (.single '@'), hostLabel, many dottedLabel]

theorem mem_language_mailboxParts : t ∈ (seqAll mailboxParts).language ↔ MailAddress t := by
  simp only [mailboxParts, mem_language_seqAll_cons, mem_language_seqAll_nil, mem_language_one,
    mem_language_many1_one, CharSet.mem_single, mem_mailboxSet]
  constructor
  · rintro ⟨mailbox, _, rfl, ⟨hne, hmailbox⟩, _, _, rfl, ⟨c, rfl, rfl⟩, u, _, rfl, hu, v, _, rfl,
      hv, rfl⟩
    have hlabels := mem_language_labels.1 ⟨u, v, rfl, hu, hv⟩
    refine ⟨mailbox, u ++ v, by simp, ?_, at_notMem_of_labels hlabels, hne, hmailbox, hlabels⟩
    exact fun hmem => absurd (hmailbox '@' hmem) (by simp [IsMailbox])
  · rintro ⟨mailbox, host, rfl, -, -, hne, hmailbox, hlabels⟩
    obtain ⟨u, v, rfl, hu, hv⟩ := mem_language_labels.2 hlabels
    exact ⟨mailbox, _, rfl, ⟨hne, hmailbox⟩, ['@'], _, rfl, ⟨'@', rfl, rfl⟩, u, v, by simp, hu,
      v, [], by simp, hv, rfl⟩

/-- The shape of an address occurs in the texts that are addresses. -/
theorem occurs_mailbox_iff : mailbox.occurs t = true ↔ MailAddress t := by
  have hfree : ∀ p ∈ mailboxParts, p.IsLookFree := by
    intro p hp
    simp only [mailboxParts, List.mem_cons, List.not_mem_nil, or_false] at hp
    rcases hp with rfl | rfl | rfl | rfl
    · trivial
    · trivial
    · exact ⟨trivial, trivial, trivial⟩
    · exact ⟨trivial, trivial, trivial, trivial⟩
  rw [occurs_eq_true_iff, ← mem_language_mailboxParts]
  exact occurs_anchored_iff_mem_language hfree

theorem MailAddress.at_mem (h : MailAddress t) : '@' ∈ t := by
  obtain ⟨mailbox, host, rfl, -⟩ := h
  simp

end

end Shape

namespace StandardRule

open Shape

theorem hasMatch_mailbox_iff (value : Value) : hasMatch mailbox value = true ↔
    value.isEmpty = true ∨ ∃ s, value = .text s ∧ MailAddress s.toList := by
  rw [hasMatch, Bool.or_eq_true, occurs_mailbox_iff,
    Value.render_iff_text (by decide) fun _ => MailAddress.at_mem]

/-- **The addresses that the standard rule passes.**  An empty value passes, and so
does a text of a local part and the labels of a host with an at sign between them.
All other values fail, among them each number and each truth value. -/
theorem mail_addresses_pass :
    ∃ v, Factory.standard.create "email" none = .ok v ∧
      v.Decides "email" (fun value =>
        value.isEmpty = true ∨ ∃ s, value = .text s ∧ MailAddress s.toList) ∧
      ∀ fields,
        (∀ x, v.validate (.number x) fields = some "email") ∧
        ∀ b, v.validate (.bool b) fields = some "email" := by
  have hdecides := Validator.decides_of_test email.name hasMatch_mailbox_iff
  exact ⟨_, rfl, hdecides, hdecides.fails_unless_text⟩

end StandardRule

end FormRules
