import FormRules.Proofs.Pattern.CharSet
import FormRules.Proofs.Pattern.Language
import FormRules.Proofs.Pattern.Matching
import FormRules.Proofs.Rule.Verdict
import FormRules.Proofs.Traversal
import FormRules.Proofs.Unicode.Casing
import FormRules.Proofs.Value
import FormRules.Rule.Custom

/-!
# Addresses of pages

The shape of the address of a page is about the start of a text.  A start is made
of fixed texts whose letters may have any case, and case is meant in the sense of
simple case folding, which brings two characters outside of ASCII with it.  Two
starts differ before the first dot of either, so a start with another character
for a dot or for the last slash is no start at all.
-/

namespace FormRules

namespace Shape

open Pattern Unicode

/-- May a character stand in place of a character of a fixed text?  Letters are
compared up to simple case folding. -/
def StandsFor (c d : Char) : Prop :=
  if c.isAlpha then simpleFold d.toNat = simpleFold c.toNat else d = c

/-- The characters of a word stand for those of a fixed text. -/
def Spells (s : String) (w : List Char) : Prop := List.Forall₂ StandsFor s.toList w

/-- What may stand before the name of the host. -/
def schemes : List String := ["http://", "https://", ""]

/-- What may stand between the scheme and the name of the host. -/
def subdomains : List String := ["www.", ""]

/-- The name of the host and a slash, with a scheme and a subdomain before it or
without. -/
def PageStart (w : List Char) : Prop :=
  ∃ scheme ∈ schemes, ∃ subdomain ∈ subdomains, Spells (scheme ++ subdomain ++ "facebook.com/") w

/-- A text that begins as the address of a page.  The rest does not matter. -/
def PageAddress (t : List Char) : Prop := ∃ w rest, t = w ++ rest ∧ PageStart w

section

variable {c d e : Char} {s s' : String} {t u v w w' : List Char} {i : Nat}

/-! ### Characters -/

/-- A character of ASCII that is no capital letter is what all characters fold to
that may stand for it. -/
theorem standsFor_iff (hc : IsSmall c.toNat) : StandsFor c d ↔ simpleFold d.toNat = c.toNat := by
  rw [StandsFor]
  split
  · rw [simpleFold_of_isRepresentative (isRepresentative_of_isSmall hc)]
  · next hletter =>
    rw [isAlpha_iff, not_or] at hletter
    have hforms : otherForms c.toNat = [] := by
      rw [otherForms, if_neg hletter.2, if_neg (by omega), if_neg (by omega)]
      rfl
    rw [simpleFold_eq_iff hc, hforms, Char.toNat_inj]
    simp

theorem StandsFor.unique (hc : IsSmall c.toNat) (hd : IsSmall d.toNat) (hce : StandsFor c e)
    (hde : StandsFor d e) : c = d := by
  rw [standsFor_iff hc] at hce
  rw [standsFor_iff hd, hce] at hde
  exact Char.toNat_inj.1 hde

/-- The forms of a small letter. -/
theorem standsFor_lower (hc : c.isLower = true) : StandsFor c d ↔
    d = c ∨ d = c.toUpper ∨ (c = 's' ∧ d = '\u017F') ∨ (c = 'k' ∧ d = '\u212A') := by
  have hrange : 0x61 ≤ c.toNat ∧ c.toNat ≤ 0x7A := isLower_iff.1 hc
  have hupper : c.toUpper.toNat = c.toNat - 0x20 := by
    have htable : ∀ n ≤ 0x7A, 0x61 ≤ n → (Char.ofNat n).toUpper.toNat = n - 0x20 := by
      decide +kernel
    simpa using htable c.toNat hrange.2 hrange.1
  rw [standsFor_iff ⟨by omega, by omega⟩, simpleFold_eq_iff ⟨by omega, by omega⟩, otherForms,
    if_pos hrange]
  have hs : 's'.toNat = 0x73 := rfl
  have hk : 'k'.toNat = 0x6B := rfl
  have hlong : '\u017F'.toNat = 0x17F := rfl
  have hkelvin : '\u212A'.toNat = 0x212A := rfl
  simp only [← Char.toNat_inj, hupper, hs, hk, hlong, hkelvin, List.mem_append, List.mem_singleton]
  split
  · next heq => simp [heq]
  · split
    · next heq => simp [heq]
    · next hne hne' => simp [hne, hne']

/-- What stands for a character of ASCII is in ASCII, or one of two characters. -/
theorem StandsFor.ascii_or (hc : IsSmall c.toNat) (h : StandsFor c d) :
    d.toNat ≤ 0x7F ∨ d = '\u017F' ∨ d = '\u212A' := by
  have hforms : ∀ m < 0x80, ∀ n ∈ otherForms m, n ≤ 0x7F ∨ n = 0x17F ∨ n = 0x212A := by
    decide +kernel
  rw [standsFor_iff hc, simpleFold_eq_iff hc] at h
  obtain ⟨hlow, -⟩ := hc
  rcases h with heq | hform
  · left
    omega
  · rcases hforms _ hlow _ hform with hle | heq | heq
    · exact .inl hle
    · exact .inr (.inl (Char.toNat_inj.1 heq))
    · exact .inr (.inr (Char.toNat_inj.1 heq))

/-! ### Fixed texts -/

/-- A fixed text of characters of ASCII without capital letters. -/
def IsSmallText (s : String) : Prop := ∀ c ∈ s.toList, IsSmall c.toNat

instance : DecidablePred IsSmallText := fun _ => List.decidableBAll _ _

/-- The pattern of fixed characters in any case is met by what stands for them. -/
theorem mem_language_folded {cs : List Char} (hcs : ∀ c ∈ cs, IsSmall c.toNat) :
    w ∈ (seqAll (cs.map fun c => one (.caseFold (.single c)))).language ↔
      List.Forall₂ StandsFor cs w := by
  induction cs generalizing w with
  | nil => rw [List.forall₂_nil_left_iff, List.map_nil, mem_language_seqAll_nil]
  | cons c cs ih =>
      rw [List.forall_mem_cons] at hcs
      rw [List.forall₂_cons_left_iff, List.map_cons, mem_language_seqAll_cons]
      simp only [mem_language_one, ih hcs.2,
        mem_caseFold_single (isRepresentative_of_isSmall hcs.1), ← standsFor_iff hcs.1]
      constructor
      · rintro ⟨_, v, rfl, ⟨d, rfl, hd⟩, hv⟩
        exact ⟨d, v, hd, hv, rfl⟩
      · rintro ⟨d, v, hd, hv, rfl⟩
        exact ⟨[d], v, rfl, ⟨d, rfl, hd⟩, hv⟩

theorem mem_language_anyCase (hs : IsSmallText s) : w ∈ (anyCase s).language ↔ Spells s w :=
  mem_language_folded hs

theorem isLookFree_anyCase (s : String) : (anyCase s).IsLookFree := by
  apply isLookFree_seqAll
  intro p hp
  obtain ⟨c, -, rfl⟩ := List.mem_map.1 hp
  trivial

theorem spells_nil : Spells "" w ↔ w = [] := List.forall₂_nil_left_iff

/-- Fixed texts one after the other are spelled one after the other. -/
theorem spells_append : Spells (s ++ s') w ↔ ∃ u v, w = u ++ v ∧ Spells s u ∧ Spells s' v := by
  rw [Spells, String.toList_append]
  constructor
  · intro h
    have hflip := h.flip
    exact ⟨w.take s.toList.length, w.drop s.toList.length, (List.take_append_drop _ _).symm,
      (List.forall₂_take_append _ _ _ hflip).flip, (List.forall₂_drop_append _ _ _ hflip).flip⟩
  · rintro ⟨u, v, rfl, hu, hv⟩
    exact List.rel_append hu hv

theorem Spells.getElem? (h : Spells s w) (hd : w[i]? = some d) :
    ∃ c, s.toList[i]? = some c ∧ StandsFor c d := by
  obtain ⟨hi, rfl⟩ := List.getElem?_eq_some_iff.1 hd
  have hi' : i < s.toList.length := by rwa [List.Forall₂.length_eq h]
  exact ⟨s.toList[i], List.getElem?_eq_getElem hi', List.Forall₂.get h hi' hi⟩

/-! ### The starts of addresses -/

theorem mem_language_scheme :
    w ∈ (optional (seqAll [anyCase "http", optional (anyCase "s"), anyCase "://"])).language ↔
      ∃ scheme ∈ schemes, Spells scheme w := by
  have hhttp : IsSmallText "http" := by decide
  have hs : IsSmallText "s" := by decide
  have hslashes : IsSmallText "://" := by decide
  have hplain : "http://" = "http" ++ "://" := by decide
  have hsafe : "https://" = "http" ++ ("s" ++ "://") := by decide
  simp only [mem_language_optional, mem_language_seqAll_cons, mem_language_seqAll_nil,
    mem_language_anyCase hhttp, mem_language_anyCase hs, mem_language_anyCase hslashes, schemes,
    List.mem_cons, List.not_mem_nil, or_false, exists_eq_or_imp, exists_eq_left, hplain, hsafe,
    spells_append, spells_nil]
  constructor
  · rintro (rfl | ⟨u, _, rfl, hu, v, _, rfl, rfl | hv, x, _, rfl, hx, rfl⟩)
    · exact .inr (.inr rfl)
    · exact .inl ⟨u, x, by simp, hu, hx⟩
    · exact .inr (.inl ⟨u, v ++ x, by simp, hu, v, x, rfl, hv, hx⟩)
  · rintro (⟨u, x, rfl, hu, hx⟩ | ⟨u, _, rfl, hu, v, x, rfl, hv, hx⟩ | rfl)
    · exact .inr ⟨u, x, rfl, hu, [], x, rfl, .inl rfl, x, [], by simp, hx, rfl⟩
    · exact .inr ⟨u, v ++ x, rfl, hu, v, x, rfl, .inr hv, x, [], by simp, hx, rfl⟩
    · exact .inl rfl

theorem mem_language_subdomain :
    w ∈ (optional (anyCase "www.")).language ↔ ∃ subdomain ∈ subdomains, Spells subdomain w := by
  have hwww : IsSmallText "www." := by decide
  simp [mem_language_optional, mem_language_anyCase hwww, subdomains, spells_nil, or_comm]

/-- What follows the anchor in the shape. -/
def facebookParts : List Pattern := [
  optional (seqAll [anyCase "http", optional (anyCase "s"), anyCase "://"]),
  optional (anyCase "www."),
  anyCase "facebook.com/"]

theorem isLookFree_facebookParts : (seqAll facebookParts).IsLookFree := by
  apply isLookFree_seqAll
  intro p hp
  simp only [facebookParts, List.mem_cons, List.not_mem_nil, or_false] at hp
  rcases hp with rfl | rfl | rfl
  · exact ⟨isLookFree_anyCase _, isLookFree_anyCase _, isLookFree_anyCase _⟩
  · exact isLookFree_anyCase _
  · exact isLookFree_anyCase _

theorem mem_language_facebookParts : w ∈ (seqAll facebookParts).language ↔ PageStart w := by
  have hhost : IsSmallText "facebook.com/" := by decide
  simp only [facebookParts, mem_language_seqAll_cons, mem_language_seqAll_nil, mem_language_scheme,
    mem_language_subdomain, mem_language_anyCase hhost, PageStart, spells_append]
  constructor
  · rintro ⟨u, _, rfl, ⟨scheme, hscheme, hu⟩, v, _, rfl, ⟨subdomain, hsubdomain, hv⟩, x, _, rfl, hx,
      rfl⟩
    exact ⟨scheme, hscheme, subdomain, hsubdomain, u ++ v, x, by simp, ⟨u, v, rfl, hu, hv⟩, hx⟩
  · rintro ⟨scheme, hscheme, subdomain, hsubdomain, _, x, rfl, ⟨u, v, rfl, hu, hv⟩, hx⟩
    exact ⟨u, v ++ x, by simp, ⟨scheme, hscheme, hu⟩, v, x, rfl, ⟨subdomain, hsubdomain, hv⟩,
      x, [], by simp, hx, rfl⟩

/-- The shape occurs in the texts that begin as the address of a page. -/
theorem occurs_facebook_iff : facebook.occurs t = true ↔ PageAddress t := by
  rw [occurs_eq_true_iff]
  refine (occurs_textStart_iff facebookParts).trans ?_
  simp only [spans_iff_mem_language isLookFree_facebookParts, List.drop_zero,
    mem_language_facebookParts, PageAddress]
  constructor
  · rintro ⟨_, w, rest, htext, -, hw⟩
    exact ⟨w, rest, htext, hw⟩
  · rintro ⟨w, rest, htext, hw⟩
    exact ⟨_, w, rest, htext, rfl, hw⟩

/-! ### What stands in a start -/

/-- The fixed texts of all starts. -/
def pageStarts : List String :=
  schemes.flatMap fun scheme => subdomains.map fun subdomain =>
    scheme ++ subdomain ++ "facebook.com/"

theorem pageStart_iff : PageStart w ↔ ∃ s ∈ pageStarts, Spells s w := by
  simp only [pageStarts, List.mem_flatMap, List.mem_map, PageStart]
  constructor
  · rintro ⟨scheme, hscheme, subdomain, hsubdomain, hw⟩
    exact ⟨_, ⟨scheme, hscheme, subdomain, hsubdomain, rfl⟩, hw⟩
  · rintro ⟨_, ⟨scheme, hscheme, subdomain, hsubdomain, rfl⟩, hw⟩
    exact ⟨scheme, hscheme, subdomain, hsubdomain, hw⟩

theorem isSmallText_of_mem_pageStarts (hs : s ∈ pageStarts) : IsSmallText s := by
  have hall : ∀ s ∈ pageStarts, IsSmallText s := by decide +kernel
  exact hall s hs

/-- Only two characters outside of ASCII can stand in a start. -/
theorem PageStart.ascii_or (h : PageStart w) (hd : d ∈ w) :
    d.toNat ≤ 0x7F ∨ d = '\u017F' ∨ d = '\u212A' := by
  obtain ⟨s, hs, hw⟩ := pageStart_iff.1 h
  obtain ⟨c, hc, hcd⟩ := Traversal.exists_mem_of_forall₂ hw hd
  exact hcd.ascii_or (isSmallText_of_mem_pageStarts hs c hc)

/-- A dot and a slash stand only for themselves. -/
theorem standsFor_edge (hc : c = '.' ∨ c = '/') : StandsFor c d ↔ d = c := by
  rcases hc with rfl | rfl <;> simp [StandsFor]

/-- A start ends in a slash. -/
theorem PageStart.getLast? (h : PageStart w) : w.getLast? = some '/' := by
  obtain ⟨scheme, -, subdomain, -, hw⟩ := h
  have hslash : "facebook.com/" = "facebook.com" ++ "/" := by decide
  rw [hslash, ← String.append_assoc, spells_append] at hw
  obtain ⟨u, _, rfl, -, hlast⟩ := hw
  obtain ⟨d, v, hd, hv, rfl⟩ := List.forall₂_cons_left_iff.1 hlast
  rw [List.forall₂_nil_left_iff.1 hv, (standsFor_edge (.inr rfl)).1 hd, List.getLast?_concat]

/-! ### Starts that look alike -/

/-- Where two words agree, the fixed texts agree that they spell. -/
theorem Spells.getElem?_eq (hs : IsSmallText s) (hs' : IsSmallText s') (h : Spells s w)
    (h' : Spells s' w') (hw : w[i]? = some e) (hw' : w'[i]? = some e) :
    s.toList[i]? = s'.toList[i]? := by
  obtain ⟨c, hc, hce⟩ := h.getElem? hw
  obtain ⟨c', hc', hce'⟩ := h'.getElem? hw'
  have heq := hce.unique (hs c (List.mem_of_getElem? hc)) (hs' c' (List.mem_of_getElem? hc')) hce'
  rw [hc, hc', heq]

/-- A dot or a slash of a word is one of the fixed text that the word spells. -/
theorem Spells.getElem?_edge (hs : IsSmallText s) (h : Spells s w) (hw : w[i]? = some e)
    (he : e = '.' ∨ e = '/') : s.toList[i]? = some e := by
  obtain ⟨c, hc, hce⟩ := h.getElem? hw
  have hsmall : IsSmall e.toNat := by rcases he with rfl | rfl <;> decide
  rwa [← hce.unique (hs c (List.mem_of_getElem? hc)) hsmall ((standsFor_edge he).2 rfl)]

/-- A dot or the last character of a start is a dot or a slash. -/
theorem PageStart.edge (h : PageStart w) (hi : w[i]? = some '.' ∨ i + 1 = w.length) :
    ∃ e, w[i]? = some e ∧ (e = '.' ∨ e = '/') := by
  rcases hi with hdot | hend
  · exact ⟨'.', hdot, .inl rfl⟩
  · have hlast := h.getLast?
    rw [List.getLast?_eq_getElem?, ← hend, Nat.add_sub_cancel] at hlast
    exact ⟨'/', hlast, .inr rfl⟩

/-- Up to a dot or the last slash of a start there is a place where another start
has another character, or else that start has the same character there. -/
theorem pageStarts_differ : ∀ s ∈ pageStarts, ∀ s' ∈ pageStarts, ∀ i < s.toList.length,
    (s.toList[i]? = some '.' ∨ i + 1 = s.toList.length) →
      s.toList[i]? = s'.toList[i]? ∨
        ∃ j < i, j < s'.toList.length ∧ s.toList[j]? ≠ s'.toList[j]? := by
  decide +kernel

/-- A start with another character for a dot or for the last slash is the start
of no address. -/
theorem PageStart.not_pageAddress_set (h : PageStart w)
    (hi : w[i]? = some '.' ∨ i + 1 = w.length) (hd : w[i]? ≠ some d) (rest : List Char) :
    ¬ PageAddress (w.set i d ++ rest) := by
  rintro ⟨w', rest', htext, h'⟩
  obtain ⟨s, hs, hw⟩ := pageStart_iff.1 h
  obtain ⟨s', hs', hw'⟩ := pageStart_iff.1 h'
  have hsmall := isSmallText_of_mem_pageStarts hs
  have hsmall' := isSmallText_of_mem_pageStarts hs'
  have hlen : s.toList.length = w.length := List.Forall₂.length_eq hw
  have hlen' : s'.toList.length = w'.length := List.Forall₂.length_eq hw'
  obtain ⟨e, he, hedge⟩ := h.edge hi
  have hilt : i < w.length := (List.getElem?_eq_some_iff.1 he).1
  have hsi : s.toList[i]? = some e := hw.getElem?_edge hsmall he hedge
  have hplace : s.toList[i]? = some '.' ∨ i + 1 = s.toList.length := by
    rwa [hlen, hsi, ← he]
  have hagree : ∀ j ≤ i, j < w'.length → w'[j]? = (w.set i d)[j]? := by
    intro j hj hlt
    have hset : j < (w.set i d).length := by
      rw [List.length_set]
      omega
    have htextj : (w.set i d ++ rest)[j]? = (w' ++ rest')[j]? := by rw [htext]
    rw [List.getElem?_append_left hset, List.getElem?_append_left hlt] at htextj
    exact htextj.symm
  rcases pageStarts_differ s hs s' hs' i (hlen ▸ hilt) hplace with hsame | ⟨j, hj, hlt, hdiffer⟩
  · -- The other start has the same character here, which stands only for itself.
    rw [hsi] at hsame
    have hlt : i < w'.length := hlen' ▸ (List.getElem?_eq_some_iff.1 hsame.symm).1
    have hwd : w'[i]? = some d := by
      rw [hagree i (Nat.le_refl i) hlt, List.getElem?_set_self hilt]
    obtain ⟨c, hc, hcd⟩ := hw'.getElem? hwd
    obtain rfl : e = c := Option.some.inj (hsame.trans hc)
    exact hd (by rw [he, (standsFor_edge hedge).1 hcd])
  · -- The other start has another character before, where nothing was replaced.
    rw [hlen'] at hlt
    have hwj : w[j]? = some w'[j] := by
      rw [← List.getElem?_eq_getElem hlt, hagree j hj.le hlt, List.getElem?_set_ne hj.ne']
    exact hdiffer (hw.getElem?_eq hsmall hsmall' hw' hwj (List.getElem?_eq_getElem hlt))

theorem PageAddress.slash_mem (h : PageAddress t) : '/' ∈ t := by
  obtain ⟨w, rest, rfl, hw⟩ := h
  exact List.mem_append_left _ (List.mem_of_getLast? hw.getLast?)

end

end Shape

namespace CustomRule

open Shape

theorem isFacebook_eq_true_iff (value : Value) : isFacebook value = true ↔
    value.isEmpty = true ∨ ∃ s, value = .text s ∧ PageAddress s.toList := by
  rw [isFacebook, hasShape, Bool.or_eq_true, occurs_facebook_iff,
    Value.render_iff_text (by decide) fun _ => PageAddress.slash_mem]

/-- **The texts that pass as addresses of pages.**  An empty value passes, and so
does a text that begins with the name of the host and a slash, after a scheme and
a subdomain or without.  A small letter of such a start may also be its capital,
and two letters have one more form each, so that no other characters outside of
ASCII can stand there.  All other values fail, among them each text with another
character for a dot of its start or for the slash at its end, each number and each
truth value. -/
theorem page_addresses_pass :
    ∃ v, validFacebook.build none = .ok v ∧
      v.Decides "valid_facebook" (fun value =>
        value.isEmpty = true ∨ ∃ s, value = .text s ∧ PageAddress s.toList) ∧
      (∀ c d, c.isLower = true → (StandsFor c d ↔
        d = c ∨ d = c.toUpper ∨ (c = 's' ∧ d = '\u017F') ∨ (c = 'k' ∧ d = '\u212A'))) ∧
      (∀ w, PageStart w → w.getLast? = some '/' ∧
        ∀ d ∈ w, 0x7F < d.toNat → d = '\u017F' ∨ d = '\u212A') ∧
      ∀ fields,
        (∀ w i d rest, PageStart w → (w[i]? = some '.' ∨ i + 1 = w.length) → w[i]? ≠ some d →
          v.validate (.text (String.ofList (w.set i d ++ rest))) fields = some "valid_facebook") ∧
        (∀ x, v.validate (.number x) fields = some "valid_facebook") ∧
        ∀ b, v.validate (.bool b) fields = some "valid_facebook" := by
  have hdecides := Validator.decides_of_test validFacebook.name isFacebook_eq_true_iff
  refine ⟨_, rfl, hdecides, fun _ _ => standsFor_lower, ?_, fun fields =>
    ⟨?_, hdecides.fails_unless_text fields⟩⟩
  · intro w hw
    refine ⟨hw.getLast?, fun d hd hhigh => ?_⟩
    exact (hw.ascii_or hd).resolve_left (Nat.not_le.2 hhigh)
  · intro w i d rest hw hi hd
    refine hdecides.fails ?_ fields
    rintro (hempty | ⟨s, hs, haddress⟩)
    · have hnil : w.set i d ++ rest = [] := by simpa [Value.isEmpty] using hempty
      have hw' : w = [] := by simpa using (List.append_eq_nil_iff.1 hnil).1
      simpa [hw'] using hw.getLast?
    · obtain rfl := Value.text.inj hs
      rw [String.toList_ofList] at haddress
      exact hw.not_pageAddress_set hi hd rest haddress

end CustomRule

end FormRules
