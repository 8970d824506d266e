import FormRules.Proofs.Form.Writes
import FormRules.Proofs.Traversal

/-!
# Patches

A patch writes the members of a payload to the fields that they name.  Members
that name no field do not count, and the least key with a value that no field
can hold is the error.  A patch that is accepted gives the form that single
writes of the same values give, in whatever order, followed by a check of all
fields.
-/

namespace FormRules

/-- The bytes of a text. -/
def Text.bytes (s : String) : List UInt8 := s.toUTF8.data.toList

/-- An object of JSON: the keys stand in the order of their bytes, each of them
once. -/
structure Payload where
  members : List (String × Json)
  ordered : members.Pairwise fun a b => Text.bytes a.1 < Text.bytes b.1

namespace Json

/-- A list or an object. -/
def nested : Json → Bool
  | .array _ => true
  | .object _ => true
  | _ => false

end Json

theorem Value.ofJson?_eq_none_iff {raw : Json} : Value.ofJson? raw = none ↔ raw.nested = true := by
  cases raw <;> simp [Value.ofJson?, Json.nested]

/-- The write of a member, whatever its key. -/
def Payload.readMember (m : String × Json) : Except RuleError (String × Value) :=
  match Value.ofJson? m.2 with
  | none => .error (.unsupportedValue m.1)
  | some value => .ok (m.1, value)

namespace Payload

theorem readMember_eq_ok_iff {m : String × Json} {write : String × Value} :
    readMember m = .ok write ↔ m.1 = write.1 ∧ Value.ofJson? m.2 = some write.2 := by
  unfold readMember
  cases Value.ofJson? m.2 with
  | none => simp
  | some value => simp [Prod.ext_iff]

theorem readMember_eq_error_iff {m : String × Json} {e : RuleError} :
    readMember m = .error e ↔ m.2.nested = true ∧ e = .unsupportedValue m.1 := by
  rw [← Value.ofJson?_eq_none_iff]
  unfold readMember
  cases Value.ofJson? m.2 with
  | none => simp [eq_comm]
  | some value => simp

/-- Reading keeps the last entry for each key. -/
theorem lastOf_of_forall₂ {members : List (String × Json)} {writes : List (String × Value)}
    (h : List.Forall₂ (fun m write => readMember m = .ok write) members writes) (key : String) :
    lastOf writes key = (lastOf members key).bind Value.ofJson? := by
  induction h with
  | nil => rfl
  | @cons m write members writes hread hrest ih =>
      obtain ⟨hkey, hvalue⟩ := readMember_eq_ok_iff.1 hread
      rw [lastOf_cons, lastOf_cons, ih, hkey]
      cases hlast : lastOf members key with
      | none => split <;> simp [hvalue]
      | some raw =>
          -- A later member for the key has been read too, so it hides this one.
          obtain ⟨later, -, hlater⟩ :=
            Traversal.exists_result_of_forall₂ hrest (mem_of_lastOf_eq_some hlast)
          have hraw : Value.ofJson? raw = some later.2 := (readMember_eq_ok_iff.1 hlater).2
          simp only [Option.bind_some, Option.some_or, hraw]

/-- No key stands in a payload twice. -/
theorem nodup_keys (p : Payload) : (p.members.map Prod.fst).Nodup := by
  rw [List.Nodup, List.pairwise_map]
  apply p.ordered.imp
  intro a b hlt heq
  rw [heq] at hlt
  exact List.lt_irrefl _ hlt

/-- What is kept of two payloads is the same if it has the same members, as they
stand in one order. -/
theorem filter_members_congr {p p' : Payload} {keep : String × Json → Bool}
    (h : ∀ m, keep m = true → (m ∈ p.members ↔ m ∈ p'.members)) :
    p.members.filter keep = p'.members.filter keep := by
  have hnodup : ∀ q : Payload, (q.members.filter keep).Nodup := fun q =>
    (q.nodup_keys.of_map Prod.fst).filter keep
  refine List.Perm.eq_of_pairwise ?_ (p.ordered.filter keep) (p'.ordered.filter keep) ?_
  · intro a b _ _ hab hba
    exact absurd hba (List.lt_asymm hab)
  · rw [List.perm_ext_iff_of_nodup (hnodup p) (hnodup p')]
    intro m
    rw [List.mem_filter, List.mem_filter]
    exact and_congr_left (h m)

end Payload

namespace Registry

/-- The member names a field, and no field can hold its value. -/
def Rejects (r : Registry) (m : String × Json) : Prop :=
  m.1 ∈ r.fields ∧ m.2.nested = true

/-- The writes of a payload in some order: one for each key that names a field,
with the value that the key carries. -/
structure Spells (r : Registry) (p : Payload) (writes : List (String × Value)) : Prop where
  once : (writes.map Prod.fst).Nodup
  mem_iff : ∀ field value, (field, value) ∈ writes ↔
    field ∈ r.fields ∧ ∃ raw, (field, raw) ∈ p.members ∧ Value.ofJson? raw = some value

/-- The members that name fields. -/
def declaredMembers (r : Registry) (members : List (String × Json)) : List (String × Json) :=
  members.filter fun m => decide (m.1 ∈ r.fields)

variable {r : Registry} {p : Payload}

theorem mem_declaredMembers {members : List (String × Json)} {m : String × Json} :
    m ∈ r.declaredMembers members ↔ m ∈ members ∧ m.1 ∈ r.fields := by
  rw [declaredMembers, List.mem_filter, decide_eq_true_iff]

/-- A patch reads the members that name fields, one after the other. -/
theorem readPatch_eq_mapM (members : List (String × Json)) :
    r.readPatch members = (r.declaredMembers members).mapM Payload.readMember := by
  induction members with
  | nil => rfl
  | cons m members ih =>
      obtain ⟨field, raw⟩ := m
      unfold readPatch
      cases hc : r.control? field with
      | none =>
          have hfield : field ∉ r.fields := r.control?_eq_none_iff.1 hc
          rw [declaredMembers, List.filter_cons_of_neg (by simpa using hfield)]
          exact ih
      | some c =>
          have hfield : field ∈ r.fields := by
            obtain ⟨hmem, hname⟩ := r.control?_eq_some_iff.1 hc
            exact hname ▸ r.name_mem_fields hmem
          rw [declaredMembers, List.filter_cons_of_pos (by simpa using hfield)]
          cases hraw : Value.ofJson? raw with
          | none =>
              have hread : Payload.readMember (field, raw) = .error (.unsupportedValue field) :=
                Payload.readMember_eq_error_iff.2 ⟨Value.ofJson?_eq_none_iff.1 hraw, rfl⟩
              rw [Traversal.mapM_cons_error hread]
          | some value =>
              have hread : Payload.readMember (field, raw) = .ok (field, value) :=
                Payload.readMember_eq_ok_iff.2 ⟨rfl, hraw⟩
              rw [Traversal.mapM_cons_ok hread, ← declaredMembers, ← ih]
              cases r.readPatch members <;> rfl

/-- What a patch writes to a field is the value of the last member for it. -/
theorem lastOf_readPatch {members : List (String × Json)} {writes : List (String × Value)}
    {field : String} (h : r.readPatch members = .ok writes) (hfield : field ∈ r.fields) :
    lastOf writes field = (Json.member? members field).bind Value.ofJson? := by
  rw [readPatch_eq_mapM, Traversal.mapM_eq_ok_iff] at h
  have hdeclared : lastOf (r.declaredMembers members) field = lastOf members field := by
    apply lastOf_filter
    rintro m rfl
    exact decide_eq_true hfield
  rw [Payload.lastOf_of_forall₂ h, hdeclared]
  rfl

/-- A patch that can be read gives the writes of the payload. -/
theorem spells_of_readPatch {writes : List (String × Value)}
    (h : r.readPatch p.members = .ok writes) : r.Spells p writes := by
  rw [readPatch_eq_mapM, Traversal.mapM_eq_ok_iff] at h
  have hkeys : (r.declaredMembers p.members).map Prod.fst = writes.map Prod.fst :=
    Traversal.map_eq_map_of_forall₂ h fun _ _ hread => (Payload.readMember_eq_ok_iff.1 hread).1
  constructor
  · rw [← hkeys]
    exact p.nodup_keys.sublist (List.filter_sublist.map Prod.fst)
  · intro field value
    constructor
    · intro hwrite
      obtain ⟨⟨key, raw⟩, hm, hread⟩ := Traversal.exists_mem_of_forall₂ h hwrite
      obtain ⟨rfl, hvalue⟩ := Payload.readMember_eq_ok_iff.1 hread
      obtain ⟨hmem, hfield⟩ := mem_declaredMembers.1 hm
      exact ⟨hfield, raw, hmem, hvalue⟩
    · rintro ⟨hfield, raw, hmem, hvalue⟩
      have hm : (field, raw) ∈ r.declaredMembers p.members :=
        mem_declaredMembers.2 ⟨hmem, hfield⟩
      obtain ⟨write, hwrite, hread⟩ := Traversal.exists_result_of_forall₂ h hm
      have hsame : write = (field, value) := by
        have hexpected : Payload.readMember (field, raw) = .ok (field, value) :=
          Payload.readMember_eq_ok_iff.2 ⟨rfl, hvalue⟩
        exact Except.ok.inj (hread.symm.trans hexpected)
      rwa [← hsame]

/-- Nothing of a payload that can be read is rejected. -/
theorem not_rejects_of_readPatch {writes : List (String × Value)}
    (h : r.readPatch p.members = .ok writes) {m : String × Json} (hm : m ∈ p.members) :
    ¬ r.Rejects m := by
  rintro ⟨hfield, hnested⟩
  rw [readPatch_eq_mapM, Traversal.mapM_eq_ok_iff] at h
  obtain ⟨write, -, hread⟩ :=
    Traversal.exists_result_of_forall₂ h (mem_declaredMembers.2 ⟨hm, hfield⟩)
  have hvalue := (Payload.readMember_eq_ok_iff.1 hread).2
  rw [Value.ofJson?_eq_none_iff.2 hnested] at hvalue
  contradiction

/-- The error of a patch that cannot be read is about the least key that is
rejected. -/
theorem rejects_of_readPatch {e : RuleError} (h : r.readPatch p.members = .error e) :
    ∃ m ∈ p.members, r.Rejects m ∧
      (∀ other ∈ p.members, r.Rejects other → Text.bytes m.1 ≤ Text.bytes other.1) ∧
      e = .unsupportedValue m.1 := by
  rw [readPatch_eq_mapM, Traversal.mapM_eq_error_iff] at h
  obtain ⟨before, m, after, hsplit, hbefore, hm⟩ := h
  obtain ⟨hnested, rfl⟩ := Payload.readMember_eq_error_iff.1 hm
  have hordered : (r.declaredMembers p.members).Pairwise
      fun a b => Text.bytes a.1 < Text.bytes b.1 := p.ordered.filter _
  have hdeclared : m ∈ r.declaredMembers p.members := by
    rw [hsplit]
    simp
  rw [hsplit, List.pairwise_append, List.pairwise_cons] at hordered
  obtain ⟨hmem, hfield⟩ := mem_declaredMembers.1 hdeclared
  refine ⟨m, hmem, ⟨hfield, hnested⟩, ?_, rfl⟩
  rintro other hother ⟨hotherfield, hothernested⟩
  have hplace := mem_declaredMembers.2 ⟨hother, hotherfield⟩
  rw [hsplit, List.mem_append, List.mem_cons] at hplace
  rcases hplace with hearlier | rfl | hlater
  · -- The members before the one that is refused can all be read.
    obtain ⟨write, hread⟩ := hbefore other hearlier
    rw [Payload.readMember_eq_error_iff.2 ⟨hothernested, rfl⟩] at hread
    contradiction
  · exact List.le_refl _
  · exact List.le_of_lt (hordered.2.1.1 other hlater)

/-- Two lists of the writes of one payload leave the same form. -/
theorem writeAll_of_spells {writes writes' : List (String × Value)} (h : r.Spells p writes)
    (h' : r.Spells p writes') : r.writeAll writes = r.writeAll writes' := by
  apply writeAll_congr
  intro field
  apply Option.ext
  intro value
  rw [lastOf_eq_some_iff_mem h.once, lastOf_eq_some_iff_mem h'.once, h.mem_iff, h'.mem_iff]

/-- Single writes of what a payload holds, in any order, and then a check of all
fields give the form that the patch gives. -/
theorem setEach_of_spells {writes : List (String × Value)} {after : Registry}
    (h : r.Spells p writes) (hpatch : r.patchValues p.members = ⟨.ok (), after⟩) :
    ∃ written, r.setEach writes = .ok written ∧ written.validateAll.2 = after := by
  obtain ⟨read, hread, rfl⟩ := patchValues_eq_ok hpatch
  have hfields : ∀ write ∈ writes, write.1 ∈ r.fields := by
    rintro ⟨field, value⟩ hwrite
    exact ((h.mem_iff field value).1 hwrite).1
  obtain ⟨written, hwritten, hsame⟩ := exists_setEach_eq_ok writes hfields
  refine ⟨written, hwritten, ?_⟩
  rw [writeAll_of_spells (spells_of_readPatch hread) h, validateAll_eq]
  exact storeAllFailures_congr hsame

/-- A patch is all or nothing.  If a key that names a field carries a list or an
object, the least such key is the error and the form stays as it was.  Otherwise
the form becomes what single writes of the values make of it, in any order, with
a check of all fields at the end.  Members that name no field never count. -/
theorem patchValues_as_single_writes (r : Registry) (p : Payload) :
    ((∃ m ∈ p.members, r.Rejects m) →
      ∃ m ∈ p.members, r.Rejects m ∧
        (∀ other ∈ p.members, r.Rejects other → Text.bytes m.1 ≤ Text.bytes other.1) ∧
        r.patchValues p.members = ⟨.error (.unsupportedValue m.1), r⟩ ∧
        r.step (.patchValues p.members) = (.refused (.unsupportedValue m.1), r)) ∧
    ((∀ m ∈ p.members, ¬ r.Rejects m) →
      ∃ after, r.patchValues p.members = ⟨.ok (), after⟩ ∧
        r.step (.patchValues p.members) = (.done, after) ∧
        (∃ writes, r.Spells p writes) ∧
        ∀ writes, r.Spells p writes →
          ∃ written, r.setEach writes = .ok written ∧ written.validateAll.2 = after) ∧
    ∀ p' : Payload,
      (∀ field ∈ r.fields, ∀ raw, (field, raw) ∈ p'.members ↔ (field, raw) ∈ p.members) →
      r.patchValues p'.members = r.patchValues p.members := by
  refine ⟨?_, ?_, ?_⟩
  · rintro ⟨rejected, hrejected, hrejects⟩
    rcases r.patchValues_cases p.members with ⟨e, hread, hpatch⟩ | ⟨writes, hread, -⟩
    · obtain ⟨m, hm, hfirst, hleast, rfl⟩ := rejects_of_readPatch hread
      exact ⟨m, hm, hfirst, hleast, hpatch, by rw [step, hpatch, Reply.conclude]⟩
    · exact absurd hrejects (not_rejects_of_readPatch hread hrejected)
  · intro hclean
    rcases r.patchValues_cases p.members with ⟨e, hread, -⟩ | ⟨writes, hread, hpatch⟩
    · obtain ⟨m, hm, hrejects, -⟩ := rejects_of_readPatch hread
      exact absurd hrejects (hclean m hm)
    · refine ⟨_, hpatch, ?_, ⟨writes, spells_of_readPatch hread⟩, ?_⟩
      · rw [step, hpatch, Reply.conclude]
      · intro other hspells
        exact setEach_of_spells hspells hpatch
  · intro p' hsame
    have hread : r.readPatch p'.members = r.readPatch p.members := by
      have hdeclared : r.declaredMembers p'.members = r.declaredMembers p.members := by
        apply Payload.filter_members_congr
        rintro ⟨field, raw⟩ hfield
        exact hsame field (of_decide_eq_true hfield) raw
      rw [readPatch_eq_mapM, readPatch_eq_mapM, hdeclared]
    rw [patchValues, patchValues, hread]

end Registry

end FormRules
