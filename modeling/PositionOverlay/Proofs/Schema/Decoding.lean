import PositionOverlay.Proofs.Work
import PositionOverlay.Schema.Decode

/-! # Records that a schema decodes

An object with distinct names is decoded as a record exactly if each field stands there with a value
that is decoded, or is absent and has a default. So neither the order of the members counts nor
members of other names.
-/
namespace PositionOverlay

open Work

namespace Fields

/-- Members, apart from those that have been decoded into slots, give the fields their values. -/
def Determines : {α : Type} → (fs : Fields α) → fs.Slots → List (String × Json) → α → Prop
  | _, .nil, _, _, _ => True
  | _, .cons (α := α) name schema default rest, slots, members, a =>
    let slots : Option α × rest.Slots := slots
    (match slots.1 with
      | some b => (∀ v, (name, v) ∉ members) ∧ b = a.1
      | none => (∃ v, (name, v) ∈ members ∧ schema.decode v = .ok a.1) ∨
        (∀ v, (name, v) ∉ members) ∧ default = some a.1) ∧
      rest.Determines slots.2 members a.2

section Cons

variable {α β : Type} (name : String) (schema : Schema α) (default : Option α) (fs : Fields β)
  (slots : Option α × fs.Slots)

theorem finish_cons_eq_ok {a : α × β} : (cons name schema default fs).finish slots = .ok a ↔
    slots.1.or default = some a.1 ∧ fs.finish slots.2 = .ok a.2 := by
  change (do
    let a ← match slots.1.or default with
      | some a => pure a
      | none => throw (.missingField name)
    return (a, ← fs.finish slots.2) : Except Mismatch (α × β)) = _ ↔ _
  rcases slots.1.or default with _ | b
  · exact ⟨nofun, fun h => nomatch h.1⟩
  · obtain ⟨a, b'⟩ := a
    rcases fs.finish slots.2 with f | b₁
    · exact ⟨nofun, fun h => nomatch h.2⟩
    · simp [bind, Except.bind, pure, Except.pure]

theorem decodeMember_cons (k : String) (v : Json) :
    @Eq (Except Mismatch (Option α × fs.Slots))
      ((cons name schema default fs).decodeMember slots k v)
      (if k = name then
        if slots.1.isSome then .error (.duplicateField name)
        else do return (some (← schema.decode v), slots.2)
      else do return (slots.1, ← fs.decodeMember slots.2 k v)) :=
  rfl

variable {slots' : Option α × fs.Slots} {k : String} {v : Json}

/-- A field that has been met must not be met again. -/
theorem decodeMember_some (b : α) (slots : fs.Slots) :
    (cons name schema default fs).decodeMember (some b, slots) name v =
      .error (.duplicateField name) :=
  (decodeMember_cons name schema default fs (some b, slots) name v).trans (if_pos rfl)

theorem decodeMember_none_eq_ok {slots : fs.Slots} :
    (cons name schema default fs).decodeMember (none, slots) name v = .ok slots' ↔
      ∃ b, schema.decode v = .ok b ∧ slots' = (some b, slots) := by
  have hdecode : (cons name schema default fs).decodeMember (none, slots) name v =
      (schema.decode v >>= fun b => pure (some b, slots)) :=
    (decodeMember_cons name schema default fs (none, slots) name v).trans (if_pos rfl)
  rw [hdecode]
  refine except_bind_eq_ok.trans (exists_congr fun b => and_congr_right fun _ => ?_)
  exact ⟨fun h => (Except.ok.inj h).symm, fun h => congrArg Except.ok h.symm⟩

theorem decodeMember_of_ne (hk : k ≠ name) :
    (cons name schema default fs).decodeMember slots k v = .ok slots' ↔
      ∃ slots₁, fs.decodeMember slots.2 k v = .ok slots₁ ∧ slots' = (slots.1, slots₁) := by
  have hdecode : (cons name schema default fs).decodeMember slots k v =
      (fs.decodeMember slots.2 k v >>= fun slots₁ => pure (slots.1, slots₁)) :=
    (decodeMember_cons name schema default fs slots k v).trans (if_neg hk)
  rw [hdecode]
  refine except_bind_eq_ok.trans (exists_congr fun b => and_congr_right fun _ => ?_)
  exact ⟨fun h => (Except.ok.inj h).symm, fun h => congrArg Except.ok h.symm⟩

end Cons

variable {k : String} {v : Json} {members : List (String × Json)}

theorem finish_iff : {α : Type} → {fs : Fields α} → {slots : fs.Slots} → {a : α} →
    (fs.finish slots = .ok a ↔ fs.Determines slots [] a)
  | _, .nil, _, _ => ⟨fun _ => trivial, fun _ => rfl⟩
  | _, .cons name schema default rest, slots, a => by
    change Option _ × rest.Slots at slots
    obtain ⟨slot, slots⟩ := slots
    refine (finish_cons_eq_ok ..).trans (and_congr ?_ finish_iff)
    cases slot <;> simp

/-- Members of other names do not count. -/
theorem determines_cons_of_notMem : {α : Type} → {fs : Fields α} → {slots : fs.Slots} → {a : α} →
    k ∉ fs.names →
    (fs.Determines slots ((k, v) :: members) a ↔ fs.Determines slots members a)
  | _, .nil, _, _, _ => Iff.rfl
  | _, .cons name schema default rest, slots, a, hk => by
    change Option _ × rest.Slots at slots
    obtain ⟨slot, slots⟩ := slots
    rw [names, List.mem_cons, not_or] at hk
    have hmem (w : Json) : (name, w) ∈ (k, v) :: members ↔ (name, w) ∈ members := by
      simp [Ne.symm hk.1]
    simp only [Determines, hmem, determines_cons_of_notMem hk.2]

/-- A member is decoded into its slot, or passed over. -/
theorem exists_decodeMember : {α : Type} → {fs : Fields α} → {slots : fs.Slots} → {a : α} →
    fs.names.Nodup → (∀ w, (k, w) ∉ members) →
    ((∃ slots', fs.decodeMember slots k v = .ok slots' ∧ fs.Determines slots' members a) ↔
      fs.Determines slots ((k, v) :: members) a)
  | _, .nil, _, _, _, _ => ⟨fun _ => trivial, fun _ => ⟨(), rfl, trivial⟩⟩
  | _, .cons name schema default rest, slots, a, hnames, hk => by
    change Option _ × rest.Slots at slots
    obtain ⟨slot, slots⟩ := slots
    obtain ⟨hname, hnames⟩ := List.nodup_cons.mp hnames
    by_cases hkname : k = name
    · subst hkname
      cases slot with
      | some b =>
        constructor
        · rintro ⟨slots', hdecode, -⟩
          exact nomatch (decodeMember_some ..).symm.trans hdecode
        · exact fun h => absurd List.mem_cons_self (h.1.1 v)
      | none =>
        have hmem (w : Json) : (k, w) ∈ (k, v) :: members ↔ w = v := by simp [hk w]
        have hrest : rest.Determines slots ((k, v) :: members) a.2 ↔
            rest.Determines slots members a.2 := determines_cons_of_notMem hname
        simp only [Determines, hmem, hrest, exists_eq_left]
        constructor
        · rintro ⟨slots', hdecode, h⟩
          obtain ⟨b, hb, rfl⟩ := (decodeMember_none_eq_ok ..).mp hdecode
          obtain ⟨⟨-, rfl⟩, h⟩ := h
          exact ⟨.inl hb, h⟩
        · rintro ⟨hb | ⟨hnone, -⟩, h⟩
          · exact ⟨_, (decodeMember_none_eq_ok ..).mpr ⟨a.1, hb, rfl⟩, ⟨hk, rfl⟩, h⟩
          · exact absurd rfl (hnone v)
    · have hmem (w : Json) : (name, w) ∈ (k, v) :: members ↔ (name, w) ∈ members := by
        simp [Ne.symm hkname]
      have hrest : (∃ slots', rest.decodeMember slots k v = .ok slots' ∧
          rest.Determines slots' members a.2) ↔ rest.Determines slots ((k, v) :: members) a.2 :=
        exists_decodeMember hnames hk
      simp only [Determines, hmem, ← hrest]
      constructor
      · rintro ⟨slots', hdecode, h⟩
        obtain ⟨slots₁, h₁, rfl⟩ := (decodeMember_of_ne _ _ _ _ _ hkname).mp hdecode
        exact ⟨h.1, slots₁, h₁, h.2⟩
      · rintro ⟨hfield, slots₁, h₁, h⟩
        exact ⟨_, (decodeMember_of_ne _ _ _ _ _ hkname).mpr ⟨slots₁, h₁, rfl⟩, hfield, h⟩

/-- Members of distinct names, one after the other. -/
theorem decodeMembers_iff {α : Type} {fs : Fields α} {slots : fs.Slots} {a : α}
    (hnames : fs.names.Nodup) (hmembers : (members.map Prod.fst).Nodup) :
    (∃ slots', members.foldlM (fun slots m => fs.decodeMember slots m.1 m.2) slots = .ok slots' ∧
      fs.finish slots' = .ok a) ↔ fs.Determines slots members a := by
  induction members generalizing slots with
  | nil =>
    rw [← finish_iff]
    exact ⟨fun ⟨_, h, hfinish⟩ => Except.ok.inj h ▸ hfinish, fun h => ⟨slots, rfl, h⟩⟩
  | cons m members ih =>
    obtain ⟨k, v⟩ := m
    obtain ⟨hk, hmembers⟩ := List.nodup_cons.mp hmembers
    have hfresh (w : Json) : (k, w) ∉ members := fun h =>
      hk (List.mem_map.mpr ⟨(k, w), h, rfl⟩)
    rw [← exists_decodeMember hnames hfresh]
    simp only [← ih hmembers, List.foldlM_cons, except_bind_eq_ok]
    constructor
    · rintro ⟨slots', ⟨slots₁, h₁, h⟩, hfinish⟩
      exact ⟨slots₁, h₁, slots', h, hfinish⟩
    · rintro ⟨slots₁, h₁, slots', h, hfinish⟩
      exact ⟨slots', ⟨slots₁, h₁, h⟩, hfinish⟩

end Fields

namespace Schema

/-- An object of distinct names is decoded as a record if its members give the fields values. -/
theorem decode_record_iff {α β : Type} {title : String} {fs : Fields α} {build : α → β}
    {members : List (String × Json)} {b : β} (hnames : fs.names.Nodup)
    (hmembers : (members.map Prod.fst).Nodup) :
    (Schema.record title fs build).decode (.obj members) = .ok b ↔
      ∃ a, fs.Determines fs.empty members a ∧ build a = b := by
  change (do
    let slots ← members.foldlM (fun slots m => fs.decodeMember slots m.1 m.2) fs.empty
    build <$> fs.finish slots : Except Mismatch β) = _ ↔ _
  simp only [← Fields.decodeMembers_iff hnames hmembers, except_bind_eq_ok, map_eq_pure_bind]
  constructor
  · rintro ⟨slots, hslots, a, ha, hb⟩
    exact ⟨a, ⟨slots, hslots, ha⟩, Except.ok.inj hb⟩
  · rintro ⟨a, ⟨slots, hslots, ha⟩, rfl⟩
    exact ⟨slots, hslots, a, ha, rfl⟩

variable {v : Json}

theorem decode_number_iff {x : Float} :
    Schema.number.decode v = .ok x ↔ ∃ n, v = .num n ∧ n.toFloat = x := by
  cases v with
  | num n => simp [decode]
  | _ => exact ⟨nofun, nofun⟩

theorem decode_text_iff {s : String} : Schema.text.decode v = .ok s ↔ v = .str s := by
  cases v with
  | str s' => simp [decode]
  | _ => exact ⟨nofun, nofun⟩

theorem decode_uuid_iff {u : Uuid} :
    Schema.uuid.decode v = .ok u ↔ ∃ s, v = .str s ∧ Uuid.parse s = .ok u := by
  cases v with
  | str s =>
    have hdecode : Schema.uuid.decode (.str s) = .ok u ↔ Uuid.parse s = .ok u :=
      except_mapError_eq_ok
    simp only [hdecode, Json.str.injEq, exists_eq_left']
  | _ => exact ⟨nofun, nofun⟩

theorem decode_timestamp_iff {t : Timestamp} :
    Schema.timestamp.decode v = .ok t ↔ ∃ s, v = .str s ∧ Timestamp.parse s = .ok t := by
  cases v with
  | str s =>
    have hdecode : Schema.timestamp.decode (.str s) = .ok t ↔ Timestamp.parse s = .ok t :=
      except_mapError_eq_ok
    simp only [hdecode, Json.str.injEq, exists_eq_left']
  | _ => exact ⟨nofun, nofun⟩

theorem decode_optional_iff {α : Type} {schema : Schema α} {o : Option α} :
    schema.optional.decode v = .ok o ↔
      v = .null ∧ o = none ∨ v ≠ .null ∧ ∃ a, schema.decode v = .ok a ∧ o = some a := by
  by_cases hv : v = .null
  · subst hv
    simp [decode, eq_comm]
  · have hdecode : schema.optional.decode v = some <$> schema.decode v := by
      cases v with
      | null => exact absurd rfl hv
      | _ => rfl
    rw [hdecode, map_eq_pure_bind, except_bind_eq_ok]
    simp [hv, pure, Except.pure, eq_comm]

end Schema

end PositionOverlay
