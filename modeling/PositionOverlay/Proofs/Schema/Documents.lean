import PositionOverlay.Proofs.Json.Members
import PositionOverlay.Schema.Reader

/-! # Documents that a schema reads

When the text of a document is read as a value: text, identifiers, times, numbers, options and lists
by what they are written as, and records by their members. Which members give a record its fields
depends on neither their order nor on members of other names.
-/
namespace PositionOverlay

open Json Json.Reader Work

variable {α β : Type} {room : Nat} {rest : List Char}

namespace Json

theorem stringOr_writeString (expected s : String) (rest : List Char) :
    stringOr expected (writeString s ++ rest) = .ok (s, rest) :=
  readString_stringTail rest s

end Json

namespace Schema

/-- The schema reads a document as a value. -/
abbrev Reads (schema : Schema α) (room : Nat) (doc : Json) (a : α) : Prop :=
  ReadAs (schema.read room) doc a

theorem reads_text (room : Nat) (s : String) : Schema.text.Reads room (.str s) s :=
  fun _ _ => stringOr_writeString "a string" s _

theorem reads_uuid {s : String} {u : Uuid} (h : Uuid.parse s = .ok u) (room : Nat) :
    Schema.uuid.Reads room (.str s) u := by
  intro rest _
  change (stringOr "a formatted UUID string" >>= fun s => accept (uuidOf s))
    (writeString s ++ rest) = _
  rw [bind_of_ok (stringOr_writeString _ s rest), uuidOf, h]
  rfl

theorem reads_timestamp {s : String} {t : Timestamp} (h : Timestamp.parse s = .ok t) (room : Nat) :
    Schema.timestamp.Reads room (.str s) t := by
  intro rest _
  change (stringOr "an RFC 3339 formatted date and time string" >>= fun s =>
    accept (timestampOf s)) (writeString s ++ rest) = _
  rw [bind_of_ok (stringOr_writeString _ s rest), timestampOf, h]
  rfl

theorem reads_none (schema : Schema α) (room : Nat) : schema.optional.Reads room .null none :=
  fun _ _ => rfl

theorem reads_some {schema : Schema α} {s : String} {a : α} (h : schema.Reads room (.str s) a) :
    schema.optional.Reads room (.str s) (some a) := by
  intro rest hrest
  have hread := h hrest
  rw [write, writeString_eq, List.cons_append] at hread ⊢
  refine (bind_of_ok (peek?_cons (c := '"') rfl _) _).trans ?_
  change (some <$> schema.read room : Reader (Option α)) _ = _
  rw [map_eq_pure_bind, bind_of_ok hread]
  rfl

theorem reads_list {schema : Schema α} {docs : List Json} {as : List α}
    (h : List.Forall₂ (schema.Reads room) docs as) :
    schema.list.Reads (room + 1) (.arr docs) as := by
  intro rest _
  have htext : (Json.arr docs).write ++ rest = '[' :: (writeItems docs ++ ']' :: rest) := by
    simp only [write, List.append_assoc, List.cons_append, List.nil_append]
  rw [htext]
  exact sequenceOf_write h rest

theorem read_numeral {t : NumberText} (ht : t.Proper) (hrest : Delimits rest) (room : Nat) :
    Schema.number.read room (t.spelled ++ rest) =
      t.number?.elim (.error .malformed) fun n => .ok (n.toFloat, rest) := by
  obtain ⟨c, ds, hcs, hc⟩ := IsNumeral.head ⟨t, ht, rfl⟩
  have hread : readNumber (t.spelled ++ rest) =
      t.number?.elim (.error .malformed) fun n => .ok (n, rest) := by
    simp only [readNumber, ofRest, ht.read hrest, bind, Except.bind]
    cases t.number? <;> rfl
  have hnumber : numberOr "f64" (t.spelled ++ rest) = readNumber (t.spelled ++ rest) := by
    rw [hcs, List.cons_append, numberOr, bind_of_ok (peek?_cons (other_of_numeral hc).1 _)]
    simp only [if_pos hc]
  change (Number.toFloat <$> numberOr "f64" : Reader Float) _ = _
  rw [map_eq_pure_bind, bind_run, hnumber, hread]
  cases t.number? <;> rfl

/-- A number whose text is read back. -/
def Legible (x : Float) : Prop := Schema.number.readText (Json.float x).render = .ok x

instance (x : Float) : Decidable (Legible x) :=
  decidable_of_iff ((Schema.number.readText (Json.float x).render).toOption = some x) <| by
    rw [Legible]
    cases Schema.number.readText (Json.float x).render <;> simp [Except.toOption]

/-- A number that is read back has digits: it is not written as `null`. -/
theorem Legible.isNumeral {x : Float} (h : Legible x) : IsNumeral (writeFloat x) := by
  refine (writeFloat_cases x).resolve_left fun hnull => ?_
  have hrender : (Json.float x).render = "null" := by
    change String.ofList (writeFloat x) = "null"
    rw [hnull]
    rfl
  rw [Legible, hrender] at h
  exact nomatch h

theorem Legible.reads {x : Float} (h : Legible x) (room : Nat) :
    Schema.number.Reads room (.float x) x := by
  have hwrite : (Json.float x).write = writeFloat x := rfl
  obtain ⟨t, ht, hnumeral⟩ := h.isNumeral
  intro rest hrest
  rw [Legible, readText, runText, render, String.toList_ofList, hwrite, bind_run] at h
  have hread := read_numeral ht delimits_nil nestingLimit
  rw [List.append_nil] at hread
  rw [hnumeral, hread] at h
  rw [hwrite, hnumeral, read_numeral ht hrest]
  cases hn : t.number? with
  | none =>
    rw [hn] at h
    exact nomatch h
  | some n =>
    rw [hn] at h
    rw [← Except.ok.inj h]
    rfl

end Schema

/-! ## Records -/

theorem Json.colon_cons (rest : List Char) : colon (':' :: rest) = .ok ((), rest) := rfl

/-- The members of a name. -/
def Json.named (name : String) (members : List (String × Json)) : List (String × Json) :=
  members.filter fun m => m.1 == name

section Named

variable {k name : String} (doc : Json) (members ms : List (String × Json))

theorem Json.named_cons_self : named k ((k, doc) :: members) = (k, doc) :: named k members :=
  List.filter_cons_of_pos (beq_self_eq_true k)

theorem Json.named_cons_of_ne (h : k ≠ name) :
    named name ((k, doc) :: members) = named name members :=
  List.filter_cons_of_neg (by simpa using h)

theorem Json.named_append (n : String) : named n (members ++ ms) = named n members ++ named n ms :=
  List.filter_append ..

end Named

namespace Fields

/-- Members, apart from those that have been read into slots, give the fields their values: each
field stands there once, or it is absent and has its default. Other members do not matter. -/
def Gives (room : Nat) : {α : Type} → (fs : Fields α) → fs.Slots → List (String × Json) → α → Prop
  | _, .nil, _, _, _ => True
  | _, .cons (α := α) name schema default rest, slots, members, a =>
    let slots : Option α × rest.Slots := slots
    (match slots.1 with
      | some b => named name members = [] ∧ b = a.1
      | none => named name members = [] ∧ default = some a.1 ∨
        ∃ doc, named name members = [(name, doc)] ∧ schema.Reads room doc a.1) ∧
      rest.Gives room slots.2 members a.2

/-- Which values the fields get depends on the members of each name alone, not on their order among
others. -/
theorem Gives.of_named {members ms : List (String × Json)} :
    {α : Type} → {fs : Fields α} → {slots : fs.Slots} → {a : α} →
    fs.Gives room slots members a →
    (∀ n ∈ fs.names, (named n ms).Perm (named n members)) → fs.Gives room slots ms a
  | _, .nil, _, _, _, _ => trivial
  | _, .cons name schema default rest, slots, a, h, hperm => by
    change Option _ × rest.Slots at slots
    obtain ⟨slot, slots⟩ := slots
    obtain ⟨hfield, hrest⟩ := h
    have hname : (named name ms).Perm (named name members) := hperm name List.mem_cons_self
    refine ⟨?_, hrest.of_named fun n hn => hperm n (List.mem_cons_of_mem name hn)⟩
    have hnil (hnone : named name members = []) : named name ms = [] :=
      (hnone ▸ hname).eq_nil
    have hone {doc : Json} (h : named name members = [(name, doc)]) :
        named name ms = [(name, doc)] := (h ▸ hname).eq_singleton
    cases slot with
    | some b => exact ⟨hnil hfield.1, hfield.2⟩
    | none =>
      rcases hfield with ⟨hnone, hdefault⟩ | ⟨doc, h, hread⟩
      · exact .inl ⟨hnil hnone, hdefault⟩
      · exact .inr ⟨doc, hone h, hread⟩

section Cons

variable (name : String) (schema : Schema α) (default : Option α) (fs : Fields β)
  (slots : Option α × fs.Slots)

theorem readMember_cons (k : String) :
    (Fields.cons name schema default fs).readMember room slots k =
      if k = name then
        if slots.1.isSome then mismatch (.duplicateField name)
        else do
          colon
          return (some (← schema.read room), slots.2)
      else do return (slots.1, ← fs.readMember room slots.2 k) :=
  rfl

theorem readMember_self {doc : Json} {a : α} (hread : schema.Reads room doc a)
    (hslot : slots.1 = none) (hrest : Delimits rest) :
    (Fields.cons name schema default fs).readMember room slots name (':' :: (doc.write ++ rest)) =
      .ok ((some a, slots.2), rest) := by
  refine (congrFun (readMember_cons ..) _).trans ?_
  simp only [if_true, hslot, Option.isSome_none, Bool.false_eq_true, if_false]
  rw [bind_of_ok (colon_cons _), bind_of_ok (hread hrest)]
  rfl

theorem readMember_of_ne {k : String} {slots' : fs.Slots} {cs : List Char} (hk : k ≠ name)
    (h : fs.readMember room slots.2 k cs = .ok (slots', rest)) :
    (Fields.cons name schema default fs).readMember room slots k cs =
      .ok ((slots.1, slots'), rest) := by
  refine (congrFun (readMember_cons ..) _).trans ?_
  rw [if_neg hk, bind_of_ok h]
  rfl

theorem finish_cons {a : α} {b : β} (ha : slots.1.or default = some a)
    (hb : fs.finish slots.2 = .ok b) :
    (Fields.cons name schema default fs).finish slots = .ok (a, b) := by
  change (do
    let a ← match slots.1.or default with
      | some a => pure a
      | none => throw (.missingField name)
    return (a, ← fs.finish slots.2) : Except Mismatch (α × β)) = _
  simp only [ha, hb]
  rfl

end Cons

theorem Gives.tail {k : String} {doc : Json} {members : List (String × Json)} :
    {α : Type} → {fs : Fields α} → {slots : fs.Slots} → {a : α} →
    fs.Gives room slots ((k, doc) :: members) a → k ∉ fs.names → fs.Gives room slots members a
  | _, .nil, _, _, _, _ => trivial
  | _, .cons name schema default rest, slots, a, h, hk => by
    rw [names, List.mem_cons, not_or] at hk
    obtain ⟨hfield, hrest⟩ := h
    rw [named_cons_of_ne doc members hk.1] at hfield
    exact ⟨hfield, hrest.tail hk.2⟩

/-- The next member is read into its slot, or passed over. -/
theorem Gives.step {k : String} {doc : Json} {members : List (String × Json)} :
    {α : Type} → {fs : Fields α} → {slots : fs.Slots} → {a : α} → fs.names.Nodup →
    fs.Gives room slots ((k, doc) :: members) a → ∃ slots', fs.Gives room slots' members a ∧
      ∀ ⦃rest⦄, Delimits rest →
        fs.readMember room slots k (':' :: (doc.write ++ rest)) = .ok (slots', rest)
  | _, .nil, _, _, _, _ => by
    refine ⟨(), trivial, fun _ hrest => ?_⟩
    exact (bind_of_ok (colon_cons _) _).trans (skipValue_write doc hrest)
  | _, .cons name schema default rest, slots, a, hnames, h => by
    change Option _ × rest.Slots at slots
    obtain ⟨slot, slots⟩ := slots
    obtain ⟨hname, hnames⟩ := List.nodup_cons.mp hnames
    obtain ⟨hfield, hrest⟩ := h
    by_cases hk : k = name
    · subst hk
      rw [named_cons_self] at hfield
      -- The name stands here, so it has not been met before and does not follow.
      cases slot with
      | some b => exact nomatch hfield.1
      | none =>
        rcases hfield with ⟨hnil, -⟩ | ⟨doc', hone, hread⟩
        · exact nomatch hnil
        · obtain ⟨hdoc, hnone⟩ := List.cons.inj hone
          obtain rfl := (Prod.mk.inj hdoc).2
          exact ⟨(some a.1, slots), ⟨⟨hnone, rfl⟩, hrest.tail hname⟩,
            fun _ => readMember_self _ _ _ _ _ hread rfl⟩
    · rw [named_cons_of_ne doc members hk] at hfield
      obtain ⟨slots', hgives, hread⟩ := hrest.step hnames
      exact ⟨(slot, slots'), ⟨hfield, hgives⟩,
        fun _ hrest => readMember_of_ne _ _ _ _ _ hk (hread hrest)⟩

/-- When no member is left, the fields have their values. -/
theorem Gives.finish : {α : Type} → {fs : Fields α} → {slots : fs.Slots} → {a : α} →
    fs.Gives room slots [] a → fs.finish slots = .ok a
  | _, .nil, _, _, _ => rfl
  | _, .cons name schema default rest, slots, a, h => by
    change Option _ × rest.Slots at slots
    obtain ⟨slot, slots⟩ := slots
    obtain ⟨hfield, hrest⟩ := h
    have hslot : slot.or default = some a.1 := by
      cases slot with
      | some b => exact congrArg some hfield.2
      | none =>
        rcases hfield with ⟨-, hdefault⟩ | ⟨doc, hnil, -⟩
        · exact hdefault
        · exact nomatch hnil
    exact finish_cons _ _ _ _ _ hslot hrest.finish

theorem Gives.takesIn {fs : Fields α} {slots : fs.Slots} {members : List (String × Json)} {a : α}
    (hnames : fs.names.Nodup) (h : fs.Gives room slots members a) :
    ∃ slots', TakesIn (fs.readMember room) slots members slots' ∧ fs.finish slots' = .ok a := by
  induction members generalizing slots with
  | nil => exact ⟨slots, rfl, h.finish⟩
  | cons m members ih =>
    obtain ⟨slots₁, h₁, hread⟩ := h.step hnames
    obtain ⟨slots', htakes, hfinish⟩ := ih h₁
    exact ⟨slots', ⟨slots₁, hread, htakes⟩, hfinish⟩

end Fields

/-- The names of the fields of a record. -/
def Schema.fieldNames : {α : Type} → Schema α → List String
  | _, .record _ fields _ => fields.names
  | _, _ => []

/-- An object whose members give the fields their values is read as the record. -/
theorem Schema.reads_record {title : String} {fs : Fields α} {build : α → β}
    {members : List (String × Json)} {a : α} (hnames : fs.names.Nodup)
    (h : fs.Gives room fs.empty members a) :
    (Schema.record title fs build).Reads (room + 1) (.obj members) (build a) := by
  intro rest _
  obtain ⟨slots, htakes, hfinish⟩ := h.takesIn hnames
  have htext : (Json.obj members).write ++ rest =
      '\x7b' :: (writeMembers members ++ '\x7d' :: rest) := by
    simp only [write, List.append_assoc, List.cons_append, List.nil_append]
  rw [htext]
  refine (bind_of_ok (peek?_cons (c := '\x7b') rfl _) _).trans ?_
  change (turns >>= fun n => readMembers (fs.readMember room) n true fs.empty >>= fun slots =>
    accept (fs.finish slots) >>= fun a => closeMembers >>= fun _ => pure (build a) : Reader β)
      (writeMembers members ++ '\x7d' :: rest) = _
  rw [bind_of_ok (turns_run _), bind_of_ok (readMembers_all htakes rest), hfinish]
  rfl

/-- A whole text is read if the schema reads the document that it is the text of. -/
theorem Schema.Reads.readText {schema : Schema α} {doc : Json} {a : α}
    (h : schema.Reads nestingLimit doc a) : schema.readText doc.render = .ok a := by
  have hread := h delimits_nil
  rw [List.append_nil] at hread
  rw [Schema.readText, runText, render, String.toList_ofList, bind_of_ok hread]
  rfl

end PositionOverlay
