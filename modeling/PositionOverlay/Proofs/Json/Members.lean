import PositionOverlay.Proofs.Json.Skipping

/-! # Items and members that are read one after the other

What a reader makes of the text of each item it makes of a whole sequence, and what it makes of the
text of each member it makes of a whole object.
-/
namespace PositionOverlay.Json

open Reader Work

variable {α σ : Type} {c : Char} {rest : List Char}

/-! ## Sequences -/

/-- A reader reads the text of a value as a result, if nothing follows that belongs to the text. -/
def ReadAs (item : Reader α) (v : Json) (a : α) : Prop :=
  ∀ ⦃rest⦄, Delimits rest → item (v.write ++ rest) = .ok (a, rest)

/-- The text of the items that are left. -/
def itemsText : (first : Bool) → List Json → List Char
  | true, items => writeItems items
  | false, [] => []
  | false, v :: items => ',' :: writeItems (v :: items)

theorem writeItems_cons (v : Json) (items : List Json) :
    writeItems (v :: items) = v.write ++ itemsText false items := by
  cases items with
  | nil => rw [itemsText, List.append_nil, writeItems]
  | cons w items => rfl

theorem delimits_itemsText (items : List Json) (rest : List Char) :
    Delimits (itemsText false items ++ ']' :: rest) := by
  cases items with
  | nil => exact delimits_close .sequence rest
  | cons v items => exact delimits_comma _

theorem nextItem?_nil (first : Bool) (rest : List Char) :
    nextItem? first (itemsText first [] ++ ']' :: rest) = .ok (false, ']' :: rest) := by
  cases first <;> rfl

theorem nextItem?_cons (first : Bool) (v : Json) (items : List Json) (rest : List Char) :
    nextItem? first (itemsText first (v :: items) ++ rest) =
      .ok (true, v.write ++ (itemsText false items ++ rest)) := by
  obtain ⟨c, ds, hv, hspace, hsequence, -⟩ := write_head v
  have htext : writeItems (v :: items) ++ rest =
      c :: (ds ++ (itemsText false items ++ rest)) := by
    rw [writeItems_cons, hv, List.append_assoc, List.cons_append]
  cases first with
  | true =>
    rw [itemsText, htext, nextItem?, bind_of_ok (peek?_cons hspace _), hv]
    simp only [if_neg hsequence, if_true]
    rfl
  | false =>
    have hadvance (cs : List Char) : advance (',' :: cs) = .ok ((), cs) := rfl
    rw [itemsText, List.cons_append, htext, hv, nextItem?, bind_of_ok (peek?_cons rfl _)]
    simp only [Char.reduceEq, if_false, Bool.false_eq_true, if_true]
    rw [bind_of_ok (hadvance _), bind_of_ok (peek?_cons hspace _)]
    simp only [if_neg hsequence]
    rfl

theorem readItems_write {item : Reader α} {items : List Json} {as : List α} {bound : Nat}
    (h : List.Forall₂ (ReadAs item) items as) (hbound : items.length < bound) (first : Bool)
    (rest : List Char) :
    readItems item bound first (itemsText first items ++ ']' :: rest) = .ok (as, ']' :: rest) := by
  induction h generalizing first bound with
  | nil =>
    obtain ⟨bound, rfl⟩ := Nat.exists_eq_add_of_lt hbound
    rw [readItems, bind_of_ok (nextItem?_nil first rest)]
    rfl
  | @cons v a items as hv _ ih =>
    obtain ⟨bound, rfl⟩ := Nat.exists_eq_add_of_lt hbound
    have hitems := @ih ((v :: items).length + bound) (by rw [List.length_cons]; omega) false
    rw [readItems, bind_of_ok (nextItem?_cons first v items _)]
    simp only [if_true]
    rw [bind_of_ok (hv (delimits_itemsText items rest)), bind_of_ok hitems]
    rfl

theorem length_le_writeItems (items : List Json) : items.length ≤ (writeItems items).length := by
  induction items with
  | nil => exact Nat.zero_le _
  | cons v items ih =>
    obtain ⟨c, ds, hv, -⟩ := write_head v
    rw [writeItems_cons, hv, List.length_cons, List.length_append, List.length_cons]
    cases items with
    | nil =>
      rw [List.length_nil]
      omega
    | cons w items =>
      have htail : (itemsText false (w :: items)).length = (writeItems (w :: items)).length + 1 :=
        rfl
      omega

/-- The items of a sequence are read, and its end. -/
theorem sequenceOf_write {item : Reader α} {items : List Json} {as : List α}
    (h : List.Forall₂ (ReadAs item) items as) (rest : List Char) :
    sequenceOf item (writeItems items ++ ']' :: rest) = .ok (as, rest) := by
  have hbound : items.length < (writeItems items ++ ']' :: rest).length + 1 := by
    have := length_le_writeItems items
    rw [List.length_append]
    omega
  have hitems := readItems_write h hbound true rest
  rw [itemsText] at hitems
  rw [sequenceOf, bind_of_ok (turns_run _), bind_of_ok hitems]
  rfl

/-! ## Objects -/

/-- A reader of members takes some members in, one after the other. -/
def TakesIn (step : σ → String → Reader σ) : σ → List (String × Json) → σ → Prop
  | s, [], s' => s' = s
  | s, (k, v) :: members, s' => ∃ s₁, (∀ ⦃rest⦄, Delimits rest →
      step s k (':' :: (v.write ++ rest)) = .ok (s₁, rest)) ∧ TakesIn step s₁ members s'

/-- The text of the members that are left. -/
def membersText : (first : Bool) → List (String × Json) → List Char
  | true, members => writeMembers members
  | false, [] => []
  | false, m :: members => ',' :: writeMembers (m :: members)

theorem writeMembers_cons (k : String) (v : Json) (members : List (String × Json)) :
    writeMembers ((k, v) :: members) =
      writeString k ++ ':' :: (v.write ++ membersText false members) := by
  cases members with
  | nil => rw [membersText, List.append_nil, writeMembers]
  | cons m members => rw [writeMembers_cons_cons, List.append_assoc, List.cons_append]; rfl

theorem delimits_membersText (members : List (String × Json)) (rest : List Char) :
    Delimits (membersText false members ++ '\x7d' :: rest) := by
  cases members with
  | nil => exact delimits_close .object rest
  | cons m members => exact delimits_comma _

theorem nextName?_nil (first : Bool) (rest : List Char) :
    nextName? first (membersText first [] ++ '\x7d' :: rest) = .ok (none, '\x7d' :: rest) := by
  cases first <;> rfl

theorem nextName?_cons (first : Bool) (k : String) (v : Json) (members : List (String × Json))
    (rest : List Char) : nextName? first (membersText first ((k, v) :: members) ++ rest) =
      .ok (some k, ':' :: (v.write ++ (membersText false members ++ rest))) := by
  have htext : writeMembers ((k, v) :: members) ++ rest =
      '"' :: (stringTail k ++ ':' :: (v.write ++ (membersText false members ++ rest))) := by
    rw [writeMembers_cons, writeString_eq]
    simp only [List.append_assoc, List.cons_append]
  have hname (cs : List Char) : (some <$> ofRest (readString []) : Reader (Option String))
      (stringTail k ++ cs) = .ok (some k, cs) := by
    rw [map_eq_pure_bind]
    refine (bind_of_ok ?_ _).trans rfl
    exact readString_stringTail cs k
  cases first with
  | true =>
    rw [membersText, htext]
    exact hname _
  | false =>
    rw [membersText, List.cons_append, htext]
    exact hname _

theorem readMembers_write {step : σ → String → Reader σ} {members : List (String × Json)}
    {s s' : σ} {bound : Nat} (h : TakesIn step s members s') (hbound : members.length < bound)
    (first : Bool) (rest : List Char) :
    readMembers step bound first s (membersText first members ++ '\x7d' :: rest) =
      .ok (s', '\x7d' :: rest) := by
  induction members generalizing first bound s with
  | nil =>
    obtain ⟨bound, rfl⟩ := Nat.exists_eq_add_of_lt hbound
    obtain rfl : s' = s := h
    rw [readMembers, bind_of_ok (nextName?_nil first rest)]
    rfl
  | cons m members ih =>
    obtain ⟨k, v⟩ := m
    obtain ⟨s₁, hstep, h⟩ := h
    obtain ⟨bound, rfl⟩ := Nat.exists_eq_add_of_lt hbound
    have hmembers := @ih s₁ (((k, v) :: members).length + bound) h
      (by rw [List.length_cons]; omega) false
    rw [readMembers, bind_of_ok (nextName?_cons first k v members _)]
    dsimp only
    rw [bind_of_ok (hstep (delimits_membersText members rest)), hmembers]

theorem length_le_writeMembers (members : List (String × Json)) :
    members.length ≤ (writeMembers members).length := by
  induction members with
  | nil => exact Nat.zero_le _
  | cons m members ih =>
    obtain ⟨k, v⟩ := m
    rw [writeMembers_cons, List.length_append, List.length_cons, List.length_cons,
      List.length_append]
    cases members with
    | nil =>
      rw [List.length_nil]
      omega
    | cons m members =>
      have htail : (membersText false (m :: members)).length =
        (writeMembers (m :: members)).length + 1 := rfl
      omega

/-- The members of an object are read, up to its end. -/
theorem readMembers_all {step : σ → String → Reader σ} {members : List (String × Json)} {s s' : σ}
    (h : TakesIn step s members s') (rest : List Char) :
    readMembers step ((writeMembers members ++ '\x7d' :: rest).length + 1) true s
      (writeMembers members ++ '\x7d' :: rest) = .ok (s', '\x7d' :: rest) := by
  refine readMembers_write h ?_ true rest
  have := length_le_writeMembers members
  rw [List.length_append]
  omega

end PositionOverlay.Json
