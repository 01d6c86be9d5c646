import PositionOverlay.Proofs.Json.Numerals
import PositionOverlay.Proofs.Json.Strings

/-! # Values that are passed over

A value of an unknown member is passed over without a look at its structure: a stack says what is
open, and each turn begins one value and closes what ends behind it. The turns that a value takes
are as many as the values in it, and after them the reader stands behind it.
-/
namespace PositionOverlay.Json

open Reader Work

variable {c : Char} {cs rest : List Char}

/-! ## Steps of readers -/

theorem peek?_cons (h : isSpace c = false) (rest : List Char) :
    peek? (c :: rest) = .ok (some c, c :: rest) := by
  simp only [peek?, List.dropWhile_cons, h, Bool.false_eq_true, if_false, List.head?_cons]

theorem skipScalar_null (rest : List Char) :
    skipScalar ("null".toList ++ rest) = .ok (none, rest) := rfl

theorem skipScalar_bool (b : Bool) (rest : List Char) :
    skipScalar ((Json.bool b).write ++ rest) = .ok (none, rest) := by
  cases b <;> rfl

theorem skipScalar_string (s : String) (rest : List Char) :
    skipScalar (writeString s ++ rest) = .ok (none, rest) := by
  have hskip : (ofRest fun cs => do return ((), ← skipString cs) : Reader Unit)
      (stringTail s ++ rest) = .ok ((), rest) := by
    simp only [ofRest, skipString_stringTail]
    rfl
  rw [writeString_eq, List.cons_append]
  change ((ofRest fun cs => do return ((), ← skipString cs)) >>= fun _ => pure none)
    (stringTail s ++ rest) = .ok (none, rest)
  exact bind_of_ok hskip _

/-- A numeral begins with a sign or a digit. -/
theorem IsNumeral.head (h : IsNumeral cs) :
    ∃ c ds, cs = c :: ds ∧ (c = '-' ∨ c.isDigit = true) := by
  obtain ⟨t, ht, rfl⟩ := h
  obtain ⟨d, ds, hd, hds⟩ := ht.unsigned
  unfold NumberText.spelled
  rw [hds]
  cases t.negative with
  | true => exact ⟨'-', d :: ds, rfl, .inl rfl⟩
  | false => exact ⟨d, ds, rfl, .inr hd⟩

/-- Characters that begin other values than numbers, and blanks, begin no numeral. -/
theorem other_of_numeral (h : c = '-' ∨ c.isDigit = true) :
    isSpace c = false ∧ c ≠ 'n' ∧ c ≠ 't' ∧ c ≠ 'f' ∧ c ≠ ']' ∧ c ≠ '\x7d' := by
  rcases h with rfl | h
  · decide
  · refine ⟨?_, ?_, ?_, ?_, ?_, ?_⟩
    · cases hs : isSpace c with
      | false => rfl
      | true =>
        simp only [isSpace, Bool.or_eq_true, decide_eq_true_eq] at hs
        rcases hs with ((rfl | rfl) | rfl) | rfl <;> exact absurd h (by decide)
    all_goals
      rintro rfl
      exact absurd h (by decide)

theorem skipScalar_numeral (h : IsNumeral cs) (hrest : Delimits rest) :
    skipScalar (cs ++ rest) = .ok (none, rest) := by
  have hskip : (ofRest fun cs => do return ((), (← readNumberText .malformed cs).2) : Reader Unit)
      (cs ++ rest) = .ok ((), rest) := by
    obtain ⟨t, ht, rfl⟩ := h
    simp only [ofRest, ht.read hrest]
    rfl
  obtain ⟨c, ds, rfl, hc⟩ := h.head
  obtain ⟨hspace, hn, ht, hf, -⟩ := other_of_numeral hc
  rw [List.cons_append, skipScalar, bind_of_ok (peek?_cons hspace _)]
  dsimp only
  rw [if_neg hn, if_neg ht, if_neg hf, if_pos hc]
  exact bind_of_ok hskip _

/-! ## The stack -/

/-- Begins the next value inside what is open, of which the innermost is given first. -/
def skipNext (bound : Nat) (o : Opened) (outer : List Opened) : Reader Unit := do
  if o = .object then skipName
  skipOpen bound (o :: outer)

/-- Closes what ends here and goes on with what is still open. -/
def skipOn (bound : Nat) (afterValue : Bool) (opened : List Opened) : Reader Unit := do
  match ← skipEnds (← turns) afterValue opened with
  | [] => return
  | o :: outer => skipNext bound o outer

/-- The character that closes what was opened. -/
def Opened.close : Opened → Char
  | sequence => ']'
  | object => '\x7d'

variable {bound : Nat} {opened outer : List Opened} {o : Opened} {afterValue : Bool}

theorem skipOpen_scalar (h : skipScalar cs = .ok (none, rest)) :
    skipOpen (bound + 1) opened cs = skipOn bound true opened rest := bind_of_ok h _

theorem skipOpen_opening (h : skipScalar cs = .ok (some o, rest)) :
    skipOpen (bound + 1) opened cs = skipOn bound false (o :: opened) rest := bind_of_ok h _

theorem turns_run (cs : List Char) : turns cs = .ok (cs.length + 1, cs) := rfl

/-- What is innermost is closed. -/
theorem skipOn_close : skipOn bound afterValue (o :: outer) (o.close :: rest) =
    skipOn bound true outer rest := by
  have hends : skipEnds (rest.length + 2) afterValue (o :: outer) (o.close :: rest) =
      skipEnds (rest.length + 1) true outer rest := by
    cases o <;> cases afterValue <;> rfl
  rw [skipOn, skipOn, bind_of_ok (turns_run _), bind_of_ok (turns_run _), bind_run, bind_run]
  rw [List.length_cons, hends]

theorem skipOn_of_open
    (h : skipEnds (cs.length + 1) afterValue opened cs = .ok (o :: outer, rest)) :
    skipOn bound afterValue opened cs = skipNext bound o outer rest := by
  rw [skipOn, bind_of_ok (turns_run cs), bind_of_ok h]

theorem skipOn_comma :
    skipOn bound true (o :: outer) (',' :: rest) = skipNext bound o outer rest :=
  skipOn_of_open rfl

theorem skipOn_first (hspace : isSpace c = false) (hsequence : c ≠ ']') (hobject : c ≠ '\x7d') :
    skipOn bound false (o :: outer) (c :: rest) = skipNext bound o outer (c :: rest) := by
  refine skipOn_of_open ?_
  rw [skipEnds, bind_of_ok (peek?_cons hspace _)]
  simp [hsequence, hobject]
  rfl

/-! ## Values -/

theorem skipName_writeString (k : String) (rest : List Char) :
    skipName (writeString k ++ ':' :: rest) = .ok ((), rest) := by
  have hskip : (ofRest fun cs => do return ((), ← skipString cs) : Reader Unit)
      (stringTail k ++ ':' :: rest) = .ok ((), ':' :: rest) := by
    simp only [ofRest, skipString_stringTail]
    rfl
  rw [writeString_eq, List.cons_append]
  change ((ofRest fun cs => do return ((), ← skipString cs)) >>= fun _ => colon)
    (stringTail k ++ ':' :: rest) = .ok ((), rest)
  rw [bind_of_ok hskip]
  rfl

/-- A value begins with a character that is no blank and closes nothing. -/
theorem write_head (v : Json) :
    ∃ c ds, v.write = c :: ds ∧ isSpace c = false ∧ c ≠ ']' ∧ c ≠ '\x7d' := by
  have hnumeral {cs : List Char} (h : IsNumeral cs) :
      ∃ c ds, cs = c :: ds ∧ isSpace c = false ∧ c ≠ ']' ∧ c ≠ '\x7d' := by
    obtain ⟨c, ds, rfl, hc⟩ := h.head
    obtain ⟨hspace, -, -, -, hsequence, hobject⟩ := other_of_numeral hc
    exact ⟨c, ds, rfl, hspace, hsequence, hobject⟩
  cases v with
  | null => exact ⟨'n', _, rfl, by decide⟩
  | bool b => cases b <;> exact ⟨_, _, rfl, by decide⟩
  | num n =>
    cases n with
    | int i => exact hnumeral (isNumeral_writeInt i)
    | float x =>
      rcases writeFloat_cases x with h | h
      · exact ⟨'n', _, h, by decide⟩
      · exact hnumeral h
  | str s => exact ⟨'"', _, rfl, by decide⟩
  | arr items => exact ⟨'[', _, rfl, by decide⟩
  | obj members => exact ⟨'\x7b', _, rfl, by decide⟩

mutual

/-- The turns that it takes to pass over a value. -/
def visits : Json → Nat
  | .arr items => visitsOfItems items + 1
  | .obj members => visitsOfMembers members + 1
  | _ => 1

def visitsOfItems : List Json → Nat
  | [] => 0
  | v :: rest => visitsOfItems rest + visits v

def visitsOfMembers : List (String × Json) → Nat
  | [] => 0
  | (_, v) :: rest => visitsOfMembers rest + visits v

end

theorem skipScalar_number (n : Number) (hrest : Delimits rest) :
    skipScalar (writeNumber n ++ rest) = .ok (none, rest) := by
  cases n with
  | int i => exact skipScalar_numeral (isNumeral_writeInt i) hrest
  | float x =>
    rcases writeFloat_cases x with h | h
    · rw [writeNumber, h]
      exact skipScalar_null rest
    · exact skipScalar_numeral h hrest

theorem delimits_close (o : Opened) (rest : List Char) : Delimits (o.close :: rest) := by
  apply delimits_cons
  cases o <;> decide

theorem delimits_comma (rest : List Char) : Delimits (',' :: rest) := delimits_cons rest (by decide)

theorem writeItems_cons_cons (v w : Json) (items : List Json) :
    writeItems (v :: w :: items) = v.write ++ ',' :: writeItems (w :: items) := rfl

theorem writeMembers_cons_cons (k : String) (v : Json) (m : String × Json)
    (members : List (String × Json)) : writeMembers ((k, v) :: m :: members) =
      writeString k ++ ':' :: v.write ++ ',' :: writeMembers (m :: members) := rfl

theorem writeItems_head {items : List Json} (h : items ≠ []) (rest : List Char) :
    ∃ c ds, writeItems items ++ rest = c :: ds ∧ isSpace c = false ∧ c ≠ ']' ∧ c ≠ '\x7d' := by
  obtain ⟨v, items, rfl⟩ := List.exists_cons_of_ne_nil h
  obtain ⟨c, ds, hv, hc⟩ := write_head v
  cases items with
  | nil => exact ⟨c, ds ++ rest, by rw [writeItems, hv]; rfl, hc⟩
  | cons w items => exact ⟨c, _, by rw [writeItems_cons_cons, hv]; rfl, hc⟩

theorem writeMembers_head {members : List (String × Json)} (h : members ≠ [])
    (rest : List Char) : ∃ ds, writeMembers members ++ rest = '"' :: ds := by
  obtain ⟨m, members, rfl⟩ := List.exists_cons_of_ne_nil h
  cases members with
  | nil => exact ⟨_, rfl⟩
  | cons m' members => exact ⟨_, rfl⟩

theorem skipNext_member (k : String) (cs : List Char) :
    skipNext bound .object outer (writeString k ++ ':' :: cs) =
      skipOpen bound (.object :: outer) cs := bind_of_ok (skipName_writeString k cs) _

theorem skipOn_sequence {items : List Json} (h : items ≠ []) (rest : List Char) :
    skipOn bound false (.sequence :: outer) (writeItems items ++ rest) =
      skipOpen bound (.sequence :: outer) (writeItems items ++ rest) := by
  obtain ⟨c, ds, hhead, hspace, hsequence, hobject⟩ := writeItems_head h rest
  rw [hhead]
  exact skipOn_first hspace hsequence hobject

theorem skipOn_object {members : List (String × Json)} (h : members ≠ []) (rest : List Char) :
    skipOn bound false (.object :: outer) (writeMembers members ++ rest) =
      skipNext bound .object outer (writeMembers members ++ rest) := by
  obtain ⟨ds, hhead⟩ := writeMembers_head h rest
  rw [hhead]
  exact skipOn_first (by decide) (by decide) (by decide)

mutual

/-- A value is passed over. -/
theorem skipOpen_write : (v : Json) → (bound : Nat) → (opened : List Opened) →
    {rest : List Char} → Delimits rest →
    skipOpen (bound + visits v) opened (v.write ++ rest) = skipOn bound true opened rest
  | .null, _, _, rest, _ => skipOpen_scalar (skipScalar_null rest)
  | .bool b, _, _, rest, _ => skipOpen_scalar (skipScalar_bool b rest)
  | .num n, _, _, _, hrest => skipOpen_scalar (skipScalar_number n hrest)
  | .str s, _, _, rest, _ => skipOpen_scalar (skipScalar_string s rest)
  | .arr items, bound, opened, rest, _ => by
    have htext : (Json.arr items).write ++ rest = '[' :: (writeItems items ++ ']' :: rest) := by
      simp only [write, List.append_assoc, List.cons_append, List.nil_append]
    have hopen (cs : List Char) : skipScalar ('[' :: cs) = .ok (some .sequence, cs) := rfl
    rw [htext, visits, ← Nat.add_assoc, skipOpen_opening (hopen _)]
    by_cases hitems : items = []
    · subst hitems
      exact skipOn_close (o := .sequence)
    · rw [skipOn_sequence hitems]
      exact skipOpen_writeItems items hitems bound opened rest
  | .obj members, bound, opened, rest, _ => by
    have htext : (Json.obj members).write ++ rest =
        '\x7b' :: (writeMembers members ++ '\x7d' :: rest) := by
      simp only [write, List.append_assoc, List.cons_append, List.nil_append]
    have hopen (cs : List Char) : skipScalar ('\x7b' :: cs) = .ok (some .object, cs) := rfl
    rw [htext, visits, ← Nat.add_assoc, skipOpen_opening (hopen _)]
    by_cases hmembers : members = []
    · subst hmembers
      exact skipOn_close (o := .object)
    · rw [skipOn_object hmembers]
      exact skipNext_writeMembers members hmembers bound opened rest

/-- The items of a sequence are passed over, and its end. -/
theorem skipOpen_writeItems : (items : List Json) → items ≠ [] → (bound : Nat) →
    (opened : List Opened) → (rest : List Char) →
    skipOpen (bound + visitsOfItems items) (.sequence :: opened)
      (writeItems items ++ ']' :: rest) = skipOn bound true opened rest
  | [], h, _, _, _ => absurd rfl h
  | [v], _, bound, opened, rest => by
    rw [visitsOfItems, visitsOfItems, Nat.zero_add]
    exact (skipOpen_write v bound _ (delimits_close .sequence rest)).trans
      (skipOn_close (o := .sequence))
  | v :: w :: items, _, bound, opened, rest => by
    rw [visitsOfItems, ← Nat.add_assoc, writeItems_cons_cons, List.append_assoc, List.cons_append,
      skipOpen_write v _ _ (delimits_comma _), skipOn_comma]
    exact skipOpen_writeItems (w :: items) nofun bound opened rest

/-- The members of an object are passed over, and its end. -/
theorem skipNext_writeMembers : (members : List (String × Json)) → members ≠ [] →
    (bound : Nat) → (opened : List Opened) → (rest : List Char) →
    skipNext (bound + visitsOfMembers members) .object opened
      (writeMembers members ++ '\x7d' :: rest) = skipOn bound true opened rest
  | [], h, _, _, _ => absurd rfl h
  | [(k, v)], _, bound, opened, rest => by
    rw [visitsOfMembers, visitsOfMembers, Nat.zero_add, writeMembers, List.append_assoc,
      List.cons_append, skipNext_member]
    exact (skipOpen_write v bound _ (delimits_close .object rest)).trans
      (skipOn_close (o := .object))
  | (k, v) :: m :: members, _, bound, opened, rest => by
    rw [visitsOfMembers, ← Nat.add_assoc, writeMembers_cons_cons]
    simp only [List.append_assoc, List.cons_append]
    rw [skipNext_member, skipOpen_write v _ _ (delimits_comma _), skipOn_comma]
    exact skipNext_writeMembers (m :: members) nofun bound opened rest

end

mutual

/-- A value takes no more turns than it has characters. -/
theorem visits_le : (v : Json) → visits v ≤ v.write.length
  | .null => by decide
  | .bool b => by cases b <;> decide
  | .num n => by
    obtain ⟨c, ds, h, -⟩ := write_head (.num n)
    rw [h]
    exact Nat.succ_le_succ (Nat.zero_le _)
  | .str s => Nat.succ_le_succ (Nat.zero_le _)
  | .arr items => by
    have := visitsOfItems_le items
    simp only [visits, write, List.length_append, List.length_cons]
    omega
  | .obj members => by
    have := visitsOfMembers_le members
    simp only [visits, write, List.length_append, List.length_cons]
    omega

theorem visitsOfItems_le : (items : List Json) → visitsOfItems items ≤ (writeItems items).length
  | [] => Nat.zero_le _
  | [v] => by
    rw [visitsOfItems, visitsOfItems, Nat.zero_add]
    exact visits_le v
  | v :: w :: items => by
    have := visits_le v
    have := visitsOfItems_le (w :: items)
    rw [visitsOfItems, writeItems_cons_cons, List.length_append, List.length_cons]
    omega

theorem visitsOfMembers_le : (members : List (String × Json)) →
    visitsOfMembers members ≤ (writeMembers members).length
  | [] => Nat.zero_le _
  | [(k, v)] => by
    have := visits_le v
    simp only [visitsOfMembers, writeMembers, List.length_append, List.length_cons]
    omega
  | (k, v) :: m :: members => by
    have := visits_le v
    have := visitsOfMembers_le (m :: members)
    simp only [visitsOfMembers, writeMembers_cons_cons, List.length_append, List.length_cons]
      at this ⊢
    omega

end

/-- Every value is passed over as a whole, however deeply nested. -/
theorem skipValue_write (v : Json) {rest : List Char} (hrest : Delimits rest) :
    skipValue (v.write ++ rest) = .ok ((), rest) := by
  have hbound : visits v ≤ (v.write ++ rest).length + 1 := by
    have := visits_le v
    rw [List.length_append]
    omega
  obtain ⟨bound, hbound⟩ := Nat.exists_eq_add_of_le' hbound
  rw [skipValue, bind_of_ok (turns_run _), hbound, skipOpen_write v bound [] hrest]
  rfl

end PositionOverlay.Json
