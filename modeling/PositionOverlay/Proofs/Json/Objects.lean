import Mathlib.Tactic.SplitIfs
import PositionOverlay.Proofs.Work
import PositionOverlay.Schema.Reader

/-! # Objects that are read once more

If a text can be read as a value, then what another reader makes of the text follows from the value:
a reader of strings reads it if the value is a string, and a reader that takes in the members of an
object takes in the members of the value.
-/
namespace PositionOverlay.Json

open Reader Work

variable {α σ : Type} {room : Nat} {cs ds rest rest' : List Char} {c : Char} {v : Json}

/-- Reads a member behind its name, and keeps it behind the others. -/
def keepMember (room : Nat) (ms : List (String × Json)) (name : String) :
    Reader (List (String × Json)) := do
  colon
  return ms ++ [(name, ← readValue room)]

/-- How a value begins that is read up to the given rest. -/
inductive Begins (rest : List Char) : Nat → Char → List Char → Json → Prop where
  | string {room : Nat} {ds : List Char} {s : String} (h : readString [] ds = .ok (s, rest)) :
    Begins rest room '"' ds (.str s)
  | object {room : Nat} {ds : List Char} {members : List (String × Json)}
    (h : membersOf (keepMember room) [] ds = .ok (members, rest)) :
    Begins rest (room + 1) '\x7b' ds (.obj members)
  | other {room : Nat} {c : Char} {ds : List Char} {v : Json} (hc : c ≠ '"' ∧ c ≠ '\x7b')
    (hv : (∀ s, v ≠ .str s) ∧ ∀ members, v ≠ .obj members) : Begins rest room c ds v

theorem mismatch_ne_ok (m : Mismatch) (a : α) : (mismatch m : Reader α) cs ≠ .ok (a, rest) := nofun

/-- What is refused is not read. -/
theorem refuse_ne_ok (expected : String) (a : α) :
    (refuse expected : Reader α) cs ≠ .ok (a, rest) := by
  intro h
  obtain ⟨_, _, -, h⟩ := bind_eq_ok.mp h
  exact mismatch_ne_ok _ a h

theorem peek?_eq_ok {o : Option Char} {cs' : List Char} (h : peek? cs = .ok (o, cs')) :
    o = none ∧ cs' = [] ∨ ∃ c ds, o = some c ∧ cs' = c :: ds := by
  obtain ⟨rfl, rfl⟩ := Prod.mk.inj (Except.ok.inj h)
  rcases cs.dropWhile isSpace with _ | ⟨c, ds⟩
  · exact .inl ⟨rfl, rfl⟩
  · exact .inr ⟨c, ds, rfl, rfl⟩

/-- What is made of the result of a reader. -/
theorem map_eq_ok {β : Type} {r : Reader α} {f : α → β} {b : β}
    (h : (do return f (← r) : Reader β) cs = .ok (b, rest)) :
    ∃ a, r cs = .ok (a, rest) ∧ b = f a := by
  obtain ⟨a, _, hr, h⟩ := bind_eq_ok.mp h
  obtain ⟨rfl, rfl⟩ := Prod.mk.inj (Except.ok.inj h)
  exact ⟨a, hr, rfl⟩

/-- The first character decides how a value is read. -/
theorem readValue_begins (h : readValue room cs = .ok (v, rest)) :
    ∃ c ds, peek? cs = .ok (some c, c :: ds) ∧ Begins rest room c ds v := by
  rw [readValue.eq_def] at h
  obtain ⟨o, cs', hpeek, h⟩ := bind_eq_ok.mp h
  obtain ⟨rfl, rfl⟩ | ⟨c, ds, rfl, rfl⟩ := peek?_eq_ok hpeek
  · exact nomatch h
  · refine ⟨c, ds, hpeek, ?_⟩
    dsimp only at h
    split_ifs at h with hn ht hf hnumber hquote hbracket hbrace
    · obtain ⟨-, -, -, ⟨⟩⟩ := bind_eq_ok.mp h
      exact .other (by simp [hn]) ⟨nofun, nofun⟩
    · obtain ⟨-, -, -, ⟨⟩⟩ := bind_eq_ok.mp h
      exact .other (by simp [ht]) ⟨nofun, nofun⟩
    · obtain ⟨-, -, -, ⟨⟩⟩ := bind_eq_ok.mp h
      exact .other (by simp [hf]) ⟨nofun, nofun⟩
    · obtain ⟨-, -, rfl⟩ := map_eq_ok h
      refine .other ⟨?_, ?_⟩ ⟨nofun, nofun⟩ <;> rintro rfl <;> simp at hnumber
    · subst hquote
      obtain ⟨s, hs, rfl⟩ := map_eq_ok h
      exact .string hs
    · cases room with
      | zero => exact nomatch h
      | succ room =>
        obtain ⟨-, -, rfl⟩ := map_eq_ok h
        exact .other (by simp [hbracket]) ⟨nofun, nofun⟩
    · cases room with
      | zero => exact nomatch h
      | succ room =>
        subst hbrace
        obtain ⟨members, hmembers, rfl⟩ := map_eq_ok h
        exact .object hmembers
    · exact nomatch h

/-- A reader of strings reads strings, and nothing else. -/
theorem stringOr_eq_ok_iff (h : readValue room cs = .ok (v, rest)) (expected : String)
    {s : String} :
    stringOr expected cs = .ok (s, rest') ↔ v = .str s ∧ rest' = rest := by
  obtain ⟨c, ds, hpeek, hbegins⟩ := readValue_begins h
  have hnext : nextIs '"' cs = .ok (decide ('"' = c), c :: ds) := by
    rw [nextIs, bind_of_ok hpeek]
    rfl
  rw [stringOr, bind_of_ok hnext]
  cases hbegins with
  | string hs =>
    change readString [] ds = _ ↔ _
    rw [hs]
    simp [eq_comm]
  | object _ => exact ⟨fun h => absurd h (refuse_ne_ok expected s), fun h => nomatch h.1⟩
  | other hc hv =>
    rw [decide_eq_false (Ne.symm hc.1)]
    exact ⟨fun h => absurd h (refuse_ne_ok expected s), fun h => absurd h.1 (hv.1 s)⟩

/-! ## Members -/

/-- Behind the name of a member, a reader makes of its text what `f` makes of its value. -/
def Echoes (step : σ → String → Reader σ) (room : Nat) (f : σ → String → Json → Option σ) : Prop :=
  ∀ ⦃s name cs v rest⦄, (colon >>= fun _ => readValue room) cs = .ok (v, rest) → ∀ s' rest',
    step s name cs = .ok (s', rest') ↔ f s name v = some s' ∧ rest' = rest

theorem keepMember_eq_ok {ms ms' : List (String × Json)} {name : String}
    (h : keepMember room ms name cs = .ok (ms', rest)) :
    ∃ v, (colon >>= fun _ => readValue room) cs = .ok (v, rest) ∧ ms' = ms ++ [(name, v)] := by
  obtain ⟨_, cs', hcolon, h⟩ := bind_eq_ok.mp h
  obtain ⟨v, hv, rfl⟩ := map_eq_ok h
  exact ⟨v, (bind_of_ok hcolon _).trans hv, rfl⟩

/-- The members that have been kept are those that another reader takes in. -/
theorem Echoes.readMembers {step : σ → String → Reader σ} {f : σ → String → Json → Option σ}
    (hstep : Echoes step room f) {bound : Nat} {first : Bool} {ms ms' : List (String × Json)}
    (h : readMembers (keepMember room) bound first ms cs = .ok (ms', rest)) :
    ∃ new, ms' = ms ++ new ∧ ∀ s s' rest', readMembers step bound first s cs = .ok (s', rest') ↔
      new.foldlM (fun s m => f s m.1 m.2) s = some s' ∧ rest' = rest := by
  induction bound generalizing first ms cs with
  | zero => exact nomatch h
  | succ bound ih =>
    rw [Json.readMembers] at h
    obtain ⟨found, cs', hname, h⟩ := bind_eq_ok.mp h
    cases found with
    | none =>
      obtain ⟨rfl, rfl⟩ := Prod.mk.inj (Except.ok.inj h)
      refine ⟨[], (List.append_nil _).symm, fun s s' rest' => ?_⟩
      rw [Json.readMembers, bind_of_ok hname]
      simp [pure_run, eq_comm]
    | some name =>
      obtain ⟨ms₁, cs₁, hkept, h⟩ := bind_eq_ok.mp h
      obtain ⟨v, hv, rfl⟩ := keepMember_eq_ok hkept
      obtain ⟨new, rfl, hnew⟩ := ih h
      refine ⟨(name, v) :: new, List.append_assoc .., fun s s' rest' => ?_⟩
      rw [Json.readMembers, bind_of_ok hname, List.foldlM_cons, Option.bind_eq_bind]
      dsimp only
      rw [bind_eq_ok]
      simp only [hstep hv, Option.bind_eq_some_iff]
      constructor
      · rintro ⟨s₁, _, ⟨hs₁, rfl⟩, hread⟩
        obtain ⟨hfold, rfl⟩ := (hnew s₁ s' rest').mp hread
        exact ⟨⟨s₁, hs₁, hfold⟩, rfl⟩
      · rintro ⟨⟨s₁, hs₁, hfold⟩, rfl⟩
        exact ⟨s₁, cs₁, ⟨hs₁, rfl⟩, (hnew s₁ s' rest').mpr ⟨hfold, rfl⟩⟩

/-- Where an object has been read, there is its opening brace, and behind it another reader takes in
its members, up to the closing brace. -/
theorem Echoes.of_object {step : Nat → σ → String → Reader σ} {f : σ → String → Json → Option σ}
    (hstep : ∀ room, Echoes (step room) room f) {members : List (String × Json)}
    (h : readValue room cs = .ok (.obj members, rest)) :
    ∃ inner ds end_, room = inner + 1 ∧ peek? cs = .ok (some '{', '{' :: ds) ∧
      closeMembers end_ = .ok ((), rest) ∧ ∀ s s' rest',
        Json.readMembers (step inner) (ds.length + 1) true s ds = .ok (s', rest') ↔
          members.foldlM (fun s m => f s m.1 m.2) s = some s' ∧ rest' = end_ := by
  obtain ⟨c, ds, hpeek, hbegins⟩ := readValue_begins h
  cases hbegins with
  | @object inner _ _ hmembers =>
    obtain ⟨n, _, hturns, hmembers⟩ := bind_eq_ok.mp hmembers
    obtain ⟨rfl, rfl⟩ := Prod.mk.inj (Except.ok.inj hturns)
    obtain ⟨ms, end_, hread, hend⟩ := bind_eq_ok.mp hmembers
    obtain ⟨_, _, hclose, hdone⟩ := bind_eq_ok.mp hend
    obtain ⟨rfl, rfl⟩ := Prod.mk.inj (Except.ok.inj hdone)
    obtain ⟨new, rfl, hnew⟩ := (hstep inner).readMembers hread
    exact ⟨inner, ds, end_, rfl, hpeek, hclose, hnew⟩
  | other hc hv => exact absurd rfl (hv.2 members)

/-- A whole text is read up to blanks. -/
theorem runText_eq_ok_iff {r : Reader α} {text : String} {a : α} : r.runText text = .ok a ↔
    ∃ rest rest', r text.toList = .ok (a, rest) ∧ endOfText rest = .ok ((), rest') := by
  rw [Reader.runText, map_eq_pure_bind, except_bind_eq_ok]
  constructor
  · rintro ⟨⟨_, rest'⟩, hread, ⟨⟩⟩
    obtain ⟨_, rest, hr, hend⟩ := bind_eq_ok.mp hread
    obtain ⟨_, _, hend, ⟨⟩⟩ := bind_eq_ok.mp hend
    exact ⟨rest, rest', hr, hend⟩
  · rintro ⟨rest, rest', hr, hend⟩
    exact ⟨(a, rest'), (bind_of_ok hr _).trans (bind_of_ok hend _), rfl⟩

end PositionOverlay.Json
