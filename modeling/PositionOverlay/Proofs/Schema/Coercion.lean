import PositionOverlay.Schema.Coerce

/-! # Records that a schema coerces

Each field of a record is settled by what stands under its own name alone, so neither the order of
the members counts nor members of other names.
-/
namespace PositionOverlay

namespace Schema

variable {α : Type} {schema : Schema α} {d a b : α} {found : Option Json}

/-- What was found is coerced to a value, or nothing was found and the value is the default. -/
def Settles (schema : Schema α) (default : α) : Option Json → α → Prop
  | some v, a => schema.coerce v = .ok a
  | none, a => a = default

theorem Settles.unique (h : schema.Settles d found a) (h' : schema.Settles d found b) : a = b := by
  cases found with
  | none => exact h.trans h'.symm
  | some v => exact Except.ok.inj (h.symm.trans h')

theorem exists_settles (h : ∀ v, found = some v → ∃ a, schema.coerce v = .ok a) :
    ∃ a, schema.Settles d found a := by
  cases found with
  | none => exact ⟨d, rfl⟩
  | some v => exact h v rfl

end Schema

namespace Fields

/-- The members settle each field. -/
def Settled : {α : Type} → Fields α → List (String × Json) → α → Prop
  | _, .nil, _, _ => True
  | _, .cons name schema default rest, members, a =>
    (match default with
      | some d => schema.Settles d (members.lookup name) a.1
      | none => ∃ v, members.lookup name = some v ∧ schema.coerce v = .ok a.1) ∧
      rest.Settled members a.2

theorem coerceMembers_cons {α β : Type} (name : String) (schema : Schema α) (default : Option α)
    (rest : Fields β) (members : List (String × Json)) :
    (cons name schema default rest).coerceMembers members = (do
      let a ← match members.lookup name, default with
        | some v, _ => Misplaced.under (.member name) (schema.coerce v)
        | none, some a => .ok a
        | none, none => Schema.misfit (.other (.missingField name))
      return (a, ← rest.coerceMembers members)) :=
  rfl

theorem Settled.coerceMembers {members : List (String × Json)} :
    {α : Type} → {fs : Fields α} → {a : α} → fs.Settled members a →
    fs.coerceMembers members = .ok a
  | _, .nil, _, _ => by rw [Fields.coerceMembers]
  | _, .cons name schema default rest, a, h => by
    obtain ⟨hfield, hrest⟩ := h
    have hrest := hrest.coerceMembers
    rw [coerceMembers_cons, hrest]
    cases hfound : members.lookup name with
    | none =>
      rw [hfound] at hfield
      cases default with
      | none => exact nomatch hfield
      | some d =>
        obtain rfl : a.1 = d := hfield
        rfl
    | some v =>
      have hcoerce : schema.coerce v = .ok a.1 := by
        rw [hfound] at hfield
        cases default with
        | none =>
          obtain ⟨_, ⟨⟩, hcoerce⟩ := hfield
          exact hcoerce
        | some d => exact hfield
      dsimp only
      rw [hcoerce]
      rfl

end Fields

end PositionOverlay
