import PositionOverlay.Proofs.Json.Numerals
import PositionOverlay.Proofs.Json.Strings

/-! # Forms of texts

What the text of a value may be, said without the function that writes it: a string between quotes
with its characters or their escapes, a number by a numeral that rounds to it, an object by its
members in their order.
-/
namespace PositionOverlay.Json

/-- Which texts are meant. -/
abbrev Form := List Char → Prop

namespace Form

variable {α : Type}

/-- The text `null`. -/
def null : Form := fun cs => cs = "null".toList

/-- The texts `true` and `false`. -/
def flag (b : Bool) : Form := fun cs => cs = (toString b).toList

/-- The digits of a whole number. -/
def whole (n : Nat) : Form := fun cs => cs = Nat.toDigits 10 n

/-- A numeral with the sign of a float whose value rounds to the float, or `null` if the float has
no digits. -/
def float (x : Float) : Form := IsFloat x

/-- A string between quotes, character by character. -/
def text (s : String) : Form := fun cs =>
  ∃ parts, List.Forall₂ Escaped s.toList parts ∧ cs = '"' :: parts.flatten ++ ['"']

/-- What stands for a value that may be absent. -/
def maybe (form : α → Form) (a : Option α) : Form := a.elim null form

/-- A member: its name, a colon and its value. -/
def member (name : String) (form : Form) : Form := fun cs =>
  ∃ key value, text name key ∧ form value ∧ cs = key ++ ':' :: value

/-- An object with some members in their order. -/
def object (members : List (String × Form)) : Form := fun cs =>
  ∃ parts, List.Forall₂ (fun m => member m.1 m.2) members parts ∧
    cs = '\x7b' :: [','].intercalate parts ++ ['\x7d']

end Form

open Form

variable {α : Type}

theorem form_bool (b : Bool) : flag b (Json.bool b).write := by cases b <;> rfl

theorem form_nat (n : Nat) : whole n (Json.int n).write := by
  change writeInt n = _
  rw [writeInt, if_neg (Int.not_lt.mpr (Int.natCast_nonneg n)), Int.natAbs_natCast]

theorem form_float (x : Float) : Form.float x (Json.float x).write := isFloat_writeFloat x

theorem form_writeString (s : String) : text s (writeString s) := by
  refine ⟨s.toList.map escapeChar, ?_, by rw [writeString, List.flatMap_def]⟩
  rw [List.forall₂_map_right_iff]
  exact List.forall₂_same.mpr fun c _ => escaped_escapeChar c

theorem form_option {form : α → Form} {f : α → Json} (h : ∀ a, form a (f a).write) (a : Option α) :
    maybe form a (Json.ofOption f a).write := by
  cases a with
  | none => rfl
  | some a => exact h a

/-- The members as they are written. -/
theorem writeMembers_eq (members : List (String × Json)) : writeMembers members =
    [','].intercalate (members.map fun m => writeString m.1 ++ ':' :: m.2.write) := by
  induction members with
  | nil => rfl
  | cons m members ih =>
    cases members with
    | nil => exact (List.intercalate_singleton ..).symm
    | cons m' members =>
      calc writeMembers (m :: m' :: members)
          = (writeString m.1 ++ ':' :: m.2.write) ++ [','] ++ writeMembers (m' :: members) := by
            rw [List.append_assoc]
            rfl
        _ = _ := by rw [ih, List.map_cons, List.map_cons, List.map_cons, List.intercalate_cons_cons]

theorem form_obj {forms : List (String × Form)} {members : List (String × Json)}
    (h : List.Forall₂ (fun f m => f.1 = m.1 ∧ f.2 m.2.write) forms members) :
    object forms (Json.obj members).write := by
  refine ⟨members.map fun m => writeString m.1 ++ ':' :: m.2.write, ?_, ?_⟩
  · rw [List.forall₂_map_right_iff]
    refine h.imp fun f m hm => ?_
    exact ⟨_, _, hm.1 ▸ form_writeString m.1, hm.2, rfl⟩
  · rw [← writeMembers_eq]
    rfl

end PositionOverlay.Json
