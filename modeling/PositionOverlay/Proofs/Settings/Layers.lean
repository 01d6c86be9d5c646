import Mathlib.Data.List.Nodup
import Mathlib.Tactic.SplitIfs
import PositionOverlay.Settings.Layers

/-! # What layers leave under a name

A named value changes a table under the first name of its path only. What stands there afterwards is
the new value over the old one, and in a table over another each name is treated in the same way.
-/
namespace PositionOverlay

section Entries

variable {α : Type} {entries : List (String × α)} {k name : String}

theorem lookup_entry (k name : String) (a : α) (entries : List (String × α)) :
    ((k, a) :: entries).lookup name = if name = k then some a else entries.lookup name := by
  by_cases h : name = k
  · rw [if_pos h, List.lookup_cons, beq_iff_eq.mpr h]
  · rw [if_neg h, List.lookup_cons, beq_false_of_ne h]

theorem lookup_insertSorted (k name : String) (a : α) (entries : List (String × α)) :
    (insertSorted k a entries).lookup name =
      if name = k then some a else entries.lookup name := by
  induction entries with
  | nil => exact lookup_entry k name a []
  | cons e entries ih =>
    obtain ⟨j, b⟩ := e
    unfold insertSorted
    split_ifs with hkj hlt hname hname hname <;> simp_all [lookup_entry]

theorem lookup_eq_none (h : name ∉ entries.map Prod.fst) : entries.lookup name = none := by
  refine List.lookup_eq_none_iff.mpr fun e he => ?_
  have hne : name ≠ e.1 := fun hname => h (List.mem_map.mpr ⟨e, he, hname.symm⟩)
  simpa using hne

/-- If no name repeats, then what is found under a name is what stands there. -/
theorem lookup_eq_some_iff_mem (h : (entries.map Prod.fst).Nodup) {a : α} :
    entries.lookup name = some a ↔ (name, a) ∈ entries := by
  induction entries with
  | nil => simp
  | cons e entries ih =>
    obtain ⟨j, b⟩ := e
    obtain ⟨hj, h⟩ := List.nodup_cons.mp h
    rw [lookup_entry, List.mem_cons, Prod.mk.injEq]
    split_ifs with hname
    · subst hname
      have hfresh : (name, a) ∉ entries := fun h => hj (List.mem_map.mpr ⟨_, h, rfl⟩)
      simp [hfresh, eq_comm]
    · simp [hname, ih h]

end Entries

theorem Toml.lookup_membersToData (members : List (String × Toml)) (name : String) :
    (membersToData members).lookup name = (members.lookup name).map toData := by
  induction members with
  | nil => rfl
  | cons m members ih =>
    rw [membersToData, lookup_entry, lookup_entry, ih]
    split_ifs <;> rfl

theorem Toml.map_fst_membersToData (members : List (String × Toml)) :
    (membersToData members).map Prod.fst = members.map Prod.fst := by
  induction members with
  | nil => rfl
  | cons m members ih => rw [membersToData, List.map_cons, List.map_cons, ih]

namespace Layers

variable {k name : String} {path : List PathStep} {v : Json} {old : Option Json}

theorem membersOf_of_ne_obj (h : ∀ ms, v ≠ .obj ms) : membersOf (some v) = [] := by
  cases v with
  | obj ms => exact absurd rfl (h ms)
  | _ => rfl

/-- What is a table in a document is a table as data, and nothing else is. -/
theorem exists_merge_toData_iff (w : Toml) :
    (∃ ms, merge w.toData none = .obj ms) ↔ ∃ t, w = .table t := by
  cases w with
  | table t => exact ⟨fun _ => ⟨t, rfl⟩, fun _ => ⟨_, rfl⟩⟩
  | _ => exact ⟨nofun, nofun⟩

/-- A table over another: under each name what the one has there is put over what the other has. -/
theorem lookup_mergeMembers (ms old : List (String × Json)) (h : (ms.map Prod.fst).Nodup) :
    (mergeMembers ms old).lookup name =
      match ms.lookup name with
      | some v => some (merge v (old.lookup name))
      | none => old.lookup name := by
  induction ms generalizing old with
  | nil => rfl
  | cons m ms ih =>
    obtain ⟨k, v⟩ := m
    obtain ⟨hk, h⟩ := List.nodup_cons.mp h
    rw [mergeMembers, ih _ h, lookup_entry, lookup_insertSorted]
    split_ifs with hname
    · subst hname
      rw [lookup_eq_none hk]
    · rfl

/-- A table with the values of one more layer. -/
def overlaid (table : Json) (layer : Layer) : Json :=
  layer.foldl (fun table e => assign (pathOf e.1) e.2 (some table)) table

theorem combine_one (layer : Layer) : combine [layer] = overlaid (.obj []) layer := by
  rw [combine, List.flatten_singleton, overlaid]

theorem combine_two (layer layer' : Layer) :
    combine [layer, layer'] = overlaid (combine [layer]) layer' := by
  rw [combine_one, combine, List.flatten_cons, List.flatten_singleton, List.foldl_append]
  rfl

/-- What stands under a name of a table. -/
def under? (name : String) (table : Json) : Option Json := (membersOf (some table)).lookup name

theorem exists_pathOf (key : String) : ∃ k path, pathOf key = .member k :: path := by
  unfold pathOf
  dsimp only
  split
  · split_ifs
    · exact ⟨_, _, rfl⟩
    · exact ⟨_, _, rfl⟩
  · exact ⟨_, _, rfl⟩

/-- The name is the first on the way to which the key leads. -/
def LeadsTo (key name : String) : Prop := ∃ path, pathOf key = .member name :: path

theorem assign_member (k : String) (path : List PathStep) (v : Json) (old : Option Json) :
    assign (.member k :: path) v old =
      .obj (insertSorted k (assign path v ((membersOf old).lookup k)) (membersOf old)) := by
  rw [assign]

theorem under?_assign_self {key : String} (h : pathOf key = .member name :: path) (v table : Json) :
    under? name (assign (pathOf key) v (some table)) =
      some (assign path v (under? name table)) := by
  rw [h, assign_member, under?, membersOf, lookup_insertSorted, if_pos rfl, under?]

theorem under?_assign_of_not {key : String} (h : ¬ LeadsTo key name) (v table : Json) :
    under? name (assign (pathOf key) v (some table)) = under? name table := by
  obtain ⟨k, path, hpath⟩ := exists_pathOf key
  have hne : name ≠ k := fun hname => h ⟨path, hname ▸ hpath⟩
  rw [hpath, assign_member, under?, membersOf, lookup_insertSorted, if_neg hne, under?]

/-- Layers leave a table. -/
theorem overlaid_eq_obj (ms : List (String × Json)) (layer : Layer) :
    ∃ ms', overlaid (.obj ms) layer = .obj ms' := by
  induction layer generalizing ms with
  | nil => exact ⟨ms, rfl⟩
  | cons e layer ih =>
    obtain ⟨k, path, hpath⟩ := exists_pathOf e.1
    rw [overlaid, List.foldl_cons, hpath, assign_member]
    exact ih _

/-- A layer in which no other key leads to a name: what it has under this name is put over what was
there. -/
theorem under?_overlaid {layer : Layer} (hname : pathOf name = [.member name])
    (hplain : ∀ e ∈ layer, LeadsTo e.1 name → e.1 = name) (hnodup : (layer.map Prod.fst).Nodup)
    (table : Json) : under? name (overlaid table layer) =
      match layer.lookup name with
      | some v => some (merge v (under? name table))
      | none => under? name table := by
  induction layer generalizing table with
  | nil => rfl
  | cons e layer ih =>
    obtain ⟨k, v⟩ := e
    obtain ⟨hk, hnodup⟩ := List.nodup_cons.mp hnodup
    have hrest := ih (fun e he => hplain e (List.mem_cons_of_mem _ he)) hnodup
      (assign (pathOf k) v (some table))
    rw [lookup_entry]
    refine hrest.trans ?_
    split_ifs with hnk
    · subst hnk
      rw [lookup_eq_none hk, under?_assign_self hname, assign]
    · have hleads : ¬ LeadsTo k name := fun h =>
        hnk (hplain _ List.mem_cons_self h).symm
      rw [under?_assign_of_not hleads]

end Layers

end PositionOverlay
