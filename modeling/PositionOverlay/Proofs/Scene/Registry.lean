import Mathlib.Data.List.Nodup
import Mathlib.Logic.Function.Iterate
import PositionOverlay.Scene.Registry

/-! # Objects of registries

What the live objects of a registry are, and what becomes of them when one is replaced, dropped or
added. If no two of them have one name, then a name finds the object that has it.
-/
namespace PositionOverlay.Registry

variable {α : Type} {r : Registry α} {k j : Nat} {n m : String} {a b : α}

/-- A live object, with its key and its name. -/
def Holds (r : Registry α) (key : Nat) (name : String) (a : α) : Prop :=
  r.entries[key]? = some ⟨name, true, a⟩

/-- No two live objects have one name. -/
def Distinct (r : Registry α) : Prop :=
  ∀ ⦃i j name a b⦄, r.Holds i name a → r.Holds j name b → i = j

theorem Holds.key_lt (h : r.Holds k n a) : k < r.nextKey := (Array.getElem?_eq_some_iff.mp h).1

/-- A key has one name and one object. -/
theorem Holds.unique (h : r.Holds k n a) (h' : r.Holds k m b) : n = m ∧ a = b := by
  obtain ⟨h₁, -, h₂⟩ := Entry.mk.inj (Option.some.inj (h.symm.trans h'))
  exact ⟨h₁, h₂⟩

theorem live?_eq_some_iff : r.live? k = some a ↔ ∃ name, r.Holds k name a := by
  unfold live? reach? Holds
  rcases r.entries[k]? with _ | ⟨name, live, b⟩
  · simp
  · cases live <;> simp

theorem get?_of_reach? {keeps : α → Bool} (h : r.reach? keeps k = some a) : r.get? k = some a := by
  unfold reach? at h
  unfold get?
  rcases he : r.entries[k]? with _ | e
  · simp only [he] at h
    exact nomatch h
  · simp only [he] at h
    split_ifs at h
    exact h

theorem lt_nextKey (h : r.get? k = some a) : k < r.nextKey := by
  obtain ⟨e, he, -⟩ := Option.map_eq_some_iff.mp h
  exact (Array.getElem?_eq_some_iff.mp he).1

theorem reach?_of_holds (h : r.Holds k n a) (keeps : α → Bool) : r.reach? keeps k = some a := by
  simp only [reach?, show r.entries[k]? = _ from h, Bool.true_or, if_true]

/-- Objects that nothing keeps are met only while they are live. -/
theorem reach?_eq_live? {keeps : α → Bool} (h : ∀ a, r.get? k = some a → keeps a = false) :
    r.reach? keeps k = r.live? k := by
  unfold live? reach?
  rcases he : r.entries[k]? with _ | e
  · rfl
  · have hk := h e.object (by rw [get?, he]; rfl)
    simp only [hk]

theorem holds_of_find? (h : r.find? n = some (k, a)) : r.Holds k n a := by
  obtain ⟨key, hkey, h⟩ := Option.bind_eq_some_iff.mp h
  obtain ⟨b, hb, h⟩ := Option.bind_eq_some_iff.mp h
  obtain ⟨rfl, rfl⟩ := Prod.mk.inj (Option.some.inj h)
  obtain ⟨hlt, hp, -⟩ := Array.findIdx?_eq_some_iff_getElem.mp hkey
  obtain ⟨e, he, rfl⟩ := Option.map_eq_some_iff.mp hb
  obtain ⟨_, rfl⟩ := Array.getElem?_eq_some_iff.mp he
  obtain ⟨hlive, hname⟩ := Bool.and_eq_true_iff.mp hp
  rw [Holds, he, ← eq_of_beq hname, ← hlive]

theorem get?_of_find? (h : r.find? n = some (k, a)) : r.get? k = some a := by
  have hk : r.entries[k]? = some ⟨n, true, a⟩ := holds_of_find? h
  rw [get?, hk, Option.map_some]

/-- A name that somebody has finds somebody. -/
theorem find?_isSome (h : r.Holds k n a) : (r.find? n).isSome := by
  obtain ⟨hlt, he⟩ := Array.getElem?_eq_some_iff.mp h
  have hany : (r.entries.findIdx? fun e => e.live && e.name == n).isSome := by
    rw [Array.findIdx?_isSome, Array.any_eq_true]
    exact ⟨k, hlt, by simp [he]⟩
  obtain ⟨key, hkey⟩ := Option.isSome_iff_exists.mp hany
  obtain ⟨hlt', -, -⟩ := Array.findIdx?_eq_some_iff_getElem.mp hkey
  have hget : r.get? key = some r.entries[key].object := by
    rw [get?, Array.getElem?_eq_getElem hlt']
    rfl
  simp only [find?, hkey, hget, Option.bind_eq_bind, Option.bind_some]
  rfl

theorem find?_eq_some_iff (hd : r.Distinct) : r.find? n = some (k, a) ↔ r.Holds k n a := by
  refine ⟨holds_of_find?, fun h => ?_⟩
  obtain ⟨⟨j, b⟩, hf⟩ := Option.isSome_iff_exists.mp (find?_isSome h)
  obtain rfl := hd h (holds_of_find? hf)
  rw [hf, (h.unique (holds_of_find? hf)).2]

theorem find?_eq_none_iff : r.find? n = none ↔ ∀ k a, ¬ r.Holds k n a := by
  constructor
  · intro h k a hk
    rw [← Option.not_isSome_iff_eq_none] at h
    exact h (find?_isSome hk)
  · intro h
    rcases hf : r.find? n with _ | ⟨k, a⟩
    · rfl
    · exact absurd (holds_of_find? hf) (h k a)

theorem find?_empty (n : String) : (empty : Registry α).find? n = none := by
  refine find?_eq_none_iff.mpr fun k a h => ?_
  simp [Holds, empty] at h

/-! ## Changes -/

theorem holds_set : (r.set k a).Holds j n b ↔
    if k = j then b = a ∧ ∃ a', r.Holds j n a' else r.Holds j n b := by
  unfold Holds set
  rw [Array.getElem?_modify]
  split_ifs with h
  · rcases r.entries[j]? with _ | ⟨name, live, a'⟩
    · simp
    · simp
      grind
  · rfl

theorem holds_drop : (r.drop m).Holds j n b ↔ n ≠ m ∧ r.Holds j n b := by
  unfold Holds drop
  rw [Array.getElem?_map]
  rcases r.entries[j]? with _ | ⟨name, live, a'⟩
  · simp
  · simp
    grind

@[simp] theorem nextKey_drop (r : Registry α) (m : String) : (r.drop m).nextKey = r.nextKey := by
  simp [drop, nextKey]

@[simp] theorem nextKey_add (r : Registry α) (m : String) (a : α) :
    (r.add m a).nextKey = r.nextKey + 1 := by
  simp [add, drop, nextKey]

theorem holds_add : (r.add m a).Holds j n b ↔
    j = r.nextKey ∧ n = m ∧ b = a ∨ n ≠ m ∧ r.Holds j n b := by
  have hsize : (r.drop m).entries.size = r.nextKey := r.nextKey_drop m
  rw [← holds_drop]
  unfold Holds add
  rw [Array.getElem?_push, hsize]
  split_ifs with hj
  · subst hj
    have hnone : (r.drop m).entries[r.nextKey]? = none := by simp [hsize]
    simp [hnone, eq_comm]
  · simp [hj]

theorem distinct_empty : (empty : Registry α).Distinct := by
  intro i j name a b h
  simp [Holds, empty] at h

theorem Distinct.set (h : r.Distinct) (k : Nat) (a : α) : (r.set k a).Distinct := by
  have hold {i : Nat} {n : String} {b : α} (hi : (r.set k a).Holds i n b) :
      ∃ b', r.Holds i n b' := by
    rw [holds_set] at hi
    split_ifs at hi
    · exact hi.2
    · exact ⟨b, hi⟩
  intro i j n b b' hi hj
  obtain ⟨_, hi⟩ := hold hi
  obtain ⟨_, hj⟩ := hold hj
  exact h hi hj

theorem Distinct.drop (h : r.Distinct) (m : String) : (r.drop m).Distinct :=
  fun _ _ _ _ _ hi hj => h (holds_drop.mp hi).2 (holds_drop.mp hj).2

theorem Distinct.add (h : r.Distinct) (m : String) (a : α) : (r.add m a).Distinct := by
  intro i j n b b' hi hj
  rcases holds_add.mp hi with ⟨rfl, rfl, -⟩ | ⟨hn, hi⟩ <;>
    rcases holds_add.mp hj with ⟨rfl, hn', -⟩ | ⟨hn', hj⟩
  · rfl
  · exact absurd rfl hn'
  · exact absurd hn' hn
  · exact h hi hj

/-! ## Names after changes -/

/-- A name finds the same in registries that hold the same under it. -/
theorem find?_congr {r' : Registry α} (hd : r.Distinct) (hd' : r'.Distinct)
    (h : ∀ k a, r'.Holds k n a ↔ r.Holds k n a) : r'.find? n = r.find? n := by
  refine Option.ext fun p => ?_
  rw [find?_eq_some_iff (k := p.1) (a := p.2) hd', find?_eq_some_iff hd, h]

theorem find?_set_self (hd : r.Distinct) (hk : r.Holds k n a) (b : α) :
    (r.set k b).find? n = some (k, b) := by
  rw [find?_eq_some_iff (hd.set k b), holds_set, if_pos rfl]
  exact ⟨rfl, a, hk⟩

theorem find?_set_of_ne (hd : r.Distinct) (hk : r.Holds k n a) (hne : m ≠ n) (b : α) :
    (r.set k b).find? m = r.find? m := by
  refine find?_congr hd (hd.set k b) fun j c => ?_
  rw [holds_set]
  split_ifs with hj
  · subst hj
    exact ⟨fun ⟨_, _, hc⟩ => absurd (hc.unique hk).1 hne, fun hc => absurd (hc.unique hk).1 hne⟩
  · rfl

theorem find?_drop_self (r : Registry α) (n : String) : (r.drop n).find? n = none :=
  find?_eq_none_iff.mpr fun _ _ h => (holds_drop.mp h).1 rfl

theorem find?_drop_of_ne (hd : r.Distinct) (hne : m ≠ n) : (r.drop n).find? m = r.find? m :=
  find?_congr hd (hd.drop n) fun _ _ => holds_drop.trans (and_iff_right hne)

theorem find?_add_self (hd : r.Distinct) (n : String) (a : α) :
    (r.add n a).find? n = some (r.nextKey, a) :=
  (find?_eq_some_iff (hd.add n a)).mpr (holds_add.mpr (.inl ⟨rfl, rfl, rfl⟩))

theorem find?_add_of_ne (hd : r.Distinct) (hne : m ≠ n) (a : α) :
    (r.add n a).find? m = r.find? m := by
  refine find?_congr hd (hd.add n a) fun j b => ?_
  rw [holds_add]
  exact ⟨fun h => h.elim (fun h => absurd h.2.1 hne) And.right, fun h => .inr ⟨hne, h⟩⟩

/-! ## Changes under several keys -/

theorem getElem?_modify_one (r : Registry α) (k : Nat) (f : α → α) (j : Nat) :
    (r.modify [k] f).entries[j]? =
      if k = j then r.entries[j]?.map fun e => { e with object := f e.object }
      else r.entries[j]? := by
  change (r.entries.modify k _)[j]? = _
  rw [Array.getElem?_modify]

theorem set_eq_modify (h : r.get? k = some a) (f : α → α) : r.set k (f a) = r.modify [k] f := by
  refine congrArg Registry.mk (Array.ext_getElem? fun j => ?_)
  rw [Array.getElem?_modify]
  refine Eq.trans ?_ (getElem?_modify_one r k f j).symm
  split_ifs with hj
  · subst hj
    obtain ⟨e, he, rfl⟩ := Option.map_eq_some_iff.mp h
    rw [he]
    rfl
  · rfl

theorem set_self (h : r.get? k = some a) : r.set k a = r := by
  obtain ⟨e, he, rfl⟩ := Option.map_eq_some_iff.mp h
  refine congrArg Registry.mk (Array.ext_getElem? fun j => ?_)
  rw [Array.getElem?_modify]
  split_ifs with hj
  · subst hj
    rw [he]
    rfl
  · rfl

theorem reach?_set_self {keeps : α → Bool} (h : r.reach? keeps k = some b)
    (ha : keeps a = keeps b) : (r.set k a).reach? keeps k = some a := by
  unfold reach? at h
  unfold reach? set
  rw [Array.getElem?_modify, if_pos rfl]
  rcases he : r.entries[k]? with _ | e
  · simp only [he] at h
    exact nomatch h
  · simp only [he] at h
    split_ifs at h with hkeeps
    obtain rfl := Option.some.inj h
    rw [← ha] at hkeeps
    simp only [Option.map_some, if_pos hkeeps]

theorem reach?_set_of_ne (hne : k ≠ j) (keeps : α → Bool) (a : α) :
    (r.set k a).reach? keeps j = r.reach? keeps j := by
  unfold reach? set
  rw [Array.getElem?_modify, if_neg hne]

theorem reach?_modify_of_ne (hne : k ≠ j) (keeps : α → Bool) (f : α → α) :
    (r.modify [k] f).reach? keeps j = r.reach? keeps j := by
  rw [reach?, getElem?_modify_one, if_neg hne, reach?]

/-- Every object is changed as often as its key is listed. -/
theorem getElem?_modify (r : Registry α) (keys : List Nat) (f : α → α) (j : Nat) :
    (r.modify keys f).entries[j]? =
      r.entries[j]?.map fun e => { e with object := f^[keys.count j] e.object } := by
  induction keys generalizing r with
  | nil => simp [modify]
  | cons k keys ih =>
    change ((r.modify [k] f).modify keys f).entries[j]? = _
    rw [ih, getElem?_modify_one]
    by_cases h : k = j
    · subst h
      simp only [if_true, Option.map_map, Function.comp_def, List.count_cons_self,
        Function.iterate_succ, Function.comp_apply]
    · rw [if_neg h, List.count_cons_of_ne h]

@[simp] theorem nextKey_modify (r : Registry α) (keys : List Nat) (f : α → α) :
    (r.modify keys f).nextKey = r.nextKey := by
  induction keys generalizing r with
  | nil => rfl
  | cons k keys ih =>
    refine (ih _).trans ?_
    simp [nextKey]

/-- The registry with each object changed, in a way that may depend on its key. -/
def alter (r : Registry α) (f : Nat → α → α) : Registry α :=
  ⟨r.entries.mapIdx fun key e => { e with object := f key e.object }⟩

theorem modify_eq_alter (r : Registry α) (keys : List Nat) (f : α → α) :
    r.modify keys f = r.alter fun key => f^[keys.count key] := by
  refine congrArg Registry.mk (Array.ext_getElem? fun j => ?_)
  rw [Array.getElem?_mapIdx]
  exact r.getElem?_modify keys f j

theorem alter_alter (r : Registry α) (f g : Nat → α → α) :
    (r.alter f).alter g = r.alter fun key a => g key (f key a) := by
  simp only [alter, Array.mapIdx_mapIdx]
  rfl

variable {f : Nat → α → α}

theorem holds_alter : (r.alter f).Holds j n b ↔ ∃ a, r.Holds j n a ∧ b = f j a := by
  unfold Holds alter
  rw [Array.getElem?_mapIdx]
  rcases r.entries[j]? with _ | ⟨name, live, a⟩
  · simp
  · simp
    grind

theorem Distinct.alter (h : r.Distinct) (f : Nat → α → α) : (r.alter f).Distinct := by
  intro i j m a b hi hj
  obtain ⟨_, hi, -⟩ := holds_alter.mp hi
  obtain ⟨_, hj, -⟩ := holds_alter.mp hj
  exact h hi hj

theorem find?_alter (hd : r.Distinct) (f : Nat → α → α) :
    (r.alter f).find? n = (r.find? n).map fun p => (p.1, f p.1 p.2) := by
  refine Option.ext fun p => ?_
  rw [find?_eq_some_iff (k := p.1) (a := p.2) (hd.alter f), holds_alter, Option.map_eq_some_iff]
  constructor
  · rintro ⟨a, ha, hp⟩
    exact ⟨(p.1, a), (find?_eq_some_iff hd).mpr ha, Prod.ext rfl hp.symm⟩
  · rintro ⟨q, hq, rfl⟩
    exact ⟨q.2, (find?_eq_some_iff hd).mp hq, rfl⟩

/-- Every key is met once. -/
theorem find?_modify (hd : r.Distinct) {keys : List Nat} (hkeys : keys.Nodup) (f : α → α) :
    (r.modify keys f).find? n =
      (r.find? n).map fun p => (p.1, if p.1 ∈ keys then f p.2 else p.2) := by
  rw [modify_eq_alter, find?_alter hd]
  congr 1
  funext p
  split_ifs with h
  · rw [List.count_eq_one_of_mem hkeys h]
    rfl
  · rw [List.count_eq_zero_of_not_mem h]
    rfl

/-! ## Objects under their keys -/

theorem get?_drop (r : Registry α) (m : String) (j : Nat) : (r.drop m).get? j = r.get? j := by
  rw [get?, drop, Array.getElem?_map, Option.map_map, get?]
  congr 1
  funext e
  rw [Function.comp_apply]
  split_ifs <;> rfl

theorem get?_add (r : Registry α) (m : String) (a : α) (j : Nat) :
    (r.add m a).get? j = if j = r.nextKey then some a else r.get? j := by
  have hsize : (r.drop m).entries.size = r.nextKey := r.nextKey_drop m
  rw [get?, add, Array.getElem?_push, hsize]
  split_ifs
  · rfl
  · exact r.get?_drop m j

theorem get?_modify (r : Registry α) (keys : List Nat) (f : α → α) (j : Nat) :
    (r.modify keys f).get? j = (r.get? j).map f^[keys.count j] := by
  rw [get?, getElem?_modify, Option.map_map, get?, Option.map_map]
  rfl

/-- The objects of the first registry are under the same keys in the second, and `f` says the same
of them. -/
def Keeps {β : Type} (f : α → β) (r r' : Registry α) : Prop :=
  ∀ ⦃j b⦄, r.get? j = some b → (r'.get? j).map f = some (f b)

namespace Keeps

variable {β : Type} {f : α → β} {r' : Registry α}

theorem refl (f : α → β) (r : Registry α) : r.Keeps f r := by
  intro j b hb
  rw [hb, Option.map_some]

theorem set (h : r.Keeps f r') (hk : r'.get? k = some a) (ha : f b = f a) :
    r.Keeps f (r'.set k b) := by
  intro j c hc
  have hj := h hc
  rw [get?_set]
  split_ifs with hkj
  · subst hkj
    rw [hk, Option.map_some] at hj ⊢
    rw [← hj, Option.map_some, ha]
  · exact hj

theorem drop (h : r.Keeps f r') (m : String) : r.Keeps f (r'.drop m) := by
  intro j c hc
  rw [get?_drop]
  exact h hc

theorem add (h : r.Keeps f r') (m : String) (a : α) : r.Keeps f (r'.add m a) := by
  intro j c hc
  obtain ⟨c', hc', -⟩ := Option.map_eq_some_iff.mp (h hc)
  rw [get?_add, if_neg (Nat.ne_of_lt (lt_nextKey hc'))]
  exact h hc

theorem modify (h : r.Keeps f r') (keys : List Nat) {g : α → α} (hg : ∀ a, f (g a) = f a) :
    r.Keeps f (r'.modify keys g) := by
  have hiterate (n : Nat) : f ∘ g^[n] = f := by
    induction n with
    | zero => rfl
    | succ n ih =>
      rw [Function.iterate_succ, ← Function.comp_assoc, ih]
      funext a
      exact hg a
  intro j c hc
  rw [get?_modify, Option.map_map, hiterate]
  exact h hc

end Keeps

/-! ## All objects -/

/-- Something holds of all objects, live or not. -/
def All (P : α → Prop) (r : Registry α) : Prop := ∀ ⦃k a⦄, r.get? k = some a → P a

variable {P : α → Prop}

theorem all_empty : (empty : Registry α).All P := by
  intro k a h
  simp [get?, empty] at h

theorem All.set (h : r.All P) (k : Nat) (ha : P a) : (r.set k a).All P := by
  intro j b hb
  rw [get?_set] at hb
  split_ifs at hb
  · obtain ⟨_, _, rfl⟩ := Option.map_eq_some_iff.mp hb
    exact ha
  · exact h hb

theorem All.drop (h : r.All P) (m : String) : (r.drop m).All P := by
  intro j b hb
  rw [get?_drop] at hb
  exact h hb

theorem All.add (h : r.All P) (m : String) (ha : P a) : (r.add m a).All P := by
  intro j b hb
  rw [get?_add] at hb
  split_ifs at hb
  · rw [← Option.some.inj hb]
    exact ha
  · exact h hb

theorem All.alter (h : r.All P) {f : Nat → α → α} (hf : ∀ k a, P a → P (f k a)) :
    (r.alter f).All P := by
  intro j b hb
  rw [get?, Registry.alter, Array.getElem?_mapIdx, Option.map_map] at hb
  obtain ⟨e, he, rfl⟩ := Option.map_eq_some_iff.mp hb
  exact hf j _ (h (by rw [get?, he]; rfl))

theorem All.modify (h : r.All P) (keys : List Nat) {f : α → α} (hf : ∀ a, P a → P (f a)) :
    (r.modify keys f).All P := by
  rw [modify_eq_alter]
  refine h.alter fun k a ha => ?_
  induction keys.count k generalizing a with
  | zero => exact ha
  | succ n ih => exact ih _ (hf a ha)

/-! ## Live objects -/

/-- The live objects with their keys, in the order in which they came. -/
def living (r : Registry α) : List (Nat × α) :=
  (List.range r.nextKey).filterMap fun key => (r.live? key).map fun a => (key, a)

theorem living_empty : (empty : Registry α).living = [] := rfl

theorem mem_living : (k, a) ∈ r.living ↔ ∃ n, r.Holds k n a := by
  rw [← live?_eq_some_iff]
  unfold living
  simp only [List.mem_filterMap, List.mem_range, Option.map_eq_some_iff, Prod.mk.injEq]
  constructor
  · rintro ⟨_, -, _, h, rfl, rfl⟩
    exact h
  · intro h
    obtain ⟨n, hn⟩ := live?_eq_some_iff.mp h
    exact ⟨k, hn.key_lt, a, h, rfl, rfl⟩

theorem living_alter (r : Registry α) (f : Nat → α → α) :
    (r.alter f).living = r.living.map fun p => (p.1, f p.1 p.2) := by
  have hsize : (r.alter f).nextKey = r.nextKey := by simp [alter, nextKey]
  rw [living, living, hsize, List.map_filterMap]
  congr 1
  funext key
  rw [Option.map_map]
  have hlive : (r.alter f).live? key = (r.live? key).map (f key) := by
    unfold live? reach? alter
    rw [Array.getElem?_mapIdx]
    rcases r.entries[key]? with _ | ⟨name, live, a⟩
    · rfl
    · cases live <;> rfl
  rw [hlive, Option.map_map]
  rfl

theorem nodup_living : (r.living.map Prod.fst).Nodup := by
  rw [living, List.map_filterMap]
  refine List.Nodup.filterMap (fun i j k hi hj => ?_) List.nodup_range
  simp only [Option.mem_def, Option.map_map, Option.map_eq_some_iff] at hi hj
  obtain ⟨_, -, rfl⟩ := hi
  obtain ⟨_, -, rfl⟩ := hj
  rfl

/-- Live objects under different keys are told by what they are. -/
theorem living_perm {es : List (Nat × α)} (hes : (es.map Prod.fst).Nodup)
    (h : ∀ k a, (k, a) ∈ es ↔ ∃ n, r.Holds k n a) : r.living.Perm es := by
  have hliving : r.living.Nodup := .of_map _ nodup_living
  refine (List.perm_ext_iff_of_nodup hliving (.of_map _ hes)).mpr ?_
  rintro ⟨k, a⟩
  rw [mem_living, h]

/-- The other live objects. -/
def rest (r : Registry α) (k : Nat) : List (Nat × α) := r.living.filter fun p => p.1 != k

theorem mem_rest : (j, b) ∈ r.rest k ↔ j ≠ k ∧ ∃ n, r.Holds j n b := by
  simp [rest, mem_living, and_comm]

theorem nodup_cons_rest (k : Nat) (a : α) : (((k, a) :: r.rest k).map Prod.fst).Nodup := by
  rw [List.map_cons, List.nodup_cons]
  refine ⟨?_, nodup_living.sublist (List.filter_sublist.map _)⟩
  simp [rest]

theorem living_of_holds (h : r.Holds k n a) : r.living.Perm ((k, a) :: r.rest k) := by
  refine living_perm (nodup_cons_rest k a) fun j b => ?_
  rw [List.mem_cons, mem_rest, Prod.mk.injEq]
  constructor
  · rintro (⟨rfl, rfl⟩ | ⟨-, hj⟩)
    · exact ⟨n, h⟩
    · exact hj
  · rintro ⟨m, hm⟩
    by_cases hj : j = k
    · subst hj
      exact .inl ⟨rfl, (hm.unique h).2⟩
    · exact .inr ⟨hj, m, hm⟩

theorem living_set (h : r.Holds k n a) (b : α) :
    (r.set k b).living.Perm ((k, b) :: r.rest k) := by
  refine living_perm (nodup_cons_rest k b) fun j c => ?_
  rw [List.mem_cons, mem_rest, Prod.mk.injEq]
  simp only [holds_set]
  by_cases hj : k = j
  · subst hj
    simp only [ne_eq, not_true_eq_false, false_and, or_false, true_and, if_true]
    exact ⟨fun hc => ⟨n, hc, a, h⟩, fun ⟨_, hc, _⟩ => hc⟩
  · simp only [if_neg hj, ne_eq, Ne.symm hj, false_and, false_or, not_false_eq_true, true_and]

theorem living_drop (hd : r.Distinct) (h : r.Holds k n a) : (r.drop n).living.Perm (r.rest k) := by
  refine living_perm (List.nodup_cons.mp (nodup_cons_rest k a)).2 fun j b => ?_
  rw [mem_rest]
  simp only [holds_drop]
  constructor
  · rintro ⟨hj, m, hm⟩
    exact ⟨m, fun he => hj (hd (he ▸ hm) h), hm⟩
  · rintro ⟨m, hne, hm⟩
    exact ⟨fun he => hne (hm.unique (he ▸ h)).1, m, hm⟩

theorem living_drop_of_unheld (h : ∀ k a, ¬ r.Holds k n a) :
    (r.drop n).living.Perm r.living := by
  refine living_perm nodup_living fun k a => ?_
  rw [mem_living]
  simp only [holds_drop]
  constructor
  · rintro ⟨m, hm⟩
    exact ⟨m, fun he => h k a (he ▸ hm), hm⟩
  · rintro ⟨m, -, hm⟩
    exact ⟨m, hm⟩

theorem living_add (m : String) (a : α) :
    (r.add m a).living.Perm ((r.nextKey, a) :: (r.drop m).living) := by
  have hfresh : r.nextKey ∉ (r.drop m).living.map Prod.fst := by
    rintro hmem
    obtain ⟨⟨j, b⟩, hj, rfl⟩ := List.mem_map.mp hmem
    obtain ⟨n, hn⟩ := mem_living.mp hj
    exact Nat.lt_irrefl _ (holds_drop.mp hn).2.key_lt
  refine living_perm (List.nodup_cons.mpr ⟨hfresh, nodup_living⟩) fun j b => ?_
  rw [List.mem_cons, mem_living, Prod.mk.injEq]
  simp only [holds_add, holds_drop]
  constructor
  · rintro (⟨rfl, rfl⟩ | ⟨n, hne, hn⟩)
    · exact ⟨m, .inl ⟨rfl, rfl, rfl⟩⟩
    · exact ⟨n, .inr ⟨hne, hn⟩⟩
  · rintro ⟨n, ⟨rfl, -, rfl⟩ | hn⟩
    · exact .inl ⟨rfl, rfl⟩
    · exact .inr ⟨n, hn⟩

/-! ## Registries side by side -/

/-- Two registries have entries under the same keys, with the same names, and for the objects under
a key `R` holds. -/
def Alike (R : Nat → α → α → Prop) (r r' : Registry α) : Prop :=
  ∀ k, Option.Rel (fun e e' => e'.name = e.name ∧ e'.live = e.live ∧ R k e.object e'.object)
    r.entries[k]? r'.entries[k]?

namespace Alike

variable {R : Nat → α → α → Prop} {r r' : Registry α} {k : Nat} {a a' : α}

theorem get? (h : r.Alike R r') (k : Nat) : Option.Rel (R k) (r.get? k) (r'.get? k) := by
  have hk := h k
  unfold Registry.get?
  generalize r.entries[k]? = x, r'.entries[k]? = x' at hk ⊢
  cases hk with
  | none => exact .none
  | some he => exact .some he.2.2

theorem reach? (h : r.Alike R r') {keeps : α → Bool} {k : Nat}
    (hkeeps : ∀ a a', R k a a' → keeps a' = keeps a) :
    Option.Rel (R k) (r.reach? keeps k) (r'.reach? keeps k) := by
  have hk := h k
  unfold Registry.reach?
  generalize r.entries[k]? = x, r'.entries[k]? = x' at hk ⊢
  cases hk with
  | none => exact .none
  | @some e e' he =>
    obtain ⟨-, hlive, hobject⟩ := he
    dsimp only
    rw [hlive, hkeeps _ _ hobject]
    split_ifs
    · exact .some hobject
    · exact .none

theorem nextKey (h : r.Alike R r') : r'.nextKey = r.nextKey := by
  have hsize (k : Nat) : r.entries.size ≤ k ↔ r'.entries.size ≤ k := by
    rw [← Array.getElem?_eq_none_iff, ← Array.getElem?_eq_none_iff]
    have hk := h k
    generalize r.entries[k]? = x, r'.entries[k]? = x' at hk ⊢
    cases hk <;> simp
  exact Nat.le_antisymm ((hsize _).mp (Nat.le_refl _)) ((hsize _).mpr (Nat.le_refl _))

/-- A name is looked for among names. -/
theorem find? (h : r.Alike R r') (n : String) :
    Option.Rel (fun p p' => p'.1 = p.1 ∧ R p.1 p.2 p'.2) (r.find? n) (r'.find? n) := by
  have hnames : r'.entries.map (fun e => (e.live, e.name)) =
      r.entries.map fun e => (e.live, e.name) := by
    refine Array.ext_getElem? fun k => ?_
    rw [Array.getElem?_map, Array.getElem?_map]
    have hk := h k
    generalize r.entries[k]? = x, r'.entries[k]? = x' at hk ⊢
    cases hk with
    | none => rfl
    | some he => simp [he.1, he.2.1]
  have hindex : r'.entries.findIdx? (fun e => e.live && e.name == n) =
      r.entries.findIdx? fun e => e.live && e.name == n := by
    have hmapped := congrArg (fun names => names.findIdx? fun p => p.1 && p.2 == n) hnames
    simpa only [Array.findIdx?_map, Function.comp_def] using hmapped
  unfold Registry.find?
  rw [hindex]
  rcases r.entries.findIdx? _ with _ | k
  · exact .none
  · have hk := h.get? k
    simp only [Option.bind_eq_bind, Option.bind_some]
    generalize r.get? k = x, r'.get? k = x' at hk ⊢
    cases hk with
    | none => exact .none
    | some hobject => exact .some ⟨rfl, hobject⟩

theorem map_fst_find? (h : r.Alike R r') (n : String) :
    (r'.find? n).map Prod.fst = (r.find? n).map Prod.fst := by
  have hn := h.find? n
  generalize r.find? n = x, r'.find? n = x' at hn ⊢
  cases hn with
  | none => rfl
  | some hp => exact congrArg some hp.1

theorem keysOf (h : r.Alike R r') (names : List String) : r'.keysOf names = r.keysOf names := by
  unfold Registry.keysOf
  congr 1
  funext n
  exact h.map_fst_find? n

theorem set (h : r.Alike R r') (ha : R k a a') : (r.set k a).Alike R (r'.set k a') := by
  intro j
  have hj := h j
  unfold Registry.set
  rw [Array.getElem?_modify, Array.getElem?_modify]
  generalize r.entries[j]? = x, r'.entries[j]? = x' at hj ⊢
  split_ifs with hkj
  · subst hkj
    cases hj with
    | none => exact .none
    | some he => exact .some ⟨he.1, he.2.1, ha⟩
  · exact hj

theorem drop (h : r.Alike R r') (m : String) : (r.drop m).Alike R (r'.drop m) := by
  intro j
  have hj := h j
  unfold Registry.drop
  rw [Array.getElem?_map, Array.getElem?_map]
  generalize r.entries[j]? = x, r'.entries[j]? = x' at hj ⊢
  cases hj with
  | none => exact .none
  | @some e e' he =>
    obtain ⟨hname, hlive, hobject⟩ := he
    refine .some ?_
    dsimp only
    rw [hname]
    split_ifs
    · exact ⟨rfl, rfl, hobject⟩
    · exact ⟨hname, hlive, hobject⟩

theorem add (h : r.Alike R r') (m : String) (ha : R r.nextKey a a') :
    (r.add m a).Alike R (r'.add m a') := by
  have hsize (r : Registry α) : (r.drop m).entries.size = r.nextKey := r.nextKey_drop m
  intro j
  have hj := h.drop m j
  unfold Registry.add
  rw [Array.getElem?_push, Array.getElem?_push, hsize, hsize, h.nextKey]
  split_ifs with hkj
  · subst hkj
    exact .some ⟨rfl, rfl, ha⟩
  · exact hj

theorem modify (h : r.Alike R r') (keys : List Nat) {f : α → α}
    (hf : ∀ k a a', R k a a' → R k (f a) (f a')) :
    (r.modify keys f).Alike R (r'.modify keys f) := by
  induction keys generalizing r r' with
  | nil => exact h
  | cons k keys ih =>
    refine ih fun j => ?_
    have hj := h j
    rw [Array.getElem?_modify, Array.getElem?_modify]
    generalize r.entries[j]? = x, r'.entries[j]? = x' at hj ⊢
    split_ifs
    · cases hj with
      | none => exact .none
      | some he => exact .some ⟨he.1, he.2.1, hf _ _ _ he.2.2⟩
    · exact hj

end Alike

/-- Changed objects keep their names. -/
theorem alike_modify (r : Registry α) (keys : List Nat) (f : α → α) :
    r.Alike (fun _ _ _ => True) (r.modify keys f) := by
  intro k
  rw [getElem?_modify]
  rcases r.entries[k]? with _ | e
  · exact .none
  · exact .some ⟨rfl, rfl, trivial⟩

end PositionOverlay.Registry
