import PositionOverlay.Event
import PositionOverlay.Proofs.Json.Objects
import PositionOverlay.Proofs.Schema.Decoding

/-! # Events that are read from objects

The tag of an event may stand anywhere among its members. The reader of events takes each member in,
the tag apart from the others, and what it has when the object ends follows from the members as they
are read without it: if no name repeats, these are the kind that the tag names and the others in
their order.
-/
namespace PositionOverlay.Event

open Json Json.Reader Work

variable {p p' : Parts} {members : List (String × Json)} {kind : Kind} {room : Nat}
  {cs rest : List Char} {e : Event}

/-- What becomes of the parts of an event when a member is taken in. -/
def Parts.take (p : Parts) (name : String) (v : Json) : Option Parts :=
  if name = tag then
    match p.kind, v with
    | none, .str s => (Kind.options.lookup s).map fun k => { p with kind := some k }
    | _, _ => none
  else some { p with members := (name, v) :: p.members }

theorem accept_pick_eq_ok {s : String} {k : Kind} {rest' : List Char} :
    (accept (Schema.pick Kind.options s) : Reader Kind) cs = .ok (k, rest') ↔
      Kind.options.lookup s = some k ∧ rest' = cs := by
  unfold Schema.pick
  rcases Kind.options.lookup s with _ | k'
  · exact ⟨nofun, fun h => nomatch h.1⟩
  · change Except.ok (k', cs) = _ ↔ _
    simp [eq_comm]

/-- The tag is a string that names a kind. -/
theorem readKind_eq_ok_iff {v : Json} (h : readValue room cs = .ok (v, rest)) {k : Kind}
    {rest' : List Char} : readKind cs = .ok (k, rest') ↔
      ∃ s, v = .str s ∧ Kind.options.lookup s = some k ∧ rest' = rest := by
  unfold readKind
  simp only [bind_eq_ok, stringOr_eq_ok_iff h, accept_pick_eq_ok]
  constructor
  · rintro ⟨s, _, ⟨hv, rfl⟩, hk⟩
    exact ⟨s, hv, hk⟩
  · rintro ⟨s, hv, hk, rfl⟩
    exact ⟨s, _, ⟨hv, rfl⟩, hk, rfl⟩

theorem readPart_echoes (room : Nat) : Echoes (readPart room) room Parts.take := by
  intro p name cs v rest h p' rest'
  obtain ⟨_, cs', hcolon, hv⟩ := bind_eq_ok.mp h
  unfold readPart Parts.take
  by_cases hname : name = tag
  · simp only [if_pos hname]
    rcases hkind : p.kind with _ | k
    · simp only [Option.isSome_none, Bool.false_eq_true, if_false]
      rw [bind_of_ok hcolon, bind_eq_ok]
      simp only [readKind_eq_ok_iff hv]
      cases v with
      | str s =>
        simp only [Option.map_eq_some_iff]
        constructor
        · rintro ⟨k, _, ⟨_, ⟨⟩, hk, rfl⟩, hp⟩
          obtain ⟨rfl, rfl⟩ := Prod.mk.inj (Except.ok.inj hp)
          exact ⟨⟨k, hk, rfl⟩, rfl⟩
        · rintro ⟨⟨k, hk, rfl⟩, rfl⟩
          exact ⟨k, _, ⟨s, rfl, hk, rfl⟩, rfl⟩
      | _ => exact ⟨fun ⟨_, _, ⟨_, h, _⟩, _⟩ => (nomatch h), fun h => nomatch h.1⟩
    · exact ⟨nofun, fun h => nomatch h.1⟩
  · simp only [if_neg hname]
    rw [bind_of_ok hcolon, bind_of_ok hv]
    simp [pure_run, eq_comm]

theorem requireKind_eq_ok_iff {o : Option Kind} {rest' : List Char} :
    requireKind o cs = .ok (kind, rest') ↔ o = some kind ∧ rest' = cs := by
  rcases o with _ | k
  · exact ⟨nofun, fun h => nomatch h.1⟩
  · change Except.ok (k, cs) = _ ↔ _
    simp [eq_comm]

theorem built_eq_ok_iff {x : Except Mismatch Event} {rest' : List Char} :
    built x cs = .ok (e, rest') ↔ x = .ok e ∧ rest' = cs := by
  rcases x with m | e'
  · exact ⟨nofun, fun h => nomatch h.1⟩
  · change Except.ok (e', cs) = _ ↔ _
    simp [eq_comm]

/-- An event is read from an object if what its members leave can be decoded. -/
theorem read_eq_ok_iff (h : readValue room cs = .ok (.obj members, rest)) {rest' : List Char} :
    read room cs = .ok (e, rest') ↔ rest' = rest ∧ ∃ p kind,
      members.foldlM (fun p m => Parts.take p m.1 m.2) ⟨none, []⟩ = some p ∧
        p.kind = some kind ∧ decode kind (.obj p.members.reverse) = .ok e := by
  obtain ⟨inner, ds, end_, rfl, hpeek, hclose, hread⟩ := Echoes.of_object readPart_echoes h
  have hadvance : advance ('\x7b' :: ds) = .ok ((), ds) := rfl
  have hturns : turns ds = .ok (ds.length + 1, ds) := rfl
  rw [read, bind_of_ok hpeek]
  simp only [if_true, nested, bind_assoc, pure_bind]
  rw [bind_of_ok hadvance, bind_of_ok hturns, bind_eq_ok]
  constructor
  · rintro ⟨p, _, hp, hrequire⟩
    obtain ⟨hfold, rfl⟩ := (hread ..).mp hp
    obtain ⟨kind, _, hkind, hbuilt⟩ := bind_eq_ok.mp hrequire
    obtain ⟨hsome, rfl⟩ := requireKind_eq_ok_iff.mp hkind
    rw [bind_of_ok hclose] at hbuilt
    obtain ⟨hdecode, rfl⟩ := built_eq_ok_iff.mp hbuilt
    exact ⟨rfl, p, kind, hfold, hsome, hdecode⟩
  · rintro ⟨rfl, p, kind, hfold, hkind, hdecode⟩
    refine ⟨p, end_, (hread ..).mpr ⟨hfold, rfl⟩, ?_⟩
    rw [bind_of_ok (requireKind_eq_ok_iff.mpr ⟨hkind, rfl⟩), bind_of_ok hclose]
    exact built_eq_ok_iff.mpr ⟨hdecode, rfl⟩

/-! ## Distinct names -/

theorem Kind.lookup_eq_some_iff {s : String} :
    Kind.options.lookup s = some kind ↔ s = kind.name := by
  constructor
  · intro h
    obtain ⟨before, after, hoptions, -⟩ := List.lookup_eq_some_iff.mp h
    have hmem : (s, kind) ∈ Kind.options := by simp [hoptions]
    have hall : ∀ o ∈ Kind.options, o.1 = o.2.name := by decide
    exact hall _ hmem
  · rintro rfl
    exact kind.lookup_name

theorem Parts.take_tag_iff {v : Json} : p.take tag v = some p' ↔
    p.kind = none ∧ ∃ k : Kind, v = .str k.name ∧ p' = ⟨some k, p.members⟩ := by
  obtain ⟨o, ms⟩ := p
  unfold take
  rw [if_pos rfl]
  cases o with
  | some k => exact ⟨nofun, fun h => nomatch h.1⟩
  | none =>
    cases v with
    | str s =>
      simp only [Option.map_eq_some_iff, Kind.lookup_eq_some_iff, Json.str.injEq, true_and]
      exact exists_congr fun k => and_congr_right fun _ => eq_comm
    | _ => exact ⟨nofun, fun ⟨_, _, h, _⟩ => nomatch h⟩

theorem Parts.take_of_ne {k : String} {v : Json} (hk : k ≠ tag) :
    p.take k v = some ⟨p.kind, (k, v) :: p.members⟩ := if_neg hk

/-- The members that are not the tag. -/
def content (members : List (String × Json)) : List (String × Json) :=
  members.filter fun m => m.1 ≠ tag

/-- If no name repeats, then the tag is met once, and the others are taken in as they come. -/
theorem foldlM_take_iff (hnodup : (members.map Prod.fst).Nodup) :
    members.foldlM (fun p m => Parts.take p m.1 m.2) p = some p' ∧ p'.kind = some kind ↔
      p' = ⟨some kind, (content members).reverse ++ p.members⟩ ∧
        (p.kind = some kind ∧ (∀ v, (tag, v) ∉ members) ∨
          p.kind = none ∧ (tag, .str kind.name) ∈ members) := by
  induction members generalizing p with
  | nil =>
    obtain ⟨o, ms⟩ := p
    simp only [List.foldlM_nil, content, List.filter_nil, List.reverse_nil, List.nil_append,
      List.not_mem_nil, not_false_eq_true, implies_true, and_true, and_false, or_false]
    constructor
    · rintro ⟨⟨⟩, rfl⟩
      exact ⟨rfl, rfl⟩
    · rintro ⟨rfl, rfl⟩
      exact ⟨rfl, rfl⟩
  | cons m members ih =>
    obtain ⟨k, v⟩ := m
    obtain ⟨hk, hnodup'⟩ := List.nodup_cons.mp hnodup
    rw [List.foldlM_cons, Option.bind_eq_bind, Option.bind_eq_some_iff]
    by_cases hktag : k = tag
    · subst hktag
      have hfresh (w : Json) : (tag, w) ∉ members := fun h => hk (List.mem_map.mpr ⟨_, h, rfl⟩)
      have hcontent : content ((tag, v) :: members) = content members :=
        List.filter_cons_of_neg (by simp)
      have htaken (k : Kind) := ih (p := ⟨some k, p.members⟩) hnodup'
      simp only [Parts.take_tag_iff, hcontent, List.mem_cons, hfresh, or_false, Prod.mk.injEq,
        true_and]
      constructor
      · rintro ⟨⟨_, ⟨hnone, k, rfl, rfl⟩, hfold⟩, hkind⟩
        obtain ⟨rfl, ⟨hk', -⟩ | ⟨hk', -⟩⟩ := (htaken k).mp ⟨hfold, hkind⟩
        · obtain rfl := Option.some.inj hk'
          exact ⟨rfl, .inr ⟨hnone, rfl⟩⟩
        · exact nomatch hk'
      · rintro ⟨rfl, ⟨-, hnone⟩ | ⟨hnone, rfl⟩⟩
        · exact absurd rfl (hnone v)
        · obtain ⟨hfold, hkind⟩ := (htaken kind).mpr ⟨rfl, .inl ⟨rfl, hfresh⟩⟩
          exact ⟨⟨_, ⟨hnone, kind, rfl, rfl⟩, hfold⟩, hkind⟩
    · have hcontent : content ((k, v) :: members) = (k, v) :: content members :=
        List.filter_cons_of_pos (by simpa using hktag)
      have hmem (w : Json) : (tag, w) ∈ (k, v) :: members ↔ (tag, w) ∈ members := by
        simp [Ne.symm hktag]
      simp only [Parts.take_of_ne hktag, Option.some.injEq, exists_eq_left', ih hnodup', hcontent,
        hmem, List.reverse_cons, List.append_assoc, List.singleton_append]

/-- The whole text of an object in which no name repeats. -/
theorem parse_eq_ok_iff_decode {text : String} (h : Json.parse text = .ok (.obj members))
    (hnodup : (members.map Prod.fst).Nodup) : Event.parse text = .ok e ↔
      ∃ kind : Kind, (tag, .str kind.name) ∈ members ∧
        decode kind (.obj (content members)) = .ok e := by
  obtain ⟨rest, rest', hread, hend⟩ := runText_eq_ok_iff.mp h
  have hparts (p : Parts) (kind : Kind) :
      members.foldlM (fun p m => Parts.take p m.1 m.2) ⟨none, []⟩ = some p ∧ p.kind = some kind ↔
        p = ⟨some kind, (content members).reverse⟩ ∧ (tag, .str kind.name) ∈ members := by
    rw [foldlM_take_iff hnodup]
    simp only [List.append_nil, reduceCtorEq, false_and, true_and, false_or]
  rw [Event.parse, runText_eq_ok_iff]
  simp only [read_eq_ok_iff hread]
  constructor
  · rintro ⟨_, _, ⟨rfl, p, kind, hfold, hkind, hdecode⟩, -⟩
    obtain ⟨rfl, htag⟩ := (hparts p kind).mp ⟨hfold, hkind⟩
    rw [List.reverse_reverse] at hdecode
    exact ⟨kind, htag, hdecode⟩
  · rintro ⟨kind, htag, hdecode⟩
    obtain ⟨hfold, hkind⟩ := (hparts _ kind).mpr ⟨rfl, htag⟩
    refine ⟨rest, rest', ⟨rfl, _, kind, hfold, hkind, ?_⟩, hend⟩
    rw [List.reverse_reverse]
    exact hdecode

end PositionOverlay.Event
