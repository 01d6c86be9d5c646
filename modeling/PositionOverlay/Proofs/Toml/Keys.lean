import Mathlib.Data.List.Nodup
import Mathlib.Tactic.SplitIfs
import PositionOverlay.Toml.Reader

/-! # Names that do not repeat

A document is refused if it names a value twice, so in a table that has been read no name repeats,
however the table was written: with headers, with dotted keys or in braces.
-/
namespace PositionOverlay.Toml

/-- If the value is a table, then no name repeats in it. -/
def Keyed (v : Toml) : Prop := ∀ t, v = .table t → (t.map Prod.fst).Nodup

/-- In no table of the node a name repeats, and `P` holds for its values. -/
inductive Node.Sound (P : Toml → Prop) : Node → Prop where
  | value {v : Toml} (h : P v) : Sound P (.value v)
  | table {origin : Origin} {ms : List (String × Node)} (hnames : (ms.map Prod.fst).Nodup)
    (h : ∀ m ∈ ms, Sound P m.2) : Sound P (.table origin ms)
  | tables {earlier : List (List (String × Node))} {last : List (String × Node)}
    (hnames : (last.map Prod.fst).Nodup) (h : ∀ m ∈ last, Sound P m.2) :
    Sound P (.tables earlier last)

namespace Members

variable {P : Toml → Prop} {ms ms' : Members} {name k : String} {node : Node}
  {origin origin' making : Origin} {f : Origin → Members → Option (Origin × Members)}

/-- The same for members. -/
structure Sound (P : Toml → Prop) (ms : Members) : Prop where
  names : (ms.map Prod.fst).Nodup
  nodes : ∀ m ∈ ms, m.2.Sound P

theorem sound_nil : Sound P [] := ⟨List.nodup_nil, nofun⟩

theorem mem_put {m : String × Node} (h : m ∈ ms.put name node) : m = (name, node) ∨ m ∈ ms := by
  induction ms with
  | nil => exact .inl (List.mem_singleton.mp h)
  | cons e ms ih =>
    unfold put at h
    split_ifs at h
    · exact (List.mem_cons.mp h).imp id (List.mem_cons_of_mem _)
    · rcases List.mem_cons.mp h with rfl | h
      · exact .inr List.mem_cons_self
      · exact (ih h).imp id (List.mem_cons_of_mem _)

theorem Sound.put (h : ms.Sound P) (hnode : node.Sound P) : (ms.put name node).Sound P where
  names := by
    have hnames := h.names
    clear h
    induction ms with
    | nil => simp [Members.put]
    | cons e ms ih =>
      obtain ⟨he, hnames⟩ := List.nodup_cons.mp hnames
      unfold Members.put
      split_ifs with hname
      · subst hname
        exact List.nodup_cons.mpr ⟨he, hnames⟩
      · refine List.nodup_cons.mpr ⟨fun hmem => ?_, ih hnames⟩
        obtain ⟨m, hm, hfst⟩ := List.mem_map.mp hmem
        rcases mem_put hm with rfl | hm
        · exact hname hfst.symm
        · exact he (List.mem_map.mpr ⟨m, hm, hfst⟩)
  nodes m hm := by
    rcases mem_put hm with rfl | hm
    · exact hnode
    · exact h.nodes m hm

theorem Sound.lookup (h : ms.Sound P) (hnode : ms.lookup name = some node) : node.Sound P := by
  obtain ⟨before, after, hms, -⟩ := List.lookup_eq_some_iff.mp hnode
  exact h.nodes (name, node) (by simp [hms])

/-- A change at the end of a path leaves the members sound if it does so there. -/
theorem Sound.change (hf : ∀ o (ms : Members) o' ms', ms.Sound P → f o ms = some (o', ms') →
      Sound P ms') {path : List String} (h : ms.Sound P)
    (hchange : Members.change making f path origin ms = some (origin', ms')) : ms'.Sound P := by
  induction path generalizing origin origin' ms ms' with
  | nil => exact hf _ _ _ _ h hchange
  | cons k path ih =>
    rw [Members.change] at hchange
    split at hchange
    · obtain ⟨⟨o, inner⟩, hinner, hput⟩ := Option.bind_eq_some_iff.mp hchange
      obtain ⟨-, rfl⟩ := Prod.mk.inj (Option.some.inj hput)
      have hsound := ih sound_nil hinner
      exact h.put (.table hsound.names hsound.nodes)
    · rename_i o inner hlookup
      split at hchange
      · exact nomatch hchange
      · obtain ⟨⟨o', inner'⟩, hinner, hput⟩ := Option.bind_eq_some_iff.mp hchange
        obtain ⟨-, rfl⟩ := Prod.mk.inj (Option.some.inj hput)
        cases h.lookup hlookup with
        | table hnames hnodes =>
          have hsound := ih ⟨hnames, hnodes⟩ hinner
          exact h.put (.table hsound.names hsound.nodes)
    · rename_i earlier last hlookup
      obtain ⟨⟨o', last'⟩, hlast, hput⟩ := Option.bind_eq_some_iff.mp hchange
      obtain ⟨-, rfl⟩ := Prod.mk.inj (Option.some.inj hput)
      cases h.lookup hlookup with
      | tables hnames hnodes =>
        have hsound := ih ⟨hnames, hnodes⟩ hlast
        exact h.put (.tables hsound.names hsound.nodes)
    · exact nomatch hchange

theorem Sound.addValue {path : List String} {v : Toml} (h : ms.Sound P) (hv : P v)
    (hadd : Members.addValue path name v origin ms = some (origin', ms')) : ms'.Sound P := by
  refine h.change (fun o ms o' ms' hms hput => ?_) hadd
  split_ifs at hput
  obtain ⟨-, rfl⟩ := Prod.mk.inj (Option.some.inj hput)
  exact hms.put (.value hv)

theorem Sound.openTable {path : List String} (h : ms.Sound P)
    (hopen : Members.openTable path name origin ms = some (origin', ms')) : ms'.Sound P := by
  refine h.change (fun o ms o' ms' hms hput => ?_) hopen
  split at hput
  · obtain ⟨-, rfl⟩ := Prod.mk.inj (Option.some.inj hput)
    exact hms.put (.table List.nodup_nil nofun)
  · rename_i inner hlookup
    obtain ⟨-, rfl⟩ := Prod.mk.inj (Option.some.inj hput)
    cases hms.lookup hlookup with
    | table hnames hnodes => exact hms.put (.table hnames hnodes)
  · exact nomatch hput

theorem Sound.appendTable {path : List String} (h : ms.Sound P)
    (happend : Members.appendTable path name origin ms = some (origin', ms')) : ms'.Sound P := by
  refine h.change (fun o ms o' ms' hms hput => ?_) happend
  split at hput
  · obtain ⟨-, rfl⟩ := Prod.mk.inj (Option.some.inj hput)
    exact hms.put (.tables List.nodup_nil nofun)
  · obtain ⟨-, rfl⟩ := Prod.mk.inj (Option.some.inj hput)
    exact hms.put (.tables List.nodup_nil nofun)
  · exact nomatch hput

end Members

/-! ## Statements -/

/-- `P` holds for the value that the statement gives, if it gives one. -/
def Statement.Gives (P : Toml → Prop) : Statement → Prop
  | .entry _ _ v => P v
  | _ => True

variable {P : Toml → Prop}

theorem Draft.take_sound {d d' : Draft} {s : Statement} (hd : d.members.Sound P) (hs : s.Gives P)
    (h : d.take s = some d') : d'.members.Sound P := by
  cases s with
  | entry path name v =>
    obtain ⟨⟨o, ms⟩, hchange, hd'⟩ := Option.bind_eq_some_iff.mp h
    obtain rfl := Option.some.inj hd'
    exact hd.change (fun o ms o' ms' hms hadd => hms.addValue hs hadd) hchange
  | header path name =>
    obtain ⟨⟨o, ms⟩, hopen, hd'⟩ := Option.bind_eq_some_iff.mp h
    obtain rfl := Option.some.inj hd'
    exact hd.openTable hopen
  | element path name =>
    obtain ⟨⟨o, ms⟩, happend, hd'⟩ := Option.bind_eq_some_iff.mp h
    obtain rfl := Option.some.inj hd'
    exact hd.appendTable happend

theorem Draft.foldlM_sound {d d' : Draft} {ss : List Statement} (hd : d.members.Sound P)
    (hs : ∀ s ∈ ss, s.Gives P) (h : ss.foldlM Draft.take d = some d') : d'.members.Sound P := by
  induction ss generalizing d with
  | nil =>
    obtain rfl := Option.some.inj h
    exact hd
  | cons s ss ih =>
    obtain ⟨hfirst, hs⟩ := List.forall_mem_cons.mp hs
    obtain ⟨d₁, htake, h⟩ := Option.bind_eq_some_iff.mp h
    exact ih (Draft.take_sound hd hfirst htake) hs h

theorem finishMembers_eq_map (ms : Members) :
    finishMembers ms = ms.map fun m => (m.1, m.2.finish) := by
  induction ms with
  | nil => rfl
  | cons m ms ih => rw [finishMembers, ih, List.map_cons]

theorem Node.Sound.keyed {n : Node} (h : n.Sound Keyed) : n.finish.Keyed := by
  cases h with
  | value h => exact h
  | table hnames h =>
    rintro t ⟨⟩
    rw [finishMembers_eq_map, List.map_map]
    exact hnames
  | tables hnames h => exact nofun

/-- No name of a document is given twice. -/
theorem nodup_ofStatements? {ss : List Statement} {t : List (String × Toml)}
    (h : ofStatements? ss = some t) : (t.map Prod.fst).Nodup := by
  obtain ⟨d, hd, rfl⟩ := Option.map_eq_some_iff.mp h
  have hgives : ∀ s ∈ ss, s.Gives fun _ => True := fun s _ => by cases s <;> trivial
  have hsound := Draft.foldlM_sound (P := fun _ => True) Members.sound_nil hgives hd
  rw [Draft.finish, finishMembers_eq_map, List.map_map]
  exact hsound.names

theorem keyed_ofStatements? {ss : List Statement} {t : List (String × Toml)}
    (hs : ∀ s ∈ ss, s.Gives Keyed) (h : ofStatements? ss = some t) : ∀ m ∈ t, m.2.Keyed := by
  obtain ⟨d, hd, rfl⟩ := Option.map_eq_some_iff.mp h
  have hsound := Draft.foldlM_sound Members.sound_nil hs hd
  rw [Draft.finish, finishMembers_eq_map]
  intro m hm
  obtain ⟨n, hn, rfl⟩ := List.mem_map.mp hm
  exact (hsound.nodes n hn).keyed

/-! ## Reading -/

/-- What the reader reads is such that `Q` holds. -/
def Reader.Yields {α : Type} (Q : α → Prop) (r : Reader α) : Prop :=
  ∀ ⦃cs a rest⦄, r cs = some (a, rest) → Q a

namespace Reader.Yields

variable {α β : Type} {Q : β → Prop} {R : α → Prop}

theorem bind {r : Reader α} {f : α → Reader β} (hr : Yields R r)
    (hf : ∀ a, R a → Yields Q (f a)) : Yields Q (r >>= f) := by
  intro cs b rest h
  obtain ⟨⟨a, cs'⟩, hread, h⟩ := Option.bind_eq_some_iff.mp h
  exact hf a (hr hread) h

/-- The last part decides. -/
theorem after {r : Reader α} {f : α → Reader β} (hf : ∀ a, Yields Q (f a)) :
    Yields Q (r >>= f) := by
  have hr : Yields (fun _ => True) r := fun _ _ _ _ => trivial
  exact hr.bind fun a _ => hf a

theorem pure {b : β} (h : Q b) : Yields Q (Pure.pure b : Reader β) := by
  rintro cs _ _ ⟨⟩
  exact h

theorem map {r : Reader α} {f : α → β} (h : ∀ a, Q (f a)) : Yields Q (f <$> r) := by
  rw [map_eq_pure_bind]
  exact .after fun a => .pure (h a)

theorem fail : Yields Q (Reader.fail : Reader β) := nofun

theorem lift {x : Option β} (h : ∀ b, x = some b → Q b) : Yields Q (liftM x : Reader β) := by
  intro cs b rest hx
  obtain ⟨a, ha, hb⟩ := Option.bind_eq_some_iff.mp hx
  obtain ⟨rfl, -⟩ := Prod.mk.inj (Option.some.inj hb)
  exact h a ha

end Reader.Yields

open Reader

theorem keyed_of_ne {v : Toml} (h : ∀ t, v ≠ .table t) : v.Keyed := fun t ht => absurd ht (h t)

theorem keyed_of_scalar? {cs : List Char} {v : Toml} (h : scalar? cs = some v) : v.Keyed := by
  refine keyed_of_ne fun t ht => ?_
  subst ht
  unfold scalar? at h
  split_ifs at h
  · exact nomatch h
  · exact nomatch h
  · rcases hint : integer? cs with _ | i <;> rcases hfloat : float? cs with _ | x <;>
      rcases hmoment : moment? cs with _ | m <;> simp_all

theorem scalar_keyed : Yields Keyed scalar := by
  unfold scalar
  refine .after fun cs => .after fun rest => ?_
  have hword (cs : List Char) : Yields Keyed (liftM (scalar? cs) : Reader Toml) :=
    .lift fun _ => keyed_of_scalar?
  split
  · split_ifs
    · exact .after fun _ => .after fun time => hword _
    · exact hword cs
  · exact hword cs

theorem value_keyed (room : Nat) : Yields Keyed (value room) := by
  unfold value
  refine .after fun c => ?_
  split
  · exact .map fun _ => keyed_of_ne nofun
  · exact .map fun _ => keyed_of_ne nofun
  · split
    · exact .fail
    · exact .after fun _ => .after fun _ => .after fun items => .pure (keyed_of_ne nofun)
  · split
    · exact .fail
    · refine .after fun _ => .after fun _ => .after fun entries => ?_
      have hnames : Yields (fun t => (t.map Prod.fst).Nodup)
          (liftM (ofStatements? entries) : Reader (List (String × Toml))) :=
        .lift fun _ => nodup_ofStatements?
      refine hnames.bind fun t ht => .pure ?_
      rintro _ ⟨⟩
      exact ht
  · exact scalar_keyed

theorem entry_gives (skip : Reader Unit) {item : Reader Toml} (h : Yields P item) :
    Yields (Statement.Gives P) (entry skip item) :=
  .after fun _ => .after fun _ => .after fun _ => .after fun _ => h.bind fun _ hv => .pure hv

theorem statement_gives : Yields (Statement.Gives Keyed) statement := by
  unfold statement
  refine .after fun double => ?_
  have hend {s : Statement} (hs : s.Gives Keyed) :
      Yields (Statement.Gives Keyed) (do endOfLine; return s) :=
    .after fun _ => .pure hs
  have hname {s : Statement} (hs : s.Gives Keyed) {brackets : List Char} :
      Yields (Statement.Gives Keyed) (do
        expect brackets
        let s ← (pure s : Reader Statement)
        endOfLine
        return s) :=
    .after fun _ => Yields.bind (R := Statement.Gives Keyed) (.pure hs) fun _ => hend
  refine .after fun single => ?_
  split_ifs
  · exact .after fun _ => .after fun k => hname (s := .element k.1 k.2) trivial
  · exact .after fun _ => .after fun k => hname (s := .header k.1 k.2) trivial
  · exact (entry_gives _ (value_keyed _)).bind fun _ => hend

theorem statements_give (bound : Nat) :
    Yields (fun ss => ∀ s ∈ ss, s.Gives Keyed) (statements bound) := by
  induction bound with
  | zero => exact .fail
  | succ bound ih =>
    unfold statements
    refine .after fun _ => .after fun cs => ?_
    split_ifs
    · exact .pure nofun
    · refine statement_gives.bind fun s hs => ih.bind fun ss hss => .pure ?_
      exact List.forall_mem_cons.mpr ⟨hs, hss⟩

/-- In a document no name repeats, and neither does a name in a table that is a member. -/
theorem distinct_of_parse? {text : String} {t : List (String × Toml)} (h : parse? text = some t) :
    (t.map Prod.fst).Nodup ∧ ∀ m ∈ t, m.2.Keyed := by
  obtain ⟨⟨ss, rest⟩, hread, ht⟩ := Option.bind_eq_some_iff.mp h
  have hgives : Yields (fun ss => ∀ s ∈ ss, s.Gives Keyed) (turns >>= statements) :=
    .after statements_give
  exact ⟨nodup_ofStatements? ht, keyed_ofStatements? (hgives hread) ht⟩

end PositionOverlay.Toml
