import PositionOverlay.Proofs.Schema.Coercion
import PositionOverlay.Proofs.Settings.Layers
import PositionOverlay.Proofs.Toml.Keys
import PositionOverlay.Settings.Load

/-! # Settings, leaf by leaf

Settings are ten leaves in three sections. Each leaf comes from the last variable that stands for
it, else from the file, else it has its standard value, whatever else the file and the environment
hold.
-/
namespace PositionOverlay.Settings

open Layers

/-- A place for one value of the settings. -/
inductive Leaf where
  | color
  | fontSize
  | keepInView
  | pin
  | yMin
  | yMax
  | height
  | rightAxis
  | offersWidth
  | level

namespace Leaf

/-- The section of a leaf. -/
def part : Leaf → String
  | color | fontSize | keepInView | pin => "overlay"
  | yMin | yMax | height | rightAxis | offersWidth => "view"
  | level => "log"

/-- The key of a leaf in its section. -/
def key : Leaf → String
  | color => "color"
  | fontSize => "font_size_px"
  | keepInView => "keep_in_view"
  | pin => "pin"
  | yMin => "y_min"
  | yMax => "y_max"
  | height => "height"
  | rightAxis => "right_axis_x"
  | offersWidth => "l1_line_len"
  | level => "level"

/-- What stands at a leaf. -/
def Value : Leaf → Type
  | color | level => String
  | keepInView => Bool
  | pin => Pin
  | fontSize | yMin | yMax | height | rightAxis | offersWidth => Float

def schema : (l : Leaf) → Schema l.Value
  | color | level => .text
  | keepInView => .flag
  | pin => Pin.schema
  | fontSize | yMin | yMax | height | rightAxis | offersWidth => .number

/-- The value of a leaf that is not set. -/
def standard : (l : Leaf) → l.Value
  | color => "default_light"
  | fontSize => (16.0 : Float)
  | keepInView => true
  | pin => Pin.rightCentered
  | yMin => (0.0 : Float)
  | yMax => (100.0 : Float)
  | height => (600.0 : Float)
  | rightAxis => (1200.0 : Float)
  | offersWidth => (0.0 : Float)
  | level => "info"

def get : (l : Leaf) → Settings → l.Value
  | color, s => s.overlay.color
  | fontSize, s => s.overlay.fontSize
  | keepInView, s => s.overlay.keepInView
  | pin, s => s.overlay.pin
  | yMin, s => s.view.yMin
  | yMax, s => s.view.yMax
  | height, s => s.view.height
  | rightAxis, s => s.view.rightAxis
  | offersWidth, s => s.view.offersWidth
  | level, s => s.log.level

/-- The leaf has a value if this was found for it: what was found stands for the value, or nothing
was found and the value is the standard one. -/
def Settles (l : Leaf) : Option Json → l.Value → Prop := l.schema.Settles l.standard

/-- What a table has for a leaf. -/
def valueIn? (l : Leaf) (table : Json) : Option Json :=
  (membersOf (under? l.part table)).lookup l.key

/-- The variable `PP__SECTION__KEY`. -/
def variableName (l : Leaf) : String := "PP__" ++ l.part.toUpper ++ "__" ++ l.key.toUpper

/-- A variable of this name stands for the leaf. -/
def IsNamedBy (l : Leaf) (name : String) : Prop :=
  (keyOf? name).map pathOf = some [.member l.part, .member l.key]

instance (l : Leaf) (name : String) : Decidable (l.IsNamedBy name) :=
  inferInstanceAs (Decidable (_ = _))

/-- The text of the last variable that stands for the leaf. -/
def textIn? (l : Leaf) (env : List (String × String)) : Option String :=
  (env.reverse.find? fun e => l.IsNamedBy e.1).map Prod.snd

/-- What is found for a leaf: a text of the environment, else what the file has for it. -/
def found (l : Leaf) (file : Json) (env : List (String × String)) : Option Json :=
  ((l.textIn? env).map .str).or (l.valueIn? file)

/-- A text that is found is that of a variable for the leaf. -/
theorem exists_mem_of_textIn? {l : Leaf} {env : List (String × String)} {text : String}
    (h : l.textIn? env = some text) : ∃ name, (name, text) ∈ env ∧ l.IsNamedBy name := by
  obtain ⟨⟨name, _⟩, hfind, rfl⟩ := Option.map_eq_some_iff.mp h
  have hnamed : l.IsNamedBy name := by simpa using List.find?_some hfind
  exact ⟨name, List.mem_reverse.mp (List.mem_of_find?_eq_some hfind), hnamed⟩

theorem isNamedBy_variableName (l : Leaf) : l.IsNamedBy l.variableName := by
  cases l <;> decide +kernel

theorem key_injective : Function.Injective key := by
  intro l l' h
  cases l <;> cases l' <;> first | rfl | exact absurd h (by decide)

theorem textIn?_cons (l : Leaf) (e : String × String) (env : List (String × String)) :
    l.textIn? (e :: env) = (l.textIn? env).or (if l.IsNamedBy e.1 then some e.2 else none) := by
  rw [textIn?, textIn?, List.reverse_cons, List.find?_append, List.find?_singleton, Option.map_or]
  split_ifs <;> simp_all

end Leaf

/-! ## Sections -/

def sections : List String := ["overlay", "view", "log"]

theorem Leaf.part_mem_sections (l : Leaf) : l.part ∈ sections := by
  cases l <;> decide

/-- Each section of the table is a table, if it is there. -/
def Sectioned (table : Json) : Prop :=
  ∀ part ∈ sections, ∀ v, under? part table = some v → ∃ ms, v = .obj ms

/-- The settings with the given values at their leaves. -/
def ofLeaves (value : (l : Leaf) → l.Value) : Settings where
  overlay := ⟨value .color, value .fontSize, value .keepInView, value .pin⟩
  view := ⟨value .yMin, value .yMax, value .height, value .rightAxis, value .offersWidth⟩
  log := ⟨value .level⟩

theorem get_ofLeaves (value : (l : Leaf) → l.Value) (l : Leaf) :
    l.get (ofLeaves value) = value l := by
  cases l <;> rfl

/-- A section that is absent has the value that an empty one has. -/
theorem settles_section {α β : Type} {title : String} {fs : Fields α} {build : α → β} {d : β}
    {o : Option Json} {a : α} (hd : (Schema.record title fs build).coerce (.obj []) = .ok d)
    (hsection : ∀ v, o = some v → ∃ ms, v = .obj ms)
    (h : fs.Settled (membersOf o) a) :
    (Schema.record title fs build).Settles d o (build a) := by
  have hcoerce (ms : List (String × Json)) (h : fs.Settled ms a) :
      (Schema.record title fs build).coerce (.obj ms) = .ok (build a) := by
    rw [Schema.coerce, h.coerceMembers]
    rfl
  cases o with
  | none => exact Except.ok.inj ((hcoerce [] h).symm.trans hd)
  | some v =>
    obtain ⟨ms, rfl⟩ := hsection v rfl
    exact hcoerce ms h

/-- Settings are made up of what each leaf settles at. -/
theorem coerce_of_settles {ms : List (String × Json)} (hsections : Sectioned (.obj ms))
    {value : (l : Leaf) → l.Value}
    (hvalue : ∀ l : Leaf, l.Settles (l.valueIn? (.obj ms)) (value l)) :
    schema.coerce (.obj ms) = .ok (ofLeaves value) := by
  have hoverlay : OverlayConfig.schema.Settles .standard (under? "overlay" (.obj ms))
      (ofLeaves value).overlay := by
    have hempty : OverlayConfig.schema.coerce (.obj []) = .ok .standard := rfl
    refine settles_section hempty (hsections "overlay" (by decide)) ?_ (a := (_, _, _, _, ()))
    exact ⟨hvalue .color, hvalue .fontSize, hvalue .keepInView, hvalue .pin, trivial⟩
  have hview : View.schema.Settles .standard (under? "view" (.obj ms)) (ofLeaves value).view := by
    have hempty : View.schema.coerce (.obj []) = .ok .standard := rfl
    refine settles_section hempty (hsections "view" (by decide)) ?_ (a := (_, _, _, _, _, ()))
    exact ⟨hvalue .yMin, hvalue .yMax, hvalue .height, hvalue .rightAxis, hvalue .offersWidth,
      trivial⟩
  have hlog : LogConfig.schema.Settles .standard (under? "log" (.obj ms)) (ofLeaves value).log := by
    have hempty : LogConfig.schema.coerce (.obj []) = .ok .standard := rfl
    refine settles_section hempty (hsections "log" (by decide)) ?_ (a := (_, ()))
    exact ⟨hvalue .level, trivial⟩
  have hall : schema.Settles .standard (some (.obj ms)) (ofLeaves value) := by
    have hempty : schema.coerce (.obj []) = .ok .standard := rfl
    have hobj : ∀ v, some (Json.obj ms) = some v → ∃ ms, v = .obj ms :=
      fun _ hv => ⟨ms, (Option.some.inj hv).symm⟩
    refine settles_section hempty hobj ?_ (a := (_, _, _, ()))
    exact ⟨hoverlay, hview, hlog, trivial⟩
  exact hall

/-! ## Variables -/

/-- A variable that has to do with a section stands for a key in it; if this is a leaf, its text
stands for a value. -/
def Suits (e : String × String) : Prop :=
  ∀ key, keyOf? e.1 = some key → ∀ part ∈ sections, LeadsTo key part →
    ∃ k path, pathOf key = .member part :: .member k :: path ∧
      ∀ l : Leaf, l.part = part → l.key = k → path = [] ∧ ∃ a, l.schema.coerce (.str e.2) = .ok a

variable {e : String × String} {env : List (String × String)} {table : Json} {l : Leaf}

theorem Leaf.IsNamedBy.exists_key (h : l.IsNamedBy e.1) :
    ∃ key, keyOf? e.1 = some key ∧ pathOf key = [.member l.part, .member l.key] :=
  Option.map_eq_some_iff.mp h

theorem Suits.coerces (he : Suits e) (h : l.IsNamedBy e.1) :
    ∃ a, l.schema.coerce (.str e.2) = .ok a := by
  obtain ⟨key, hkey, hpath⟩ := h.exists_key
  obtain ⟨k, path, hpath', hleaf⟩ := he key hkey l.part l.part_mem_sections ⟨_, hpath⟩
  obtain ⟨-, hk⟩ := List.cons.inj (hpath.symm.trans hpath')
  obtain ⟨hk, -⟩ := List.cons.inj hk
  exact (hleaf l rfl (PathStep.member.inj hk)).2

/-- A variable of a leaf suits if its text stands for a value. -/
theorem suits_variableName_iff (l : Leaf) (text : String) :
    Suits (l.variableName, text) ↔ ∃ a, l.schema.coerce (.str text) = .ok a := by
  refine ⟨fun h => h.coerces l.isNamedBy_variableName, fun h key hkey part hpart hleads => ?_⟩
  obtain ⟨key', hkey', hpath⟩ := l.isNamedBy_variableName.exists_key (e := (l.variableName, text))
  obtain rfl := Option.some.inj (hkey.symm.trans hkey')
  obtain ⟨path, hpath'⟩ := hleads
  obtain ⟨hl, -⟩ := List.cons.inj (hpath.symm.trans hpath')
  obtain rfl := PathStep.member.inj hl
  refine ⟨l.key, [], hpath, fun l' _ hl' => ⟨rfl, ?_⟩⟩
  obtain rfl := Leaf.key_injective hl'
  exact h

/-- A table with the value of one more variable. -/
def takeIn (table : Json) (e : String × String) : Json :=
  match keyOf? e.1 with
  | some key => assign (pathOf key) (.str e.2) (some table)
  | none => table

theorem takeIn_of_some {key : String} (h : keyOf? e.1 = some key) (table : Json) :
    takeIn table e = assign (pathOf key) (.str e.2) (some table) := by
  rw [takeIn, h]

theorem takeIn_of_none (h : keyOf? e.1 = none) (table : Json) : takeIn table e = table := by
  rw [takeIn, h]

theorem overlaid_environmentLayer (env : List (String × String)) (table : Json) :
    overlaid table (environmentLayer env) = env.foldl takeIn table := by
  induction env generalizing table with
  | nil => rfl
  | cons e env ih =>
    obtain ⟨name, value⟩ := e
    rw [List.foldl_cons, ← ih]
    cases hkey : keyOf? name with
    | none =>
      rw [takeIn_of_none (e := (name, value)) hkey]
      simp only [environmentLayer, List.filterMap_cons, hkey, Option.map_none]
    | some key =>
      rw [takeIn_of_some (e := (name, value)) hkey]
      simp only [environmentLayer, List.filterMap_cons, hkey, Option.map_some]
      rfl

theorem under?_takeIn {key k part : String} {path : List PathStep}
    (hkey : keyOf? e.1 = some key) (hpath : pathOf key = .member part :: .member k :: path)
    (table : Json) : under? part (takeIn table e) =
      some (.obj (insertSorted k (assign path (.str e.2) ((membersOf (under? part table)).lookup k))
        (membersOf (under? part table)))) := by
  rw [takeIn_of_some hkey, under?_assign_self hpath, assign_member]

theorem under?_takeIn_of_not {part : String} (h : ∀ key, keyOf? e.1 = some key → ¬ LeadsTo key part)
    (table : Json) : under? part (takeIn table e) = under? part table := by
  cases hkey : keyOf? e.1 with
  | none => rw [takeIn_of_none hkey]
  | some key => rw [takeIn_of_some hkey, under?_assign_of_not (h key hkey)]

/-- Sections stay tables. -/
theorem Suits.sectioned (he : Suits e) (h : Sectioned table) : Sectioned (takeIn table e) := by
  intro part hpart v hv
  by_cases hleads : ∃ key, keyOf? e.1 = some key ∧ LeadsTo key part
  · obtain ⟨key, hkey, hleads⟩ := hleads
    obtain ⟨k, path, hpath, -⟩ := he key hkey part hpart hleads
    rw [under?_takeIn hkey hpath] at hv
    exact ⟨_, (Option.some.inj hv).symm⟩
  · rw [under?_takeIn_of_not (by simpa using hleads)] at hv
    exact h part hpart v hv

/-- A variable changes what the table has for its own leaf only. -/
theorem Suits.valueIn?_takeIn (he : Suits e) (l : Leaf) (table : Json) :
    l.valueIn? (takeIn table e) =
      if l.IsNamedBy e.1 then some (.str e.2) else l.valueIn? table := by
  by_cases hleads : ∃ key, keyOf? e.1 = some key ∧ LeadsTo key l.part
  · obtain ⟨key, hkey, hleads⟩ := hleads
    obtain ⟨k, path, hpath, hleaf⟩ := he key hkey l.part l.part_mem_sections hleads
    have hnamed : l.IsNamedBy e.1 ↔ l.key = k ∧ path = [] := by
      simp [Leaf.IsNamedBy, hkey, hpath, eq_comm]
    rw [Leaf.valueIn?, under?_takeIn hkey hpath, membersOf, lookup_insertSorted]
    by_cases hk : l.key = k
    · obtain ⟨rfl, -⟩ := hleaf l rfl hk
      rw [if_pos hk, if_pos (hnamed.mpr ⟨hk, rfl⟩)]
      rfl
    · rw [if_neg hk, if_neg fun h => hk (hnamed.mp h).1, Leaf.valueIn?]
  · have hnamed : ¬ l.IsNamedBy e.1 := by
      intro h
      obtain ⟨key, hkey, hpath⟩ := h.exists_key
      exact hleads ⟨key, hkey, _, hpath⟩
    rw [if_neg hnamed, Leaf.valueIn?, under?_takeIn_of_not (by simpa using hleads), Leaf.valueIn?]

theorem Suits.found_cons (he : Suits e) (l : Leaf) (table : Json) (env : List (String × String)) :
    l.found table (e :: env) = l.found (takeIn table e) env := by
  rw [Leaf.found, Leaf.found, l.textIn?_cons, he.valueIn?_takeIn]
  cases l.textIn? env with
  | some text => rfl
  | none => split_ifs <;> rfl

/-- After all variables each section is a table still, and each leaf has what is found for it. -/
theorem foldl_takeIn (henv : ∀ e ∈ env, Suits e) (h : Sectioned table) :
    Sectioned (env.foldl takeIn table) ∧
      ∀ l : Leaf, l.valueIn? (env.foldl takeIn table) = l.found table env := by
  induction env generalizing table with
  | nil => exact ⟨h, fun _ => rfl⟩
  | cons e env ih =>
    obtain ⟨he, henv⟩ := List.forall_mem_cons.mp henv
    obtain ⟨hsections, hfound⟩ := ih henv (he.sectioned h)
    exact ⟨hsections, fun l => (hfound l).trans (he.found_cons l table env).symm⟩

/-! ## Files -/

/-- The members of a document as one table. -/
def fileTable (members : List (String × Toml)) : Json := combine [Toml.membersToData members]

/-- The sections of a table are tables, and what it has for a leaf stands for a value. -/
structure Fits (table : Json) : Prop where
  sectioned : Sectioned table
  coerces : ∀ (l : Leaf) v, l.valueIn? table = some v → ∃ a, l.schema.coerce v = .ok a

/-- No member is written as a path into a section, such as `"view.height"`. -/
def Plain (members : List (String × Toml)) : Prop :=
  ∀ m ∈ members, ∀ part ∈ sections, LeadsTo m.1 part → m.1 = part

/-- The document gives the value under the key of the leaf, in the table of its section. -/
def Leaf.IsGiven (l : Leaf) (members : List (String × Toml)) (w : Toml) : Prop :=
  ∃ t, (l.part, .table t) ∈ members ∧ (l.key, w) ∈ t

variable {members : List (String × Toml)}

theorem pathOf_section : ∀ part ∈ sections, pathOf part = [.member part] := by
  decide +kernel

theorem under?_fileTable (hplain : Plain members) (hnames : (members.map Prod.fst).Nodup)
    {part : String} (hpart : part ∈ sections) : under? part (fileTable members) =
      (members.lookup part).map fun w => merge w.toData none := by
  rw [← Toml.map_fst_membersToData] at hnames
  have hmembers : ∀ e ∈ Toml.membersToData members, LeadsTo e.1 part → e.1 = part := by
    intro e he hleads
    have hname : e.1 ∈ members.map Prod.fst :=
      Toml.map_fst_membersToData members ▸ List.mem_map_of_mem he
    obtain ⟨m, hm, hfst⟩ := List.mem_map.mp hname
    exact hfst ▸ hplain m hm part hpart (hfst ▸ hleads)
  rw [fileTable, combine_one, under?_overlaid (pathOf_section part hpart) hmembers hnames,
    Toml.lookup_membersToData]
  cases members.lookup part <;> rfl

theorem sectioned_fileTable_iff (hplain : Plain members) (hnames : (members.map Prod.fst).Nodup) :
    Sectioned (fileTable members) ↔
      ∀ part ∈ sections, ∀ w, (part, w) ∈ members → ∃ t, w = .table t := by
  refine forall₂_congr fun part hpart => ?_
  simp only [under?_fileTable hplain hnames hpart, ← lookup_eq_some_iff_mem hnames,
    ← exists_merge_toData_iff]
  cases members.lookup part with
  | none => exact ⟨fun _ => nofun, fun _ => nofun⟩
  | some w => simp

/-- What the table of a plain document has for a leaf is what the document gives. -/
theorem valueIn?_fileTable_iff (hplain : Plain members) (hnames : (members.map Prod.fst).Nodup)
    (hkeyed : ∀ m ∈ members, m.2.Keyed) (l : Leaf) (v : Json) :
    l.valueIn? (fileTable members) = some v ↔
      ∃ w, l.IsGiven members w ∧ merge w.toData none = v := by
  rw [Leaf.valueIn?, under?_fileTable hplain hnames l.part_mem_sections]
  simp only [Leaf.IsGiven, ← lookup_eq_some_iff_mem hnames]
  cases hpart : members.lookup l.part with
  | none => simp [membersOf]
  | some w =>
    by_cases hw : ∃ t, w = .table t
    · obtain ⟨t, rfl⟩ := hw
      have ht : (t.map Prod.fst).Nodup :=
        hkeyed _ ((lookup_eq_some_iff_mem hnames).mp hpart) t rfl
      have hdata : ((Toml.membersToData t).map Prod.fst).Nodup := by
        rwa [Toml.map_fst_membersToData]
      have hvalue : (mergeMembers (Toml.membersToData t) []).lookup l.key =
          (t.lookup l.key).map fun w => merge w.toData none := by
        rw [lookup_mergeMembers _ _ hdata, Toml.lookup_membersToData]
        cases t.lookup l.key <;> rfl
      change (mergeMembers (Toml.membersToData t) []).lookup l.key = some v ↔ _
      rw [hvalue, Option.map_eq_some_iff]
      simp [lookup_eq_some_iff_mem ht]
    · have hnone : membersOf (some (merge w.toData none)) = [] :=
        membersOf_of_ne_obj fun ms hms => hw ((exists_merge_toData_iff w).mp ⟨ms, hms⟩)
      rw [Option.map_some, hnone]
      constructor
      · intro hv
        cases hv
      · rintro ⟨_, ⟨t, ht, -⟩, -⟩
        exact absurd ⟨t, Option.some.inj ht⟩ hw

theorem fits_fileTable_iff (hplain : Plain members) (hnames : (members.map Prod.fst).Nodup)
    (hkeyed : ∀ m ∈ members, m.2.Keyed) :
    Fits (fileTable members) ↔
      (∀ part ∈ sections, ∀ w, (part, w) ∈ members → ∃ t, w = .table t) ∧
        ∀ (l : Leaf) w, l.IsGiven members w →
          ∃ a, l.schema.coerce (merge w.toData none) = .ok a := by
  have hvalue := valueIn?_fileTable_iff hplain hnames hkeyed
  constructor
  · intro h
    exact ⟨(sectioned_fileTable_iff hplain hnames).mp h.sectioned,
      fun l w hw => h.coerces l _ ((hvalue l _).mpr ⟨w, hw, rfl⟩)⟩
  · rintro ⟨hsections, hcoerces⟩
    refine ⟨(sectioned_fileTable_iff hplain hnames).mpr hsections, fun l v hv => ?_⟩
    obtain ⟨w, hw, rfl⟩ := (hvalue l v).mp hv
    exact hcoerces l w hw

/-! ## Loading -/

/-- An empty environment adds nothing. -/
theorem ofToml_eq_load (text : String) : ofToml text = load (some text) [] := rfl

theorem load_of_settles {text : String} (htext : Toml.parse? text = some members)
    (hfile : Sectioned (fileTable members)) (henv : ∀ e ∈ env, Suits e)
    {value : (l : Leaf) → l.Value}
    (hvalue : ∀ l : Leaf, l.Settles (l.found (fileTable members) env) (value l)) :
    load (some text) env = .ok (ofLeaves value) := by
  have htable : ∃ ms, combine [Toml.membersToData members, environmentLayer env] = .obj ms ∧
      .obj ms = env.foldl takeIn (fileTable members) := by
    rw [combine_two, ← overlaid_environmentLayer, fileTable, combine_one]
    obtain ⟨ms, hms⟩ := overlaid_eq_obj [] (Toml.membersToData members)
    rw [hms]
    obtain ⟨ms', hms'⟩ := overlaid_eq_obj ms (environmentLayer env)
    exact ⟨ms', hms', hms'.symm⟩
  obtain ⟨ms, hcombine, hms⟩ := htable
  obtain ⟨hsections, hfound⟩ := foldl_takeIn henv hfile
  rw [← hms] at hsections hfound
  have hcoerce : schema.coerce (.obj ms) = .ok (ofLeaves value) :=
    coerce_of_settles hsections fun l => (hfound l).symm ▸ hvalue l
  change (fileLayer text >>= fun file => ofLayers [file, environmentLayer env]) = _
  rw [fileLayer, htext]
  change (schema.coerce (combine [Toml.membersToData members, environmentLayer env])).mapError _ = _
  rw [hcombine, hcoerce]
  rfl

theorem exists_settles_found {table : Json} (hfile : Fits table) (henv : ∀ e ∈ env, Suits e) :
    ∃ value : (l : Leaf) → l.Value, ∀ l : Leaf, l.Settles (l.found table env) (value l) := by
  refine Classical.axiomOfChoice fun l => Schema.exists_settles fun v hv => ?_
  rcases Option.or_eq_some_iff.mp hv with htext | ⟨-, hvalue⟩
  · obtain ⟨text, hlast, rfl⟩ := Option.map_eq_some_iff.mp htext
    obtain ⟨name, hmem, hnamed⟩ := Leaf.exists_mem_of_textIn? hlast
    exact (henv (name, text) hmem).coerces hnamed
  · exact hfile.coerces l v hvalue

/-- The same was found for a leaf, or in both cases nothing or its standard value. -/
def Leaf.Alike (l : Leaf) (o o' : Option Json) : Prop :=
  o = o' ∨ l.Settles o l.standard ∧ l.Settles o' l.standard

theorem Leaf.Alike.settles {o o' : Option Json} {a : l.Value} (h : l.Alike o o')
    (ha : l.Settles o a) : l.Settles o' a := by
  rcases h with rfl | ⟨ho, ho'⟩
  · exact ha
  · obtain rfl := Schema.Settles.unique ha ho
    exact ho'

/-- Settings are layered leaf by leaf: each leaf has the value of the last variable that stands for
it, else the value of the file, else its standard value. So settings are the same wherever the same
is found for each leaf, or nothing in place of its standard value, whatever else the file and the
environment hold. What a file without paths into a section has for a leaf is what the document
gives, in whichever order. -/
theorem load_layered {text : String} (htext : Toml.parse? text = some members)
    (hfile : Fits (fileTable members)) (henv : ∀ e ∈ env, Suits e) :
    (∃ s, load (some text) env = .ok s ∧
      ∀ l : Leaf, l.Settles (l.found (fileTable members) env) (l.get s)) ∧
    (∀ text' members' env', Toml.parse? text' = some members' → Fits (fileTable members') →
      (∀ e ∈ env', Suits e) →
      (∀ l : Leaf, l.Alike (l.found (fileTable members) env) (l.found (fileTable members') env')) →
      load (some text') env' = load (some text) env) ∧
    ofToml text = load (some text) [] ∧
    (∀ text' members', Toml.parse? text' = some members' → Plain members' →
      (Fits (fileTable members') ↔
        (∀ part ∈ sections, ∀ w, (part, w) ∈ members' → ∃ t, w = .table t) ∧
          ∀ (l : Leaf) w, l.IsGiven members' w →
            ∃ a, l.schema.coerce (merge w.toData none) = .ok a) ∧
      ∀ (l : Leaf) v, l.valueIn? (fileTable members') = some v ↔
        ∃ w, l.IsGiven members' w ∧ merge w.toData none = v) ∧
    ∀ (l : Leaf) value, l.IsNamedBy l.variableName ∧
      (Suits (l.variableName, value) ↔ ∃ a, l.schema.coerce (.str value) = .ok a) := by
  obtain ⟨value, hvalue⟩ := exists_settles_found hfile henv
  have hload := load_of_settles htext hfile.sectioned henv hvalue
  refine ⟨⟨ofLeaves value, hload, fun l => ?_⟩, ?_, ofToml_eq_load text, ?_, fun l text => ?_⟩
  · rw [get_ofLeaves]
    exact hvalue l
  · intro text' members' env' htext' hfile' henv' halike
    rw [hload]
    exact load_of_settles htext' hfile'.sectioned henv' fun l => (halike l).settles (hvalue l)
  · intro text' members' htext' hplain
    obtain ⟨hnames, hkeyed⟩ := Toml.distinct_of_parse? htext'
    exact ⟨fits_fileTable_iff hplain hnames hkeyed, valueIn?_fileTable_iff hplain hnames hkeyed⟩
  · exact ⟨l.isNamedBy_variableName, suits_variableName_iff l text⟩

/-- Two leaves of a file, of which a variable overrides one, and a leaf that is not set. -/
theorem load_layered_debug :
    ∃ s, load (some "log.level='warn'\nview.height=7")
        [("HOME", "/"), ("PP__LOG__LEVEL", "debug")] = .ok s ∧
      s.log.level = "debug" ∧ s.view.height = (Json.Number.int 7).toFloat ∧
      s.overlay.color = "default_light" := by
  have hparse : (Toml.parse? "log.level='warn'\nview.height=7").map fileTable =
      some (.obj [("log", .obj [("level", .str "warn")]), ("view", .obj [("height", .int 7)])]) := by
    decide +kernel
  obtain ⟨members, htext, htable⟩ := Option.map_eq_some_iff.mp hparse
  have hfile : Fits (.obj [("log", .obj [("level", .str "warn")]),
      ("view", .obj [("height", .int 7)])]) := by
    constructor
    · intro part hpart v hv
      have hparts : part = "overlay" ∨ part = "view" ∨ part = "log" := by
        simpa [sections] using hpart
      rcases hparts with rfl | rfl | rfl
      · cases hv
      · exact ⟨_, (Option.some.inj hv).symm⟩
      · exact ⟨_, (Option.some.inj hv).symm⟩
    · intro l v hv
      cases l with
      | level =>
        obtain rfl : Json.str "warn" = v := Option.some.inj hv
        exact ⟨"warn", rfl⟩
      | height =>
        obtain rfl : Json.int 7 = v := Option.some.inj hv
        exact ⟨_, rfl⟩
      | _ => cases hv
  have henv : ∀ e ∈ [("HOME", "/"), ("PP__LOG__LEVEL", "debug")], Suits e := by
    have hhome : keyOf? "HOME" = none := by decide +kernel
    have hname : Leaf.level.variableName = "PP__LOG__LEVEL" := by decide +kernel
    refine List.forall_mem_cons.mpr ⟨fun key hkey => ?_, List.forall_mem_singleton.mpr ?_⟩
    · cases hhome.symm.trans hkey
    · exact hname ▸ (suits_variableName_iff .level "debug").mpr ⟨"debug", rfl⟩
  obtain ⟨⟨s, hload, hleaves⟩, -⟩ := load_layered htext (htable ▸ hfile) henv
  have htexts : Leaf.level.textIn? [("HOME", "/"), ("PP__LOG__LEVEL", "debug")] = some "debug" ∧
      Leaf.height.textIn? [("HOME", "/"), ("PP__LOG__LEVEL", "debug")] = none ∧
      Leaf.color.textIn? [("HOME", "/"), ("PP__LOG__LEVEL", "debug")] = none := by
    decide +kernel
  obtain ⟨hlevel, hheight, hcolor⟩ := htexts
  have hdebug := hleaves .level
  have hseven := hleaves .height
  have hlight := hleaves .color
  rw [htable] at hdebug hseven hlight
  rw [Leaf.found, hlevel] at hdebug
  rw [Leaf.found, hheight] at hseven
  rw [Leaf.found, hcolor] at hlight
  exact ⟨s, hload, (Except.ok.inj hdebug).symm, (Except.ok.inj hseven).symm, hlight⟩

end PositionOverlay.Settings
