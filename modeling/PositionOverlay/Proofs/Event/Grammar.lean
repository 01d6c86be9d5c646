import Mathlib.Data.List.Nodup
import Mathlib.Logic.Relation
import PositionOverlay.Proofs.Event.Reading

/-! # The grammar of events

Which objects are events, and which event an object is, depends on nothing but which values stand
under which names. So it does not matter in which order the members stand, what stands under names
that the kind of the event does not know, and whether an optional member is `null` or absent.
-/
namespace PositionOverlay.Event

open Json Schema Fields

variable {members ms : List (String × Json)} {name : String} {e : Event} {α : Type}

/-! ## The objects that are events -/

/-- A number stands under the name. -/
def Numeric (members : List (String × Json)) (name : String) (x : Float) : Prop :=
  ∃ n, (name, .num n) ∈ members ∧ n.toFloat = x

/-- Something is given under the name, or else there is nothing but possibly a `null`. -/
def Optionally (members : List (String × Json)) (name : String) (means : Json → α → Prop) :
    Option α → Prop
  | none => ∀ v, (name, v) ∈ members → v = .null
  | some a => ∃ v, (name, v) ∈ members ∧ means v a

def IsText (v : Json) (s : String) : Prop := v = .str s

def IsUuid (v : Json) (u : Uuid) : Prop := ∃ s, v = .str s ∧ Uuid.parse s = .ok u

def IsTime (v : Json) (t : Timestamp) : Prop := ∃ s, v = .str s ∧ Timestamp.parse s = .ok t

structure IsReport (members : List (String × Json)) (u : PositionUpdate) : Prop where
  size : Numeric members "size" u.size
  avgPrice : Numeric members "avg_price" u.avgPrice
  broker : Optionally members "broker" IsText u.broker
  account : Optionally members "account" IsText u.account
  symbol : Optionally members "symbol" IsText u.symbol
  currency : Optionally members "currency" IsText u.currency

structure IsFill (members : List (String × Json)) (f : FillEvent) : Prop where
  size : Numeric members "size" f.size
  price : Numeric members "price" f.price
  order : Optionally members "oid" IsUuid f.order
  time : Optionally members "time" IsTime f.time

inductive Accepts (members : List (String × Json)) : Event → Prop where
  | position {u : PositionUpdate} (htag : ("type", .str "position") ∈ members)
    (h : IsReport members u) : Accepts members (.position u)
  | fill {f : FillEvent} (htag : ("type", .str "fill") ∈ members) (h : IsFill members f) :
    Accepts members (.fill f)
  | view {yMin yMax : Float} (htag : ("type", .str "view") ∈ members)
    (hmin : Numeric members "y_min" yMin) (hmax : Numeric members "y_max" yMax) :
    Accepts members (.view yMin yMax)
  | paint (htag : ("type", .str "paint") ∈ members) : Accepts members .paint

/-! ## What is decoded -/

theorem mem_content {v : Json} (hname : name ≠ tag) :
    (name, v) ∈ content members ↔ (name, v) ∈ members := by
  simp [content, hname]

theorem nodup_content (h : (members.map Prod.fst).Nodup) :
    ((content members).map Prod.fst).Nodup :=
  h.sublist (List.filter_sublist.map _)

/-- A field that has to be a number. -/
theorem numeric_iff (hname : name ≠ tag) {x : Float} :
    (∃ v, (name, v) ∈ content members ∧ Schema.number.decode v = .ok x) ∨
      (∀ v, (name, v) ∉ content members) ∧ none = some x ↔ Numeric members name x := by
  simp only [mem_content hname, decode_number_iff, Numeric, reduceCtorEq, and_false, or_false]
  constructor
  · rintro ⟨_, hv, n, rfl, hn⟩
    exact ⟨n, hv, hn⟩
  · rintro ⟨n, hv, hn⟩
    exact ⟨_, hv, n, rfl, hn⟩

/-- A field that may be absent or null. -/
theorem optionally_iff (hmembers : (members.map Prod.fst).Nodup) (hname : name ≠ tag)
    {schema : Schema α} {means : Json → α → Prop}
    (hmeans : ∀ v a, schema.decode v = .ok a ↔ means v a) (hnull : ∀ a, ¬ means .null a)
    {o : Option α} :
    (∃ v, (name, v) ∈ content members ∧ schema.optional.decode v = .ok o) ∨
      (∀ v, (name, v) ∉ content members) ∧ some none = some o ↔
    Optionally members name means o := by
  simp only [mem_content hname, decode_optional_iff, hmeans]
  cases o with
  | none =>
    simp only [Optionally, and_true, reduceCtorEq, and_false, exists_false, or_false]
    constructor
    · rintro (⟨_, hv, rfl⟩ | hnone) w hw
      · exact congrArg Prod.snd (List.inj_on_of_nodup_map hmembers hw hv rfl)
      · exact absurd hw (hnone w)
    · intro h
      by_cases hv : ∃ v, (name, v) ∈ members
      · obtain ⟨v, hv⟩ := hv
        exact .inl ⟨v, hv, h v hv⟩
      · exact .inr (not_exists.mp hv)
  | some a =>
    simp only [Optionally, reduceCtorEq, and_false, false_or, or_false, Option.some.injEq,
      exists_eq_right']
    constructor
    · rintro ⟨v, hv, -, ha⟩
      exact ⟨v, hv, ha⟩
    · rintro ⟨v, hv, ha⟩
      exact ⟨v, hv, fun h => hnull a (h ▸ ha), ha⟩

theorem optionalText_iff (hmembers : (members.map Prod.fst).Nodup) (hname : name ≠ tag)
    {o : Option String} :
    (∃ v, (name, v) ∈ content members ∧ Schema.text.optional.decode v = .ok o) ∨
      (∀ v, (name, v) ∉ content members) ∧ some none = some o ↔
    Optionally members name IsText o :=
  optionally_iff hmembers hname (fun _ _ => decode_text_iff) nofun

/-- The reports that are decoded. -/
theorem decode_report_iff (hmembers : (members.map Prod.fst).Nodup) {u : PositionUpdate} :
    PositionUpdate.schema.decode (.obj (content members)) = .ok u ↔ IsReport members u := by
  have hnames : ["broker", "account", "symbol", "size", "avg_price", "currency"].Nodup := by decide
  have htext {name : String} (hname : name ≠ tag) {o : Option String} :=
    optionalText_iff hmembers hname (o := o)
  refine (decode_record_iff (by exact hnames) (nodup_content hmembers)).trans ?_
  constructor
  · rintro ⟨⟨broker, account, symbol, size, avgPrice, currency, _⟩, h, rfl⟩
    obtain ⟨hbroker, haccount, hsymbol, hsize, hprice, hcurrency, -⟩ := h
    exact ⟨(numeric_iff (by decide)).mp hsize, (numeric_iff (by decide)).mp hprice,
      (htext (by decide)).mp hbroker, (htext (by decide)).mp haccount,
      (htext (by decide)).mp hsymbol, (htext (by decide)).mp hcurrency⟩
  · intro h
    exact ⟨⟨u.broker, u.account, u.symbol, u.size, u.avgPrice, u.currency, ()⟩,
      ⟨(htext (by decide)).mpr h.broker, (htext (by decide)).mpr h.account,
        (htext (by decide)).mpr h.symbol, (numeric_iff (by decide)).mpr h.size,
        (numeric_iff (by decide)).mpr h.avgPrice, (htext (by decide)).mpr h.currency, trivial⟩, rfl⟩

theorem decode_fill_iff (hmembers : (members.map Prod.fst).Nodup) {f : FillEvent} :
    fillSchema.decode (.obj (content members)) = .ok f ↔ IsFill members f := by
  have hnames : ["size", "price", "oid", "time"].Nodup := by decide
  have hids : "oid" ≠ tag ∧ "time" ≠ tag := by decide
  have huuid (v : Json) (u : Uuid) : Schema.uuid.decode v = .ok u ↔ IsUuid v u := decode_uuid_iff
  have hmoment (v : Json) (t : Timestamp) : Schema.timestamp.decode v = .ok t ↔ IsTime v t :=
    decode_timestamp_iff
  have horder {o : Option Uuid} := optionally_iff hmembers hids.1 huuid nofun (o := o)
  have htime {o : Option Timestamp} := optionally_iff hmembers hids.2 hmoment nofun (o := o)
  refine (decode_record_iff (by exact hnames) (nodup_content hmembers)).trans ?_
  constructor
  · rintro ⟨⟨size, price, order, time, _⟩, ⟨hsize, hprice, ho, ht, -⟩, rfl⟩
    exact ⟨(numeric_iff (by decide)).mp hsize, (numeric_iff (by decide)).mp hprice,
      horder.mp ho, htime.mp ht⟩
  · intro h
    exact ⟨⟨f.size, f.price, f.order, f.time, ()⟩,
      ⟨(numeric_iff (by decide)).mpr h.size, (numeric_iff (by decide)).mpr h.price,
        horder.mpr h.order, htime.mpr h.time, trivial⟩, rfl⟩

theorem decode_view_iff (hmembers : (members.map Prod.fst).Nodup) :
    viewSchema.decode (.obj (content members)) = .ok e ↔ ∃ yMin yMax,
      Numeric members "y_min" yMin ∧ Numeric members "y_max" yMax ∧ e = .view yMin yMax := by
  have hnames : ["y_min", "y_max"].Nodup := by decide
  refine (decode_record_iff (by exact hnames) (nodup_content hmembers)).trans ?_
  constructor
  · rintro ⟨⟨yMin, yMax, _⟩, ⟨hmin, hmax, -⟩, rfl⟩
    exact ⟨yMin, yMax, (numeric_iff (by decide)).mp hmin, (numeric_iff (by decide)).mp hmax, rfl⟩
  · rintro ⟨yMin, yMax, hmin, hmax, rfl⟩
    exact ⟨⟨yMin, yMax, ()⟩, ⟨(numeric_iff (by decide)).mpr hmin,
      (numeric_iff (by decide)).mpr hmax, trivial⟩, rfl⟩

/-- An object in which no name repeats is decoded as the events that it is. -/
theorem exists_decode_iff (hmembers : (members.map Prod.fst).Nodup) :
    (∃ kind : Kind, (tag, .str kind.name) ∈ members ∧
      decode kind (.obj (content members)) = .ok e) ↔ Accepts members e := by
  constructor
  · rintro ⟨kind, htag, h⟩
    cases kind with
    | position =>
      obtain ⟨u, hu, ⟨⟩⟩ := Work.except_bind_eq_ok.mp ((map_eq_pure_bind ..).symm.trans h)
      exact .position htag ((decode_report_iff hmembers).mp hu)
    | fill =>
      obtain ⟨f, hf, ⟨⟩⟩ := Work.except_bind_eq_ok.mp ((map_eq_pure_bind ..).symm.trans h)
      exact .fill htag ((decode_fill_iff hmembers).mp hf)
    | view =>
      obtain ⟨yMin, yMax, hmin, hmax, rfl⟩ := (decode_view_iff hmembers).mp h
      exact .view htag hmin hmax
    | paint =>
      obtain rfl := Except.ok.inj h
      exact .paint htag
  · rintro (⟨htag, h⟩ | ⟨htag, h⟩ | ⟨htag, hmin, hmax⟩ | ⟨htag⟩)
    · refine ⟨.position, htag, ?_⟩
      rw [decode, (decode_report_iff hmembers).mpr h]
      rfl
    · refine ⟨.fill, htag, ?_⟩
      rw [decode, (decode_fill_iff hmembers).mpr h]
      rfl
    · exact ⟨.view, htag, (decode_view_iff hmembers).mpr ⟨_, _, hmin, hmax, rfl⟩⟩
    · exact ⟨.paint, htag, rfl⟩

/-! ## Objects that are the same event -/

/-- What the kind of an event is called. -/
def kind : Event → Kind
  | .position _ => .position
  | .fill _ => .fill
  | .view _ _ => .view
  | .paint => .paint

/-- The names that have to be there. -/
def Kind.required : Kind → List String
  | position => ["size", "avg_price"]
  | fill => ["size", "price"]
  | view => ["y_min", "y_max"]
  | paint => []

/-- The names that may be there. -/
def Kind.optional : Kind → List String
  | position => ["broker", "account", "symbol", "currency"]
  | fill => ["oid", "time"]
  | view => []
  | paint => []

/-- The second object differs from the first in something that does not count: the order of the
members, a member that no named kind knows, or a `null` for an optional member that was absent. -/
inductive Restated (members : List (String × Json)) : List (String × Json) → Prop where
  | perm {ms : List (String × Json)} (h : members.Perm ms) : Restated members ms
  | other {name : String} (v : Json) (hfresh : name ∉ members.map Prod.fst) (htype : name ≠ "type")
    (hother : ∀ kind : Kind, ("type", .str kind.name) ∈ members →
      name ∉ kind.required ∧ name ∉ kind.optional) :
    Restated members ((name, v) :: members)
  | null {name : String} (hfresh : name ∉ members.map Prod.fst) (htype : name ≠ "type")
    (hoptional : ∀ kind : Kind, ("type", .str kind.name) ∈ members → name ∈ kind.optional) :
    Restated members ((name, .null) :: members)

/-- For an event of the kind the objects say the same. -/
structure Agree (kind : Kind) (members ms : List (String × Json)) : Prop where
  type : ∀ v, ("type", v) ∈ ms ↔ ("type", v) ∈ members
  required : ∀ name ∈ kind.required, ∀ v, (name, v) ∈ ms ↔ (name, v) ∈ members
  optional : ∀ name ∈ kind.optional, ∀ v, v ≠ .null → ((name, v) ∈ ms ↔ (name, v) ∈ members)

namespace Agree

variable {k : Kind}

theorem symm (h : Agree k members ms) : Agree k ms members where
  type v := (h.type v).symm
  required name hname v := (h.required name hname v).symm
  optional name hname v hv := (h.optional name hname v hv).symm

theorem of_mem_iff (h : ∀ m, m ∈ ms ↔ m ∈ members) : Agree k members ms :=
  ⟨fun _ => h _, fun _ _ _ => h _, fun _ _ _ _ => h _⟩

theorem numeric (h : Agree k members ms) (hname : name ∈ k.required) {x : Float}
    (hx : Numeric members name x) : Numeric ms name x := by
  obtain ⟨n, hn, hx⟩ := hx
  exact ⟨n, (h.required name hname _).mpr hn, hx⟩

theorem optionally (h : Agree k members ms) (hname : name ∈ k.optional)
    {means : Json → α → Prop} (hnull : ∀ a, ¬ means .null a) {o : Option α}
    (ho : Optionally members name means o) : Optionally ms name means o := by
  cases o with
  | none =>
    intro v hv
    by_contra hne
    exact hne (ho v ((h.optional name hname v hne).mp hv))
  | some a =>
    obtain ⟨v, hv, ha⟩ := ho
    exact ⟨v, (h.optional name hname v fun he => hnull a (he ▸ ha)).mpr hv, ha⟩

/-- An event is the same event of every object that says the same. -/
theorem accepts (h : Agree e.kind members ms) (he : Accepts members e) : Accepts ms e := by
  cases he with
  | position htag hu =>
    have h : Agree .position members ms := h
    exact .position ((h.type _).mpr htag)
      ⟨h.numeric (by decide) hu.size, h.numeric (by decide) hu.avgPrice,
        h.optionally (by decide) nofun hu.broker, h.optionally (by decide) nofun hu.account,
        h.optionally (by decide) nofun hu.symbol, h.optionally (by decide) nofun hu.currency⟩
  | fill htag hf =>
    have h : Agree .fill members ms := h
    exact .fill ((h.type _).mpr htag)
      ⟨h.numeric (by decide) hf.size, h.numeric (by decide) hf.price,
        h.optionally (by decide) nofun hf.order, h.optionally (by decide) nofun hf.time⟩
  | view htag hmin hmax =>
    have h : Agree .view members ms := h
    exact .view ((h.type _).mpr htag) (h.numeric (by decide) hmin) (h.numeric (by decide) hmax)
  | paint htag => exact .paint ((h.type _).mpr htag)

end Agree

theorem Accepts.tag_mem (h : Accepts members e) : ("type", .str e.kind.name) ∈ members := by
  cases h <;> assumption

/-- What is added under a name changes nothing under other names. -/
theorem agree_cons {k : Kind} {v : Json} (hfresh : name ∉ members.map Prod.fst)
    (htype : name ≠ "type") (hrequired : name ∉ k.required)
    (hoptional : name ∈ k.optional → v = .null) : Agree k members ((name, v) :: members) where
  type w := by simp [Ne.symm htype]
  required other hother w := by
    have hne : other ≠ name := fun h => hrequired (h ▸ hother)
    simp [hne]
  optional other hother w hw := by
    by_cases hne : other = name
    · subst hne
      have hnull := hoptional hother
      simp [hnull, hw]
    · simp [hne]

theorem Kind.disjoint (k : Kind) : ∀ name ∈ k.optional, name ∉ k.required := by
  cases k <;> decide

theorem Restated.agree (h : Restated members ms)
    (htag : ("type", .str e.kind.name) ∈ members) : Agree e.kind members ms := by
  cases h with
  | perm h => exact .of_mem_iff fun _ => h.symm.mem_iff
  | other v hfresh htype hother =>
    obtain ⟨hrequired, hoptional⟩ := hother e.kind htag
    exact agree_cons hfresh htype hrequired fun h => absurd h hoptional
  | null hfresh htype hoptional =>
    exact agree_cons hfresh htype (e.kind.disjoint _ (hoptional e.kind htag)) fun _ => rfl

theorem Restated.type_iff (h : Restated members ms) (v : Json) :
    ("type", v) ∈ ms ↔ ("type", v) ∈ members := by
  cases h with
  | perm h => exact h.symm.mem_iff
  | other w _ htype _ => simp [Ne.symm htype]
  | null _ htype _ => simp [Ne.symm htype]

theorem Restated.accepts_iff (h : Restated members ms) : Accepts ms e ↔ Accepts members e :=
  ⟨fun he => (h.agree ((h.type_iff _).mp he.tag_mem)).symm.accepts he,
    fun he => (h.agree he.tag_mem).accepts he⟩

theorem Restated.nodup_iff (h : Restated members ms) :
    (ms.map Prod.fst).Nodup ↔ (members.map Prod.fst).Nodup := by
  cases h with
  | perm h => exact (h.symm.map Prod.fst).nodup_iff
  | other v hfresh _ _ => simp [List.nodup_cons, hfresh]
  | null hfresh _ _ => simp [List.nodup_cons, hfresh]

/-- Objects that differ in several such things are the same events. -/
theorem accepts_iff_of_eqvGen (h : Relation.EqvGen Restated members ms) :
    ((ms.map Prod.fst).Nodup ↔ (members.map Prod.fst).Nodup) ∧
      (Accepts ms e ↔ Accepts members e) := by
  induction h with
  | rel _ _ h => exact ⟨h.nodup_iff, h.accepts_iff⟩
  | refl _ => exact ⟨Iff.rfl, Iff.rfl⟩
  | symm _ _ _ ih => exact ⟨ih.1.symm, ih.2.symm⟩
  | trans _ _ _ _ _ ih ih' => exact ⟨ih'.1.trans ih.1, ih'.2.trans ih.2⟩

/-- A line is an event exactly if it is the text of an object that is one: its `type` names a kind,
the numbers of this kind are there, and what is optional is absent, `null` or well formed. The event
stays the same if members change places, if other members come or go, and if what is absent is
written as `null`. -/
theorem parse_eq_ok_iff {text : String} (hparse : Json.parse text = .ok (.obj members))
    (hnodup : (members.map Prod.fst).Nodup) :
    (∀ e, Event.parse text = .ok e ↔ Accepts members e) ∧
      ∀ text' ms, Json.parse text' = .ok (.obj ms) → Relation.EqvGen Restated members ms →
        ∀ e, Event.parse text' = .ok e ↔ Event.parse text = .ok e := by
  have haccepts {text : String} {ms : List (String × Json)}
      (hparse : Json.parse text = .ok (.obj ms)) (hnodup : (ms.map Prod.fst).Nodup) (e : Event) :
      Event.parse text = .ok e ↔ Accepts ms e :=
    (parse_eq_ok_iff_decode hparse hnodup).trans (exists_decode_iff hnodup)
  refine ⟨haccepts hparse hnodup, fun text' ms hparse' hrestated e => ?_⟩
  obtain ⟨hnodup', hsame⟩ := accepts_iff_of_eqvGen (e := e) hrestated
  rw [haccepts hparse' (hnodup'.mpr hnodup), haccepts hparse hnodup, hsame]

/-- The tag comes last; then an unknown member is added, the absent order is written as `null`, and
the others change places. -/
theorem parse_eq_ok_iff_tagLast :
    let text := "\x7b\"size\":1,\"price\":2,\"type\":\"fill\"\x7d"
    let text' := "\x7b\"oid\":null,\"x\":[],\"price\":2,\"size\":1,\"type\":\"fill\"\x7d"
    let e := fill ⟨.ofInt 1, .ofInt 2, none, none⟩
    Event.parse text = .ok e ∧ Event.parse text' = .ok e := by
  intro text text' e
  let members : List (String × Json) := [("size", .int 1), ("price", .int 2), ("type", .str "fill")]
  let ms : List (String × Json) :=
    [("oid", .null), ("x", .arr []), ("price", .int 2), ("size", .int 1), ("type", .str "fill")]
  have hparse : Json.parse text = .ok (.obj members) :=
    Work.except_toOption_eq_some.mp (by decide +kernel)
  have hparse' : Json.parse text' = .ok (.obj ms) :=
    Work.except_toOption_eq_some.mp (by decide +kernel)
  have hnodup : (members.map Prod.fst).Nodup := by decide
  have haccepts : Accepts members e := by
    refine .fill (by simp [members]) ⟨⟨.int 1, ?_, rfl⟩, ⟨.int 2, ?_, rfl⟩, ?_, ?_⟩
    · simp [members, Json.int]
    · simp [members, Json.int]
    · simp [members, Optionally]
    · simp [members, Optionally]
  have hkind {k : Kind} (h : Json.str "fill" = .str k.name) : k = .fill := by
    cases k <;> simp [Kind.name] at h ⊢
  have hother : Restated members (("x", .arr []) :: members) :=
    .other _ (by decide) (by decide) fun k hk => by
      obtain rfl := hkind (k := k) (by simpa [members, eq_comm, Json.int] using hk)
      decide
  have hnull : Restated (("x", .arr []) :: members) (("oid", .null) :: ("x", .arr []) :: members) :=
    .null (by decide) (by decide) fun k hk => by
      obtain rfl := hkind (k := k) (by simpa [members, eq_comm, Json.int] using hk)
      decide
  have hperm : (("oid", .null) :: ("x", .arr []) :: members).Perm ms :=
    .cons _ (.cons _ (.swap ..))
  have hrestated : Relation.EqvGen Restated members ms :=
    .trans _ _ _ (.rel _ _ hother) (.trans _ _ _ (.rel _ _ hnull) (.rel _ _ (.perm hperm)))
  obtain ⟨hevent, hsame⟩ := parse_eq_ok_iff hparse hnodup
  have hok := (hevent e).mpr haccepts
  exact ⟨hok, (hsame text' ms hparse' hrestated e).mpr hok⟩

end PositionOverlay.Event
