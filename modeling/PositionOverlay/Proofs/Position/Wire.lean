import Mathlib.Data.List.Forall2
import PositionOverlay.Position
import PositionOverlay.Proofs.Schema.Documents
import PositionOverlay.Proofs.Uuid

/-! # Reports and positions on the wire

A report or a position that was written is read as it was, and so is every document that says the
same: its members stand in another order, among members of unknown names, absent texts are `null`,
or a history without fills is left out. Numbers and times are taken to be written so that they are
read back; of texts and identifiers it is proved.
-/
namespace PositionOverlay

open Json Schema Fields

/-! ## Documents that say the same -/

/-- An object with some members, in any order and among members of unknown names. -/
def Json.Restates (known : List String) (members : List (String × Json)) (doc : Json) : Prop :=
  ∃ ms extra, doc = .obj ms ∧ ms.Perm (members ++ extra) ∧ ∀ m ∈ extra, m.1 ∉ known

/-- How a text that may be absent is written. -/
inductive Json.TextMember (name : String) : Option String → List (String × Json) → Prop where
  | written (o : Option String) : TextMember name o (memberOf name o)
  | null : TextMember name none [(name, .null)]

/-- A document that says what an execution says. -/
def Fill.Restated (f : Fill) : Json → Prop :=
  Restates schema.fieldNames
    [("oid", .str f.order.render), ("time", .str f.time.render), ("resp", .str f.response),
      ("size", .float f.size), ("price", .float f.price)]

/-- A document that says what a report says. -/
def PositionUpdate.Restated (u : PositionUpdate) (doc : Json) : Prop :=
  ∃ broker account symbol currency, TextMember "broker" u.broker broker ∧
    TextMember "account" u.account account ∧ TextMember "symbol" u.symbol symbol ∧
    TextMember "currency" u.currency currency ∧
    Restates schema.fieldNames (broker ++ account ++ symbol ++
      [("size", .float u.size), ("avg_price", .float u.avgPrice)] ++ currency) doc

/-- How a history is written. -/
inductive Position.FillsMember (fills : List Fill) : List (String × Json) → Prop where
  | written {docs : List Json} (h : List.Forall₂ Fill.Restated fills docs) :
    FillsMember fills [("fills", .arr docs)]
  | omitted (h : fills = []) : FillsMember fills []

/-- A document that says what a position says. -/
def Position.Restated (p : Position) (doc : Json) : Prop :=
  ∃ fills, FillsMember p.fills.toList fills ∧
    Restates schema.fieldNames ([("symbol", .str p.symbol), ("size", .float p.size),
      ("avg_price", .float p.avgPrice)] ++ fills) doc

section Restated

variable {known : List String} {members : List (String × Json)} {doc : Json}

theorem Json.Restates.refl (known : List String) (members : List (String × Json)) :
    Restates known members (.obj members) :=
  ⟨members, [], rfl, by rw [List.append_nil], nofun⟩

theorem Fill.restated_toJson (f : Fill) : f.Restated f.toJson := .refl _ _

theorem PositionUpdate.restated_toJson (u : PositionUpdate) : u.Restated u.toJson :=
  ⟨_, _, _, _, .written u.broker, .written u.account, .written u.symbol, .written u.currency,
    .refl _ _⟩

theorem Position.restated_toJson (p : Position) : p.Restated p.toJson := by
  refine ⟨_, .written ?_, .refl _ _⟩
  rw [List.forall₂_map_right_iff, List.forall₂_same]
  exact fun f _ => f.restated_toJson

/-- Of each known name a document has the members that it restates. -/
theorem Json.Restates.named_perm (h : Restates known members doc) :
    ∃ ms, doc = .obj ms ∧ ∀ n ∈ known, (named n ms).Perm (named n members) := by
  obtain ⟨ms, extra, hdoc, hperm, hextra⟩ := h
  refine ⟨ms, hdoc, fun n hn => ?_⟩
  have hnone : extra.filter (fun m => m.1 == n) = [] := by
    rw [List.filter_eq_nil_iff]
    intro m hm hname
    exact hextra m hm (eq_of_beq hname ▸ hn)
  have hfilter := hperm.filter fun m => m.1 == n
  rwa [List.filter_append, hnone, List.append_nil] at hfilter

/-- A document that restates the members of a record is read as the record. -/
theorem Json.Restates.reads {α β : Type} {room : Nat} {title : String} {fs : Fields α}
    {build : α → β} {a : α} (h : Restates fs.names members doc) (hnames : fs.names.Nodup)
    (hgives : fs.Gives room fs.empty members a) :
    (Schema.record title fs build).Reads (room + 1) doc (build a) := by
  obtain ⟨ms, rfl, hperm⟩ := h.named_perm
  exact reads_record hnames (hgives.of_named hperm)

end Restated

/-! ## What is read -/

/-- The numbers and the time of an execution are read back from what they are written as. -/
structure Fill.Legible (f : Fill) : Prop where
  time : Timestamp.parse f.time.render = .ok f.time
  size : Schema.Legible f.size
  price : Schema.Legible f.price

/-- The numbers of a report are read back from what they are written as. -/
structure PositionUpdate.Legible (u : PositionUpdate) : Prop where
  size : Schema.Legible u.size
  avgPrice : Schema.Legible u.avgPrice

/-- The numbers of a position, and of its executions, are read back from what they are written
as. -/
structure Position.Legible (p : Position) : Prop where
  size : Schema.Legible p.size
  avgPrice : Schema.Legible p.avgPrice
  fills : ∀ f ∈ p.fills, f.Legible

theorem Fill.Legible.reads {f : Fill} {doc : Json} (hf : f.Legible) (h : f.Restated doc)
    (room : Nat) : Fill.schema.Reads (room + 1) doc f := by
  refine Restates.reads (a := (f.order, f.time, f.response, f.size, f.price, ())) h (by decide) ?_
  exact ⟨.inr ⟨_, rfl, reads_uuid f.order.parse_render room⟩,
    .inr ⟨_, rfl, reads_timestamp hf.time room⟩, .inr ⟨_, rfl, reads_text room f.response⟩,
    .inr ⟨_, rfl, hf.size.reads room⟩, .inr ⟨_, rfl, hf.price.reads room⟩, trivial⟩

theorem Fill.reads_restated {fills : List Fill} {docs : List Json}
    (h : List.Forall₂ Restated fills docs) (hfills : ∀ f ∈ fills, f.Legible) (room : Nat) :
    List.Forall₂ (Fill.schema.Reads (room + 1)) docs fills := by
  induction h with
  | nil => exact .nil
  | cons hdoc _ ih =>
    rw [List.forall_mem_cons] at hfills
    exact .cons (hfills.1.reads hdoc room) (ih hfills.2)

/-! ## Absent texts and histories -/

section TextMember

variable {name : String} {o : Option String} {part members : List (String × Json)}

theorem Json.TextMember.named_eq (h : TextMember name o part) (n : String) :
    named n part = if n = name then part else [] := by
  have hone (doc : Json) : named n [(name, doc)] = if n = name then [(name, doc)] else [] := by
    simp only [named, List.filter_cons, List.filter_nil, beq_iff_eq, eq_comm (a := name)]
  cases h with
  | written o =>
    cases o with
    | none => exact (ite_self _).symm
    | some s => exact hone _
  | null => exact hone _

theorem Json.TextMember.gives {β : Type} {room : Nat} {fs : Fields β} {b : β}
    (h : TextMember name o part) (hpart : named name members = part)
    (hrest : fs.Gives room fs.empty members b) :
    (Fields.defaulted name (.optional .text) none fs).Gives room (Fields.empty _) members
      (o, b) := by
  refine ⟨?_, hrest⟩
  cases h with
  | written o =>
    cases o with
    | none => exact .inl ⟨hpart, rfl⟩
    | some s => exact .inr ⟨_, hpart, reads_some (reads_text room s)⟩
  | null => exact .inr ⟨_, hpart, reads_none _ room⟩

end TextMember

theorem PositionUpdate.Legible.reads {u : PositionUpdate} {doc : Json} (hu : u.Legible)
    (h : u.Restated doc) (room : Nat) : PositionUpdate.schema.Reads (room + 1) doc u := by
  obtain ⟨broker, account, symbol, currency, hbroker, haccount, hsymbol, hcurrency, h⟩ := h
  have hnamed (n : String) := And.intro (hbroker.named_eq n) <| And.intro (haccount.named_eq n) <|
    And.intro (hsymbol.named_eq n) (hcurrency.named_eq n)
  refine Restates.reads
    (a := (u.broker, u.account, u.symbol, u.size, u.avgPrice, u.currency, ())) h (by decide) ?_
  refine hbroker.gives ?_ <| haccount.gives ?_ <| hsymbol.gives ?_ <|
    ⟨.inr ⟨_, ?_, hu.size.reads room⟩, .inr ⟨_, ?_, hu.avgPrice.reads room⟩,
      hcurrency.gives ?_ trivial⟩
  -- The parts hold members of their own names only.
  all_goals
    simp only [named_append, hnamed]
    simp [named]

theorem Position.Legible.reads {p : Position} {doc : Json} (hp : p.Legible) (h : p.Restated doc)
    (room : Nat) : Position.schema.Reads (room + 3) doc p := by
  obtain ⟨fills, hmember, h⟩ := h
  refine Restates.reads (a := (p.symbol, p.size, p.avgPrice, p.fills.toList, ())) h (by decide) ?_
  refine ⟨.inr ⟨.str p.symbol, ?_, reads_text _ _⟩, .inr ⟨.float p.size, ?_, hp.size.reads _⟩,
    .inr ⟨.float p.avgPrice, ?_, hp.avgPrice.reads _⟩, ?_, trivial⟩
  · cases hmember <;> rfl
  · cases hmember <;> rfl
  · cases hmember <;> rfl
  · cases hmember with
    | omitted hnone => exact .inl ⟨rfl, congrArg some hnone.symm⟩
    | written hdocs =>
      refine .inr ⟨_, rfl, reads_list (Fill.reads_restated hdocs ?_ room)⟩
      exact fun f hf => hp.fills f (Array.mem_toList_iff.mp hf)

/-- A legible report is read back from its text, and from the text of every document that says the
same, and it is then written as it was. So is a legible position, with its executions in their
order. -/
theorem readText_of_restated :
    (∀ u : PositionUpdate, u.Legible →
      PositionUpdate.schema.readText u.toJson.render = .ok u ∧
      ∀ doc, u.Restated doc → PositionUpdate.schema.readText doc.render = .ok u ∧
        (PositionUpdate.schema.readText doc.render).map (fun v => v.toJson.render) =
          .ok u.toJson.render) ∧
    ∀ p : Position, p.Legible →
      Position.schema.readText p.toJson.render = .ok p ∧
      ∀ doc, p.Restated doc → Position.schema.readText doc.render = .ok p ∧
        (Position.schema.readText doc.render).map (fun q => q.toJson.render) =
          .ok p.toJson.render := by
  constructor
  · intro u hu
    have hreads {doc : Json} (h : u.Restated doc) :
        PositionUpdate.schema.readText doc.render = .ok u := (hu.reads h 126).readText
    refine ⟨hreads u.restated_toJson, fun doc h => ⟨hreads h, ?_⟩⟩
    rw [hreads h]
    rfl
  · intro p hp
    have hreads {doc : Json} (h : p.Restated doc) : Position.schema.readText doc.render = .ok p :=
      (hp.reads h 124).readText
    refine ⟨hreads p.restated_toJson, fun doc h => ⟨hreads h, ?_⟩⟩
    rw [hreads h]
    rfl

/-- A report without account and a position with one execution, their members backwards and among
members of unknown names. -/
theorem readText_of_restated_backwards :
    PositionUpdate.Legible ⟨some "\"IB\"", none, none, -1.5, 101.25, none⟩ ∧
    Position.Legible ⟨"ES", -1.5, 101.25, #[⟨.zero, .epoch, Fill.filled, -1.5, 101.25⟩]⟩ ∧
    PositionUpdate.schema.readText (render <| .obj [("note", .arr [.null]),
      ("avg_price", .float 101.25), ("size", .float (-1.5)), ("account", .null),
      ("broker", .str "\"IB\"")]) =
        .ok ⟨some "\"IB\"", none, none, -1.5, 101.25, none⟩ ∧
    Position.schema.readText (render <| .obj [("note", .str ""), ("fills", .arr [.obj
      [("note", .bool true), ("price", .float 101.25), ("size", .float (-1.5)),
        ("resp", .str Fill.filled), ("time", .str Timestamp.epoch.render),
        ("oid", .str Uuid.zero.render)]]), ("avg_price", .float 101.25), ("size", .float (-1.5)),
      ("symbol", .str "ES")]) =
        .ok ⟨"ES", -1.5, 101.25, #[⟨.zero, .epoch, Fill.filled, -1.5, 101.25⟩]⟩ := by
  have hsize : Legible (-1.5) := by decide +kernel
  have hprice : Legible 101.25 := by decide +kernel
  have hfill : Fill.Legible ⟨.zero, .epoch, Fill.filled, -1.5, 101.25⟩ :=
    ⟨by decide +kernel, hsize, hprice⟩
  have hupdate : PositionUpdate.Legible ⟨some "\"IB\"", none, none, -1.5, 101.25, none⟩ :=
    ⟨hsize, hprice⟩
  have hposition : Position.Legible
      ⟨"ES", -1.5, 101.25, #[⟨.zero, .epoch, Fill.filled, -1.5, 101.25⟩]⟩ :=
    ⟨hsize, hprice, by simpa using hfill⟩
  refine ⟨hupdate, hposition, ((readText_of_restated.1 _ hupdate).2 _ ?_).1,
    ((readText_of_restated.2 _ hposition).2 _ ?_).1⟩
  · refine ⟨_, _, _, _, .written _, .null, .written _, .written _, _, [("note", .arr [.null])], rfl,
      (List.reverse_perm _).symm, ?_⟩
    decide
  · refine ⟨_, .written (.cons ?_ .nil), _, [("note", .str "")], rfl,
      (List.reverse_perm _).symm, ?_⟩
    · refine ⟨_, [("note", .bool true)], rfl, (List.reverse_perm _).symm, ?_⟩
      decide
    · decide

end PositionOverlay
