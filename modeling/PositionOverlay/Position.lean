import PositionOverlay.Schema

/-!
# Positions

A position is a signed quantity of one symbol, the average price it was entered at, and the
executions that built it. A broker reports size and price as they are now, and the report
replaces what was known before.
-/
namespace PositionOverlay

/-- One execution. -/
structure Fill where
  /-- The order it belongs to. -/
  order : Uuid
  time : Timestamp
  /-- What the broker answered. -/
  response : String
  /-- The signed quantity. -/
  size : Float
  price : Float
deriving Repr

/-- A report of a broker on a position. -/
structure PositionUpdate where
  broker : Option String
  account : Option String
  symbol : Option String
  /-- The signed quantity that is open. -/
  size : Float
  /-- The average price of the open quantity. -/
  avgPrice : Float
  currency : Option String
deriving Repr

structure Position where
  symbol : String
  /-- Positive for a long position, negative for a short one, zero when flat. -/
  size : Float
  avgPrice : Float
  /-- In the order of arrival. -/
  fills : Array Fill
deriving Repr

namespace Fill

/-- The response of a complete execution. -/
def filled : String := "filled"

/-- The money that changed hands. -/
def value (f : Fill) : Float := f.size.abs * f.price

def toJson (f : Fill) : Json :=
  .obj [("oid", .str f.order.render), ("time", .str f.time.render), ("resp", .str f.response),
    ("size", .float f.size), ("price", .float f.price)]

def schema : Schema Fill :=
  .record "struct FillRecord"
    (.required "oid" .uuid <| .required "time" .timestamp <| .required "resp" .text <|
      .required "size" .number <| .required "price" .number .nil)
    fun (order, time, response, size, price, _) => ⟨order, time, response, size, price⟩

end Fill

/-- A member for a value that is there, and none for one that is not. -/
def Json.memberOf (name : String) : Option String → List (String × Json)
  | none => []
  | some s => [(name, .str s)]

namespace PositionUpdate

/-- A report with nothing but size and price. -/
def ofSize (avgPrice size : Float) : PositionUpdate := ⟨none, none, none, size, avgPrice, none⟩

/-- Absent texts are left out. -/
def toJson (u : PositionUpdate) : Json :=
  .obj (Json.memberOf "broker" u.broker ++ Json.memberOf "account" u.account ++
    Json.memberOf "symbol" u.symbol ++
    [("size", .float u.size), ("avg_price", .float u.avgPrice)] ++
    Json.memberOf "currency" u.currency)

def schema : Schema PositionUpdate :=
  .record "struct PositionMsg"
    (.defaulted "broker" (.optional .text) none <| .defaulted "account" (.optional .text) none <|
      .defaulted "symbol" (.optional .text) none <| .required "size" .number <|
      .required "avg_price" .number <| .defaulted "currency" (.optional .text) none .nil)
    fun (broker, account, symbol, size, avgPrice, currency, _) =>
      ⟨broker, account, symbol, size, avgPrice, currency⟩

end PositionUpdate

namespace Position

/-- A flat position without history. -/
def flat (symbol : String) : Position := ⟨symbol, 0.0, 0.0, #[]⟩

def isFlat (p : Position) : Bool := p.size == 0.0

def isLong (p : Position) : Bool := 0.0 < p.size

def isShort (p : Position) : Bool := p.size < 0.0

/-- Takes size and price from a report. -/
def apply (p : Position) (u : PositionUpdate) : Position :=
  { p with size := u.size, avgPrice := u.avgPrice }

/-- Adds an execution at the end of the history. -/
def record (p : Position) (f : Fill) : Position := { p with fills := p.fills.push f }

@[simp] theorem symbol_apply (p : Position) (u : PositionUpdate) : (p.apply u).symbol = p.symbol :=
  rfl

@[simp] theorem fills_apply (p : Position) (u : PositionUpdate) : (p.apply u).fills = p.fills := rfl

@[simp] theorem size_record (p : Position) (f : Fill) : (p.record f).size = p.size := rfl

@[simp] theorem avgPrice_record (p : Position) (f : Fill) : (p.record f).avgPrice = p.avgPrice :=
  rfl

@[simp] theorem fills_record (p : Position) (f : Fill) : (p.record f).fills = p.fills.push f := rfl

def toJson (p : Position) : Json :=
  .obj [("symbol", .str p.symbol), ("size", .float p.size), ("avg_price", .float p.avgPrice),
    ("fills", .arr (p.fills.toList.map Fill.toJson))]

def schema : Schema Position :=
  .record "struct Position"
    (.required "symbol" .text <| .required "size" .number <| .required "avg_price" .number <|
      .defaulted "fills" (.list Fill.schema) [] .nil)
    fun (symbol, size, avgPrice, fills, _) => ⟨symbol, size, avgPrice, fills.toArray⟩

end Position

end PositionOverlay
