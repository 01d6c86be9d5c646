import PositionOverlay.Decimal.Binary
import PositionOverlay.View

/-!
# Settings

The look of an overlay, the view it is replayed in, and how much is noted. Whatever is not set
has a standard value.
-/
namespace PositionOverlay

/-- The look of an overlay. -/
structure OverlayConfig where
  /-- The color of line, marker and labels. -/
  color : String
  /-- The pixel size of the font; the marker grows with it. -/
  fontSize : Float
  /-- Whether the marker stays in view when its level is out of sight. -/
  keepInView : Bool
  /-- Where the first label sits relative to the marker. -/
  pin : Pin
deriving Repr

structure LogConfig where
  /-- The word for the least severity that is noted. -/
  level : String
deriving Repr

structure Settings where
  overlay : OverlayConfig
  view : View
  log : LogConfig
deriving Repr

/-- The color of whatever is not given one. -/
def standardColor : String := "default_light"

namespace OverlayConfig

def standard : OverlayConfig := ⟨standardColor, 16.0, true, .rightCentered⟩

/-- The size of the marker's arrow. -/
def arrowSize (c : OverlayConfig) : Float := Decimal.floor (1.375 * c.fontSize)

end OverlayConfig

/-- The view of a chart that is not told otherwise. -/
def View.standard : View := ⟨0.0, 100.0, 600.0, 1200.0, 0.0⟩

def LogConfig.standard : LogConfig := ⟨"info"⟩

def Settings.standard : Settings := ⟨.standard, .standard, .standard⟩

/-! ## Written forms -/

def OverlayConfig.schema : Schema OverlayConfig :=
  .record "struct OverlayConfig"
    (.defaulted "color" .text standardColor <| .defaulted "font_size_px" .number 16.0 <|
      .defaulted "keep_in_view" .flag true <| .defaulted "pin" Pin.schema .rightCentered .nil)
    fun (color, fontSize, keepInView, pin, _) => ⟨color, fontSize, keepInView, pin⟩

def View.schema : Schema View :=
  .record "struct ViewConfig"
    (.defaulted "y_min" .number 0.0 <| .defaulted "y_max" .number 100.0 <|
      .defaulted "height" .number 600.0 <| .defaulted "right_axis_x" .number 1200.0 <|
      .defaulted "l1_line_len" .number 0.0 .nil)
    fun (yMin, yMax, height, rightAxis, offersWidth, _) =>
      ⟨yMin, yMax, height, rightAxis, offersWidth⟩

def LogConfig.schema : Schema LogConfig :=
  .record "struct LogConfig" (.defaulted "level" .text "info" .nil) fun (level, _) => ⟨level⟩

def Settings.schema : Schema Settings :=
  .record "struct Settings"
    (.defaulted "overlay" OverlayConfig.schema .standard <|
      .defaulted "view" View.schema .standard <|
      .defaulted "log" LogConfig.schema .standard .nil)
    fun (overlay, view, log, _) => ⟨overlay, view, log⟩

end PositionOverlay
