import Mathlib

/-!
# Frames and detections (`video/frame.hpp`, `inference/yolo_postprocess.hpp`)

Coordinates and scores are `float` in the detector and `double` in the rules. `Floating` names
the few operations the alert rules use on them, `F` standing for `float` and `D` for `double`;
nothing is assumed of them. On the rationals they are exact, as the machine's are on values
that it can represent.
-/

namespace SkaiEdge.Inference

class Floating (F : Type*) (D : outParam Type*) where
  isFinite : F → Bool
  promote : F → D
  /-- `(a + b) * 0.5 / extent`. -/
  centre : F → F → Int → D
  less : D → D → Bool
  lessEq : D → D → Bool

instance : Floating ℚ ℚ where
  isFinite _ := true
  promote x := x
  centre a b extent := (a + b) * (1 / 2) / extent
  less a b := decide (a < b)
  lessEq a b := decide (a ≤ b)

structure Frame where
  sequence : UInt64 := 0
  width : Int := 0
  height : Int := 0
  stride : Int := 0
  bgr : List UInt8 := []
  deriving DecidableEq, Repr

structure Detection (F : Type*) where
  classId : Int
  confidence : F
  x1 : F
  y1 : F
  x2 : F
  y2 : F
  deriving DecidableEq, Repr

structure DetectionResult (F : Type*) where
  frameSequence : UInt64 := 0
  detections : List (Detection F) := []
  deriving DecidableEq, Repr

end SkaiEdge.Inference
