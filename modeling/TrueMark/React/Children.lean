import TrueMark.Ecma.Value

namespace React
open Ecma

mutual

/-- React refuses objects as children, also inside of arrays. -/
def renderable : JsValue → Bool
  | .object _ => false
  | .array items => renderableItems items
  | _ => true

def renderableItems : List JsValue → Bool
  | [] => true
  | item :: rest => renderable item && renderableItems rest

end

end React
