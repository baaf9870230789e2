import CallChains.Json.Basic
/-!
Laying one object over another: values of the upper object replace those of the
lower one, except that two objects under the same key are overlaid in turn.
Lists are replaced as a whole.
-/

namespace CallChains

mutual
/-- What stands under a key once a value is laid over what stood there. -/
def Json.overlay (lower : Option Json) : (upper : Json) → Json
  | .obj upper =>
      match lower with
      | some (.obj lower) => .obj (Members.overlay lower upper)
      | _ => .obj upper
  | .null => .null
  | .bool value => .bool value
  | .number value => .number value
  | .str text => .str text
  | .arr items => .arr items

def Members.overlay (lower : Members) : (upper : Members) → Members
  | [] => lower
  | (key, value) :: rest =>
      Members.overlay (Members.put key
        (Json.overlay (Members.find? lower key) value) lower) rest
end

namespace Members

@[simp] theorem overlay_nil (lower : Members) : overlay lower [] = lower := rfl

theorem overlay_cons (lower : Members) (key : String) (value : Json)
    (rest : Members) :
    overlay lower ((key, value) :: rest) =
      overlay (lower.put key (Json.overlay (lower.find? key) value)) rest := rfl

end Members

end CallChains
