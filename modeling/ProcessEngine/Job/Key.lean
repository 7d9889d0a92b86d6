import ProcessEngine.Identifier
import ProcessEngine.Instance.Basic

/-!
# Job keys

A job is named by its instance, its node, the fiber that handed it out, the fiber's
epoch and a digest of its input, so the same dispatch always has the same key and
different ones have different keys.
-/

namespace ProcessEngine

/-- The name of a job. -/
structure JobKey where
  text : String
deriving DecidableEq, Repr, Inhabited

namespace JobKey

instance : Ord JobKey := ⟨compareOn JobKey.text⟩
instance : Std.TransOrd JobKey := inferInstanceAs (Std.TransCmp (compareOn JobKey.text))
instance : Std.LawfulEqOrd JobKey :=
  lawfulEqCmp_compareOn JobKey.text (fun left right same => by
    cases left; cases right; cases same; rfl)

/-- How many digits of the digest of the input are part of a key. -/
def digestLength : Nat := 16

/-- The key of a dispatch. -/
def generate (id : InstanceId) (node : NodeKey) (sequence epoch : Nat) (input : Json) : JobKey :=
  ⟨":".intercalate [id.render, node.text, toString sequence, toString epoch,
    String.ofList (input.digest.toList.take digestLength)]⟩

instance : JsonCodec JobKey where
  encode key := .text key.text
  reader := Decode.text (fun text => some ⟨text⟩)

end JobKey

end ProcessEngine
