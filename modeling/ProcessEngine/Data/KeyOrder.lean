/-!
# Orders on keys

A key type that wraps another type is ordered by what it wraps. Its order is
lawful as soon as the wrapped value determines the key.
-/

namespace ProcessEngine

universe u v

/-- Comparing by a view finds equal only what is equal, if the view determines the value. -/
theorem lawfulEqCmp_compareOn {Key : Type u} {View : Type v} [Ord View] [Std.LawfulEqOrd View]
    (view : Key -> View) (determines : ∀ left right, view left = view right -> left = right) :
    Std.LawfulEqCmp (compareOn view) where
  compare_self := Std.ReflOrd.compare_self (α := View)
  eq_of_compare := fun found =>
    determines _ _ (Std.LawfulEqOrd.eq_of_compare (α := View) found)

end ProcessEngine
