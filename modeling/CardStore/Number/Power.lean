/-
  CardStore.Number.Power
  ──────────────────────
  **POWERS OF NUMBERS.**

  A library may come with powers of its own for every monoid.  Powers of
  natural numbers and integers are the built-in ones in all modules, whether
  such a library is imported or not.
-/

namespace CardStore

instance (priority := 2000) naturalPower : Pow Nat Nat := instPowNat

instance (priority := 2000) integerPower : Pow Int Nat := instPowNat

end CardStore

attribute [default_instance 20000] instPowNat
