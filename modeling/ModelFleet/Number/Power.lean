/-!
# Powers

Powers of natural numbers and of integers are those of the numbers themselves and not those of some
algebraic structure on them, so that a bound such as `2 ^ 64` means the same wherever it stands.
-/

attribute [instance (high), default_instance (high)] instPowNat
