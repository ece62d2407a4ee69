/-!
# Browse/Debouncer — values that wait for a pause

A debouncer holds the value that was pushed last.  The value **settles** once `delay` milliseconds
have passed without another push; a newer value takes its place before that.
-/

namespace Exposition.Browse

/-- **A debouncer** and the value it holds, with the time of its push. -/
structure Debouncer (α : Type) where
  delay : Nat
  pending : Option (Nat × α) := none
deriving DecidableEq, Repr

namespace Debouncer

variable {α : Type}

/-- Pushes a value at a time; it takes the place of the one that waits. -/
def push (d : Debouncer α) (now : Nat) (value : α) : Debouncer α :=
  { d with pending := some (now, value) }

/-- **What has settled by a time**, and when it did. -/
def settle (d : Debouncer α) (now : Nat) : Option (Nat × α) × Debouncer α :=
  match d.pending with
  | none => (none, d)
  | some (pushed, value) =>
    if pushed + d.delay ≤ now then (some (pushed + d.delay, value), { d with pending := none })
    else (none, d)

/-- What settles once nothing is pushed any more. -/
def finish (d : Debouncer α) : List (Nat × α) :=
  (d.pending.map fun (pushed, value) => (pushed + d.delay, value)).toList

/-- **What settles** while values are pushed at the given times, and after the last push. -/
def run (d : Debouncer α) : List (Nat × α) → List (Nat × α)
  | [] => d.finish
  | (now, value) :: rest =>
    let (settled, d) := d.settle now
    settled.toList ++ (d.push now value).run rest

end Debouncer

end Exposition.Browse
