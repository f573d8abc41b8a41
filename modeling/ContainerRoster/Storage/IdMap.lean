import ContainerRoster.Decimal.Bounded

/-!
# Id maps

A map gives a range of host ids to a range of container ids of the same size. Lists of maps are
written as numbers in threes; whatever is no ASCII digit separates them.
-/

namespace ContainerRoster

structure IdMap where
  containerId : UInt32
  hostId : UInt32
  size : UInt32
  deriving DecidableEq, Repr

namespace IdMap

def text (m : IdMap) : String :=
  toString m.containerId.toNat ++ ":" ++ toString m.hostId.toNat ++ ":" ++ toString m.size.toNat

/-- The runs of digits in a text. -/
def digitRuns (cs : List Char) : List (List Char) :=
  (cs.splitOnP fun c => !c.isDigit).filter fun run => !run.isEmpty

/-- The number that a run of digits writes, below `2 ^ 32`. -/
def number? (run : List Char) : Option UInt32 :=
  match Decimal.readBelow (Nat.pow 2 32) run with
  | .ok n => some (UInt32.ofNat n)
  | .error _ => none

/-- Numbers in threes, none left over. -/
def triples : List UInt32 → Option (List IdMap)
  | [] => some []
  | c :: h :: s :: rest => (triples rest).map (⟨c, h, s⟩ :: ·)
  | _ => none

/-- The maps that a text writes. -/
def parse? (spec : String) : Option (List IdMap) := do
  triples (← (digitRuns spec.toList).mapM number?)

end IdMap

end ContainerRoster
