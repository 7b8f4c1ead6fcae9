import LogCourier.Number.Digits

/-! What a queue does when events arrive faster than they leave. -/

namespace LogCourier

/-- What happens at the ceiling of a queue. -/
inductive Overflow where
  /-- There is no ceiling; the queue only asks to be emptied. -/
  | unbounded
  /-- The oldest event makes room for the new one. -/
  | evictOldest (ceiling : Nat)
  /-- The new event is refused. -/
  | refuseNewest (ceiling : Nat)
  deriving DecidableEq, Repr

namespace Overflow

instance : Inhabited Overflow := ⟨unbounded⟩

/-- The number of events that a queue holds at most. -/
def ceiling? : Overflow → Option Nat
  | unbounded => none
  | evictOldest ceiling => some ceiling
  | refuseNewest ceiling => some ceiling

/-- The policy with a ceiling that leaves room for a full batch. -/
def raisedTo (least : Nat) : Overflow → Overflow
  | unbounded => unbounded
  | evictOldest ceiling => evictOldest (max ceiling least)
  | refuseNewest ceiling => refuseNewest (max ceiling least)

/-- The name of a policy, with its ceiling. -/
def display : Overflow → String
  | unbounded => "TriggerOnly"
  | evictOldest ceiling => "DropOldest(" ++ String.ofList (digits ceiling) ++ ")"
  | refuseNewest ceiling => "DropNewest(" ++ String.ofList (digits ceiling) ++ ")"

end Overflow

end LogCourier
