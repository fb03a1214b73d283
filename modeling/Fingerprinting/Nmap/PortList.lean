/-
# Lists of ports

The ports that a probe is meant for, or that are not to be probed: numbers and ranges separated by
commas, as in `80,443,8000-8010`.  An item may begin with `T:` or `U:`, which makes no difference,
and a range whose ends are the wrong way round has no ports.
-/
import Fingerprinting.Error
import Fingerprinting.Text.Blank

namespace Fingerprinting.Nmap

/-- A list of port ranges, each with its first and its last port. -/
structure PortList where
  ranges : List (Nat × Nat) := []
deriving DecidableEq, Repr, Inhabited

namespace PortList

/-- Whether a port is in the list. -/
def contains (l : PortList) (port : Nat) : Bool :=
  l.ranges.any fun (first, last) => first ≤ port && port ≤ last

/-- Whether the list has no ranges. -/
def isEmpty (l : PortList) : Bool := l.ranges.isEmpty

/-- The list of some ports. -/
def ofList (ports : List Nat) : PortList := ⟨ports.map fun p => (p, p)⟩

/-- Add a port, unless the list has it. -/
def push (l : PortList) (port : Nat) : PortList :=
  if l.contains port then l else ⟨l.ranges ++ [(port, port)]⟩

/-! ## Reading -/

/-- An item without the transport before it. -/
def bare (item : String) : String :=
  ((Text.after "T:" item).or (Text.after "U:" item)).getD item

/-- The range of an item; blanks are allowed around the ends of a range. -/
def range? (item : String) : Option (Nat × Nat) :=
  match Text.cut '-' (bare item) with
  | some (first, last) => do
      some (← Text.decimal? Text.max16 (Text.trim first),
        ← Text.decimal? Text.max16 (Text.trim last))
  | none => (Text.decimal? Text.max16 (bare item)).map fun port => (port, port)

/-- The items of a list: what stands between commas and is not blank. -/
def items (s : String) : List String :=
  ((Text.splitOn ',' s).map Text.trim).filter (· != "")

/-- The range of an item, or what is wrong with it. -/
def rangeOf (item : String) : Except RuleError (Nat × Nat) :=
  match range? item with
  | some r => .ok r
  | none => .error (.portItem item)

/-- Read a list. -/
def parse (s : String) : Except RuleError PortList := do .ok ⟨← (items s).mapM rangeOf⟩

/-! ## Membership -/

@[simp] theorem contains_push (l : PortList) (port other : Nat) :
    (l.push port).contains other = (l.contains other || other == port) := by
  have h : (⟨l.ranges ++ [(port, port)]⟩ : PortList).contains other =
      (l.contains other || other == port) := by
    simp only [contains, List.any_append, List.any_cons, List.any_nil, Bool.or_false]
    congr 1
    rw [Bool.eq_iff_iff]
    simp only [Bool.and_eq_true, decide_eq_true_eq, beq_iff_eq]
    omega
  unfold push
  split
  · rename_i hp
    by_cases ho : other = port
    · subst ho; simp [hp]
    · simp [ho]
  · exact h

end PortList

end Fingerprinting.Nmap
