/-!
# SerialLink.Port.Order

The order in which ports are listed.  It goes by the last part of a port's path:

1. names that start with `ttyACM`, by the number behind it;
2. names that start with `ttyUSB`, by the number behind it;
3. all others;

and within these by name.  What is no number of 64 bits counts as the largest one.
-/

namespace SerialLink

/-- What decides a port's place: its class, its number and the last part of its path. -/
structure PortKey where
  rank : Nat
  number : Nat
  base : String
  deriving DecidableEq, Repr

/-- The part of a path behind its last slash. -/
def basename (path : List Char) : List Char :=
  (path.reverse.takeWhile (· ≠ '/')).reverse

/-- The number that a text of digits stands for; a plus sign may precede it, and it must
fit into 64 bits. -/
def unsignedNumber? (cs : List Char) : Option Nat :=
  let ds := match cs with
    | '+' :: rest => rest
    | _ => cs
  if ds.isEmpty || !ds.all Char.isDigit then none
  else
    let n := ds.foldl (fun n d => 10 * n + (d.toNat - '0'.toNat)) 0
    if n < UInt64.size then some n else none

/-- What is left of a text behind a given start. -/
def behind? (start cs : List Char) : Option (List Char) :=
  if start.isPrefixOf cs then some (cs.drop start.length) else none

/-- The key of a port. -/
def portKey (name : String) : PortKey :=
  let base := basename name.toList
  let number (rest : List Char) := (unsignedNumber? rest).getD (UInt64.size - 1)
  match behind? "ttyACM".toList base, behind? "ttyUSB".toList base with
  | some rest, _ => ⟨0, number rest, String.ofList base⟩
  | none, some rest => ⟨1, number rest, String.ofList base⟩
  | none, none => ⟨2, 0, String.ofList base⟩

/-- The first key does not come behind the second. -/
def PortKey.le (a b : PortKey) : Bool :=
  a.rank < b.rank ||
    (a.rank == b.rank && (a.number < b.number || (a.number == b.number && a.base ≤ b.base)))

/-- The ports in the order in which they are listed; ports with one key stay in the order
in which they were found. -/
def sortPorts (names : List String) : List String :=
  names.mergeSort fun a b => (portKey a).le (portKey b)

end SerialLink
