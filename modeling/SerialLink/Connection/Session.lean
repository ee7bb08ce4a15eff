/-!
# SerialLink.Connection.Session

Exclusive use of a connection, by agreement: a session holds a lock until it is let go of.
The lock does not stop anybody who uses the connection without it.
-/

namespace SerialLink

/-- The lock of a connection: the name of the session that holds it. -/
structure SessionLock where
  holder : Option String
  deriving DecidableEq, Repr

namespace SessionLock

/-- The lock that nobody holds. -/
def free : SessionLock := ⟨none⟩

instance : Inhabited SessionLock := ⟨free⟩

/-- Some session holds the lock. -/
def isBusy (l : SessionLock) : Bool := l.holder.isSome

/-- There is a session of this name. -/
def isHeldBy (l : SessionLock) (name : String) : Bool := l.holder == some name

/-- Takes the lock if nobody holds it.  The answer tells whether it was taken. -/
def tryTake (l : SessionLock) (name : String) : Bool × SessionLock :=
  if l.isBusy then (false, l) else (true, ⟨some name⟩)

/-- Lets a session go.  The answer tells whether there was one. -/
def letGo (l : SessionLock) (name : String) : Bool × SessionLock :=
  if l.isHeldBy name then (true, free) else (false, l)

end SessionLock

end SerialLink
