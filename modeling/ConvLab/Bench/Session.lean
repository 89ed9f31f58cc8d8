import ConvLab.Bench.Folder

/-!
# Recorded sessions

A host that reads from a folder in memory and keeps all that is logged and printed.  It runs over
any monad, whose effects it leaves alone.
-/

namespace ConvLab

/-- A session: what it reads, and what has been logged and printed in it so far. -/
structure Session where
  folder : Folder := .empty
  /-- The time that the clock shows. -/
  clock : Nat := 0
  log : Array LogLine := #[]
  printed : Array String := #[]

/-- The host that records a session. -/
instance {m : Type → Type} [Monad m] : Host (StateT Session m) where
  log line := modify fun s => { s with log := s.log.push line }
  print line := modify fun s => { s with printed := s.printed.push line }
  readFile path := do return (← get).folder.readFile path
  clock := do return (← get).clock

end ConvLab
