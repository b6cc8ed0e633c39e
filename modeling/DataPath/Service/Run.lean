import DataPath.Service.Move

/-!
# Running the service

Left to itself the service makes moves as long as any are possible.  Whoever is first
in the list of turns makes moves until it has none left to make; then its turn is over,
and it gets another one when it is given something to do again.  When no turns are left
the service is *quiet*, until the time of a command comes.

Moves lead to other moves, but not forever.  The number of moves between two stimuli is
bounded here all the same; the bound is far out of reach.
-/

namespace DataPath.Service

/-- The moves of a party, the preferred ones first. -/
def Party.moves : Party → List Move
  | .modem => [.steer, .execute]
  | .station t => [.hear t, .read t]
  | .arbiter => [.notice, .tidings, .command]
  | .courier c => [.carry c]

/-- Whoever has the turn makes a move, or ends its turn if it has none to make. -/
def takeTurn? (s : Service) : Option Service :=
  match s.turns with
  | [] => none
  | party :: rest => some ((party.moves.findSome? s.move?).getD { s with turns := rest })

/-- So many turns are taken, or fewer if the service is quiet before that. -/
def takeTurns : Nat → Service → Service
  | 0, s => s
  | fuel + 1, s => match s.takeTurn? with
    | some s => takeTurns fuel s
    | none => s

/-- More turns than are ever taken between two stimuli. -/
def maxTurns : Nat := 1000000

/-- Run the service until it is quiet. -/
def run (s : Service) : Service := takeTurns maxTurns s

/-- When the next command can be executed, if the modem works on one and does not hold
it. -/
def nextDue? (s : Service) : Option Nat := if s.modemRuns then s.pipeline.nextDue? else none

/-- Let the time come. -/
def moveClock (s : Service) (time : Nat) : Service :=
  { s with clock := max s.clock time }.wake .modem

/-- Run the service, and let time pass whenever it is quiet and the next command may be
waited for until then; at most so many times. -/
def passTime (mayWait : Nat → Bool) : Nat → Service → Service
  | 0, s => s.run
  | fuel + 1, s =>
    let s := s.run
    match s.nextDue?.filter mayWait with
    | some due => passTime mayWait fuel (s.moveClock due)
    | none => s

/-- When the time of every command that the modem works on has come. -/
def lastDue (s : Service) : Nat := s.pipeline.jobs.foldl (fun time job => max time job.due) s.clock

/-- Run the service until no command is left that is not held, and until the time of
those that are held has come, too. -/
def runOut (s : Service) : Service :=
  let s := passTime (fun _ => true) maxTurns s
  (s.moveClock s.lastDue).run

/-- Run the service for so many milliseconds. -/
def runFor (s : Service) (ms : Nat) : Service :=
  let deadline := s.clock + ms
  ((passTime (fun due => due ≤ deadline) maxTurns s).moveClock deadline).run

end DataPath.Service
