import DataPath.Switch.Step

/-!
# Carrying out what a switch wants done

The effects of a switch are carried out in order.  A command that the modem does not
accept comes back to the switch as one that has failed, which may make the switch want
more done; so this goes on until the switch wants nothing any more.

It does not go on for long.  A refused command can start a release, whose refused
force-idle ends it and tries the parked connects again; when these are refused too,
there is one more release, with nothing left to try.  Each of these is one round, and
`maxRounds` is more than all of them.
-/

namespace DataPath.Switch

variable {ρ : Type}

/-- What becomes of the switch when an effect is carried out, where `accepts` says of
which tokens the modem accepts the command. -/
def attempt (accepts : Nat → Bool) (s : Switch ρ) : Effect ρ → Switch ρ
  | .submit token _ => if accepts token then s else s.hear (.completed token (some .closed))
  | _ => s

/-- Carry out effects, for at most so many rounds; the effects that were carried out are
given in order. -/
def carryOutFor (accepts : Nat → Bool) : Nat → Switch ρ → Switch ρ × List (Effect ρ)
  | 0, s => (s, [])
  | rounds + 1, s =>
    let (effects, rest) := s.drain
    if effects.isEmpty then (rest, [])
    else
      let (last, later) := carryOutFor accepts rounds (effects.foldl (attempt accepts) rest)
      (last, effects ++ later)

/-- More rounds than it ever takes. -/
def maxRounds : Nat := 16

/-- Carry out effects until none is left; the effects that were carried out are given in
order. -/
def carryOut (accepts : Nat → Bool) (s : Switch ρ) : Switch ρ × List (Effect ρ) :=
  carryOutFor accepts maxRounds s

end DataPath.Switch
