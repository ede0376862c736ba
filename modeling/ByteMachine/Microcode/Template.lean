import ByteMachine.Machine.Control
import ByteMachine.Machine.Encoding
/- Microcode templates. A template pairs an address pattern with the
   control word stored at every address it stands for.

   An instruction is built from the patterns of its instruction byte, the
   patterns of the flag values it applies to, and its control steps, each a
   list of control patterns. Steps 0 and 1 of every instruction fetch it,
   so its own steps are numbered from 2; at most six are allowed. The last
   step also resets the step counter. Each step's control patterns are
   combined and every line they leave open is set low. -/
namespace ByteMachine.Microcode

open Machine

/-- Control data stored at every address that a pattern stands for. -/
structure Template where
  range : Bitdef
  data : String
  deriving Repr, DecidableEq

/-- The templates of the steps from number `k` on, for an instruction whose
steps end at number `last`, with instruction pattern `i` and flag pattern `f`. -/
def stepTemplates (i f : Bitdef) (last : Nat) :
    Nat → List (List Bitdef) → Except Fault (List Template)
  | _, [] => .ok []
  | k, ctl :: rest => do
    let range ← Bitdef.merge [i, f, step k]
    let ctl := if k = last then ctl ++ [Signal.stepReset.bitdef] else ctl
    let data ← Bitdef.merge ctl
    let more ← stepTemplates i f last (k + 1) rest
    pure (⟨range, data.fill "0"⟩ :: more)

/-- The templates of an instruction with the given instruction-byte
patterns, flag patterns and control steps. -/
def assemble (instruction flags : List Bitdef) (steps : List (List Bitdef)) :
    Except Fault (List Template) := do
  if 6 < steps.length then throw (.tooManySteps steps.length)
  let i ← Bitdef.merge instruction
  let f ← Bitdef.merge flags
  stepTemplates i f (steps.length + 1) 2 steps

/-- `stepTemplates`, together with the control steps as it leaves them: building the last step
appends the reset pattern to that step's own list, once the step's address pattern is built and
before its control patterns are combined, and the caller holds that list too. -/
def stepTemplatesInPlace (i f : Bitdef) (last : Nat) :
    Nat → List (List Bitdef) → Except Fault (List Template) × List (List Bitdef)
  | _, [] => (.ok [], [])
  | k, ctl :: rest =>
    match Bitdef.merge [i, f, step k] with
    | .error e => (.error e, ctl :: rest)
    | .ok range =>
      let ctl := if k = last then ctl ++ [Signal.stepReset.bitdef] else ctl
      match Bitdef.merge ctl with
      | .error e => (.error e, ctl :: rest)
      | .ok data =>
        let more := stepTemplatesInPlace i f last (k + 1) rest
        (more.1.map (⟨range, data.fill "0"⟩ :: ·), ctl :: more.2)

/-- `assemble`, together with the control steps as it leaves them. -/
def assembleInPlace (instruction flags : List Bitdef) (steps : List (List Bitdef)) :
    Except Fault (List Template) × List (List Bitdef) :=
  if 6 < steps.length then (.error (.tooManySteps steps.length), steps)
  else
    match Bitdef.merge instruction, Bitdef.merge flags with
    | .ok i, .ok f => stepTemplatesInPlace i f (steps.length + 1) 2 steps
    | .error e, _ => (.error e, steps)
    | .ok _, .error e => (.error e, steps)

theorem assemble_too_many (instruction flags : List Bitdef) (steps : List (List Bitdef))
    (h : 6 < steps.length) :
    assemble instruction flags steps = .error (.tooManySteps steps.length) := by
  simp [assemble, h, bind, Except.bind, throw, throwThe, MonadExceptOf.throw]

end ByteMachine.Microcode
