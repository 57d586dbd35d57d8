import Reckoner.Stacks
/-!
# Evaluation

The value of an expression, and evaluation laid open: one command after
the other on stacks that outlive a failure, and the trace of a whole
expression.
-/

namespace Reckoner

/-- Evaluates lexemes from empty stacks, with a sign allowed at the start,
and says what the stacks hold at the end. -/
def evaluateLexemes (lexemes : List Lexeme) : Except Failure (Float × Stacks) := do
  let (s, _) ← Stacks.run {} true lexemes
  s.finish

/-- **The value of an expression,** or the first fault met. -/
def evaluate (expression : String) : Except Fault Float :=
  match evaluateLexemes (tokenize expression) with
  | .ok (v, _) => .ok v
  | .error failure => .error failure.fault

/-! ## One command at a time -/

/-- Stacks that commands work on, and whether a sign may stand next. -/
structure Session where
  state : Stacks := {}
  unaryContext : Bool := true

namespace Session

/-- What can be done to the stacks from outside. -/
inductive Command where
  /-- Takes in a lexeme; unless it is said whether a sign may stand here,
  that is as the last lexeme taken in has left it. -/
  | step (lexeme : Lexeme) (unaryContext : Option Bool)
  | reduceTop
  | closeBracket
  | finish
  | pushOperator (op : Operator)
  /-- Applies an operator that is not on the stack. -/
  | apply (op : Operator)
  | pushOperand (value : Float)
  /-- Pushes an operator and reduces nothing. -/
  | placeOperator (op : Operator)

/-- What a command that succeeded answers. -/
inductive Reply where
  | done
  /-- Whether a sign may stand next. -/
  | unaryContext (allowed : Bool)
  | value (v : Float)

/-- **Carries out a command.** The stacks go on as the command left them,
failed or not; the context goes on from a lexeme that was taken in. -/
def perform (session : Session) (command : Command) : Session × Except Fault Reply :=
  let s := session.state
  match outcome s command with
  | .ok (s, .unaryContext allowed) => (⟨s, allowed⟩, .ok (.unaryContext allowed))
  | .ok (s, reply) => (⟨s, session.unaryContext⟩, .ok reply)
  | .error failure => (⟨failure.left, session.unaryContext⟩, .error failure.fault)
where
  /-- What a command makes of the stacks, and answers. -/
  outcome (s : Stacks) : Command → Except Failure (Stacks × Reply)
    | .step lexeme unaryContext => do
      let (s, allowed) ← s.step lexeme (unaryContext.getD session.unaryContext)
      return (s, .unaryContext allowed)
    | .reduceTop => return (← s.reduceTop, .done)
    | .closeBracket => return (← s.closeBracket, .done)
    | .finish => do
      let (v, s) ← s.finish
      return (s, .value v)
    | .pushOperator op => return (← s.pushOperator op, .done)
    | .apply op => return (← s.reduce op, .done)
    | .pushOperand v => .ok (⟨s.operators, v :: s.operands⟩, .done)
    | .placeOperator op => .ok (⟨op :: s.operators, s.operands⟩, .done)

/-- What a command answered, and the stacks after it. -/
structure Answer where
  reply : Except Fault Reply
  state : Stacks

/-- Carries out commands one after the other, whether or not they
succeed. -/
def performAll (session : Session) : List Command → List Answer
  | [] => []
  | command :: rest =>
    let (next, reply) := session.perform command
    ⟨reply, next.state⟩ :: next.performAll rest

end Session

/-- An evaluation in full: an answer to each lexeme up to the first that
fails, and if none does, the answer at the end. -/
structure Trace where
  steps : List (Lexeme × Session.Answer)
  finish : Option Session.Answer

/-- Traces lexemes from a state on. -/
def Trace.from (session : Session) : List Lexeme → Trace
  | [] =>
    let (last, reply) := session.perform .finish
    ⟨[], some ⟨reply, last.state⟩⟩
  | lexeme :: rest =>
    let (next, reply) := session.perform (.step lexeme none)
    let answer := (lexeme, ⟨reply, next.state⟩)
    match reply with
    | .error _ => ⟨[answer], none⟩
    | .ok _ =>
      let later := Trace.from next rest
      ⟨answer :: later.steps, later.finish⟩

/-- **The trace of an expression.** -/
def Trace.of (expression : String) : Trace :=
  Trace.from {} (tokenize expression)

end Reckoner
