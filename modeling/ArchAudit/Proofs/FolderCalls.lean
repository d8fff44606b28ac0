import ArchAudit.Proofs.Folding

/-!
# Calls of the folder

The folder of continued lines can be called in any order: with lines of any number, and with the end
of the input anywhere and more than once.  A call that ends a statement leaves a folder that no
further calls can tell from a fresh one, and no other call does.  The end of the input yields a
statement exactly if a line was held back since then.
-/

namespace ArchAudit.Continuation

open Folding (IsContinued)

/-! ## Calls and answers -/

inductive Call where
  | feed (lineNumber : Nat) (raw : String)
  | finish (lastLine : Nat)
deriving DecidableEq, Repr

/-- A call together with what the folder answered. -/
structure Exchange where
  call : Call
  answer : Option LogicalLine
deriving DecidableEq, Repr

def respond (pending : Continuation) : Call → Continuation × Option LogicalLine
  | .feed lineNumber raw => pending.feed lineNumber raw
  | .finish lastLine => pending.finish lastLine

def exchange (pending : Continuation) (call : Call) : Exchange :=
  ⟨call, (pending.respond call).2⟩

/-- What is pending after some calls. -/
def after : Continuation → List Call → Continuation
  | pending, [] => pending
  | pending, call :: rest => after (pending.respond call).1 rest

namespace Exchange

/-- Whether the call ended what was pending: it was the end of the input, or it gave a statement. -/
def Ends (exchange : Exchange) : Prop :=
  (∃ lastLine, exchange.call = .finish lastLine) ∨ ∃ line, exchange.answer = some line

end Exchange

end ArchAudit.Continuation
