import LexicalGrammar.Resolver

/-
Building grammars from queues of descriptors. A descriptor that was resolved is never resolved
again; one that failed may be tried again later.
-/
namespace LexicalGrammar
variable [Pattern.Dialect]

inductive FailurePolicy where
  | abort
  | collect
  deriving Repr, DecidableEq, Inhabited

def FailurePolicy.name : FailurePolicy → String
  | .abort => "abort"
  | .collect => "collect"

def FailurePolicy.ofName? (name : String) : Option FailurePolicy :=
  [FailurePolicy.abort, .collect].find? (·.name = name)

inductive Status where
  | unresolved
  | resolved
  deriving Repr, DecidableEq, Inhabited

structure Pending where
  descriptor : Descriptor
  status : Status
  deriving Repr, DecidableEq

structure Failure where
  index : Nat
  descriptor : String
  fault : ResolveFault
  deriving Repr, DecidableEq

def Failure.message (f : Failure) : String :=
  s!"rule #{f.index} ({f.descriptor}) failed to resolve"

structure Report where
  attached : Nat := 0
  skipped : Nat := 0
  failures : List Failure := []
  deriving Repr, DecidableEq, Inhabited

def Report.isSuccess (r : Report) : Bool :=
  r.failures.isEmpty

structure Builder where
  grammar : Grammar
  queue : List Pending

structure Pass where
  outcome : Except Failure Report
  builder : Builder
  events : List Event

namespace Builder

def ofGrammar (g : Grammar) : Builder :=
  ⟨g, []⟩

def empty (name : String) : Builder :=
  ofGrammar (Grammar.empty name)

def declare (b : Builder) (state : String) : Builder :=
  { b with grammar := b.grammar.declare state }

def push (b : Builder) (d : Descriptor) : Builder :=
  { b with queue := b.queue ++ [⟨d, .unresolved⟩] }

def size (b : Builder) : Nat :=
  b.queue.length

def status? (b : Builder) (index : Nat) : Option Status :=
  (b.queue[index]?).map (·.status)

def unresolved (b : Builder) : Nat :=
  b.queue.countP (·.status = .unresolved)

/-- A pass over the rest of a queue, from the place `index` on. -/
def resolveFrom (r : Resolver) (policy : FailurePolicy) (index : Nat) (report : Report)
    (g : Grammar) : List Pending → Except Failure Report × Grammar × List Pending × List Event
  | [] =>
    (.ok report, g, [],
      [.passFinished g.name report.attached report.skipped report.failures.length])
  | p :: rest =>
    if p.status = .resolved then
      let (outcome, g, rest, events) :=
        resolveFrom r policy (index + 1) { report with skipped := report.skipped + 1 } g rest
      (outcome, g, p :: rest, events)
    else
      let attempt := r.resolve p.descriptor.declaration g
      match attempt.outcome with
      | .ok () =>
        let (outcome, g, rest, events) :=
          resolveFrom r policy (index + 1) { report with attached := report.attached + 1 }
            attempt.grammar rest
        (outcome, g, ⟨p.descriptor, .resolved⟩ :: rest, attempt.events ++ events)
      | .error fault =>
        let failure : Failure := ⟨index, p.descriptor.describe, fault⟩
        match policy with
        | .abort =>
          (.error failure, attempt.grammar, p :: rest,
            attempt.events ++ [.aborted index failure.descriptor fault])
        | .collect =>
          let (outcome, g, rest, events) :=
            resolveFrom r policy (index + 1)
              { report with failures := report.failures ++ [failure] } attempt.grammar rest
          (outcome, g, p :: rest,
            attempt.events ++ .ruleFailed index failure.descriptor fault :: events)

def resolvePending (b : Builder) (r : Resolver) (policy : FailurePolicy) : Pass :=
  let (outcome, g, queue, events) := resolveFrom r policy 0 {} b.grammar b.queue
  ⟨outcome, ⟨g, queue⟩, events⟩

end Builder
end LexicalGrammar
