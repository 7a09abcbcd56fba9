import MarkerSweep.Pattern.Expr
/-!
# Programs for matching

A regular expression is laid out as a list of instructions that run from top to bottom. The layout is
compositional: the code of an expression, placed at any address, occupies `Expr.size` places and is
left only by falling out at its end, so the code of a sequence is the code of its parts in order.
Where an instruction names two continuations the first is preferred, and this is the only place where
preference enters: a greedy repetition prefers its body, a choice its first branch.
-/

set_option autoImplicit false

namespace MarkerSweep.Pattern

open MarkerSweep.Unicode

/-- One step of a match; unless it says otherwise the next instruction follows. -/
inductive Instr
  /-- Takes one character of the set. -/
  | consume (s : CharSet)
  /-- Goes on if the assertion holds here. -/
  | look (a : Look)
  | jump (target : Nat)
  /-- Tries one continuation and, if that fails, another. -/
  | split (first second : Nat)
  | accept
deriving DecidableEq

/-- Chooses between the body of a repetition and its end. -/
def fork (greedy : Bool) (body exit : Nat) : Instr :=
  if greedy then .split body exit else .split exit body

namespace Expr

/-- How many instructions the code takes. -/
def size : Expr → Nat
  | empty => 0
  | set _ | look _ => 1
  | group e => e.size
  | seq a b => a.size + b.size
  | alt a b => a.size + b.size + 2
  | rep least (some most) _ body => least * body.size + (most - least) * (body.size + 1)
  | rep 0 none _ body => body.size + 2
  | rep least none _ body => least * body.size + 1

/-- The code of an expression placed at an address. A repetition without an upper bound whose body may
match the empty text leaves its loop right after an empty round. -/
def code : Expr → Nat → List Instr
  | empty, _ => []
  | set s, _ => [.consume s]
  | look a, _ => [.look a]
  | group e, base => e.code base
  | seq a b, base => a.code base ++ b.code (base + a.size)
  | alt a b, base =>
    let second := base + a.size + 2
    .split (base + 1) second ::
      (a.code (base + 1) ++ .jump (second + b.size) :: b.code second)
  | rep least (some most) greedy body, base =>
    let size := body.size
    let optional := base + least * size
    let exit := optional + (most - least) * (size + 1)
    ((List.range least).flatMap fun i => body.code (base + i * size)) ++
      (List.range (most - least)).flatMap fun i =>
        let here := optional + i * (size + 1)
        fork greedy (here + 1) exit :: body.code (here + 1)
  | rep 0 none greedy body, base =>
    let exit := base + body.size + 2
    fork greedy (base + 1) exit ::
      (body.code (base + 1) ++
        [if body.consumes then .jump base else fork greedy (base + 1) exit])
  | rep least none greedy body, base =>
    let size := body.size
    ((List.range least).flatMap fun i => body.code (base + i * size)) ++
      [fork greedy (base + (least - 1) * size) (base + least * size + 1)]

end Expr

/-- Instructions to be run from address zero. -/
structure Program where
  code : Array Instr
deriving DecidableEq

/-- The program that accepts right after a match of the expression. -/
def Program.ofExpr (e : Expr) : Program := ⟨(e.code 0 ++ [Instr.accept]).toArray⟩

end MarkerSweep.Pattern
