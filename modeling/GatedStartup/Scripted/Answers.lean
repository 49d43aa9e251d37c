import GatedStartup.Lookup.Chain

/-! Strategies that follow a script: each has its own list of answers, given one by one, the last
of them for ever. What was asked is kept in order. -/
namespace GatedStartup.Scripted

open Lookup

abbrev Answer : Type := Except Miss (Option String)

/-- Strategies are asked by their number. -/
abbrev AnswerOf (_ : Nat) : Type := Answer

structure Answers where
  left : List (Nat × List Answer)
  given : List (Nat × Answer)

namespace Answers

/-- The next answer of a strategy; a strategy without a script finds nothing. -/
def next (answers : List Answer) : Answer × List Answer :=
  match answers with
  | [] => (.ok none, [])
  | [last] => (last, [last])
  | first :: rest => (first, rest)

def surroundings : Handler AnswerOf Answers := fun number a =>
  let step := next ((a.left.lookup number).getD [])
  (step.1,
    ⟨a.left.map fun entry => if entry.1 == number then (number, step.2) else entry,
      a.given ++ [(number, step.1)]⟩)

/-- Asks the script of the given number. -/
def strategy (source : Source) (number : Nat) : Strategy AnswerOf String :=
  ⟨source, .send number⟩

end Answers
end GatedStartup.Scripted
