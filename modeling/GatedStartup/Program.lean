/-! Programs that ask. A program either is done or puts a question to its surroundings and goes
on with the answer. Each question has its own type of answers. What the surroundings do with a
question is left to a handler, so one program can be run against any of them. -/
namespace GatedStartup

inductive Program {Q : Type} (Answer : Q → Type) (α : Type) where
  | done (value : α)
  | ask (question : Q) (next : Answer question → Program Answer α)

/-- Surroundings with a state `W`: they answer a question and change. -/
abbrev Handler {Q : Type} (Answer : Q → Type) (W : Type) :=
  (question : Q) → W → Answer question × W

namespace Program

variable {Q : Type} {Answer : Q → Type} {α β γ W : Type}

def bind : Program Answer α → (α → Program Answer β) → Program Answer β
  | .done value, f => f value
  | .ask question next, f => .ask question fun answer => (next answer).bind f

instance : Monad (Program Answer) where
  pure := .done
  bind := bind

def send (question : Q) : Program Answer (Answer question) := .ask question .done

/-- The result of the program, and the surroundings it leaves behind. -/
def run (handler : Handler Answer W) : Program Answer α → W → α × W
  | .done value, w => (value, w)
  | .ask question next, w =>
    let reply := handler question w
    (next reply.1).run handler reply.2

/-- The questions put in a run, each with the state that it met. -/
def questions (handler : Handler Answer W) : Program Answer α → W → List (Q × W)
  | .done _, _ => []
  | .ask question next, w =>
    let reply := handler question w
    (question, w) :: (next reply.1).questions handler reply.2

theorem bind_done (p : Program Answer α) : p.bind .done = p := by
  induction p with
  | done value => rfl
  | ask question next ih => simp only [bind, ih]

theorem bind_assoc (p : Program Answer α) (f : α → Program Answer β) (g : β → Program Answer γ) :
    (p.bind f).bind g = p.bind fun value => (f value).bind g := by
  induction p with
  | done value => rfl
  | ask question next ih => simp only [bind, ih]

instance : LawfulMonad (Program Answer) :=
  LawfulMonad.mk' (Program Answer) bind_done (fun _ _ => rfl) bind_assoc

@[simp] theorem run_pure (handler : Handler Answer W) (value : α) (w : W) :
    (pure value : Program Answer α).run handler w = (value, w) := rfl

@[simp] theorem run_send (handler : Handler Answer W) (question : Q) (w : W) :
    (send question : Program Answer _).run handler w = handler question w := rfl

@[simp] theorem run_bind (handler : Handler Answer W) (p : Program Answer α)
    (f : α → Program Answer β) (w : W) :
    (p >>= f).run handler w = (f (p.run handler w).1).run handler (p.run handler w).2 := by
  change (p.bind f).run handler w = _
  induction p generalizing w with
  | done value => rfl
  | ask question next ih => exact ih _ _

@[simp] theorem questions_pure (handler : Handler Answer W) (value : α) (w : W) :
    (pure value : Program Answer α).questions handler w = [] := rfl

@[simp] theorem questions_send (handler : Handler Answer W) (question : Q) (w : W) :
    (send question : Program Answer _).questions handler w = [(question, w)] := rfl

@[simp] theorem questions_bind (handler : Handler Answer W) (p : Program Answer α)
    (f : α → Program Answer β) (w : W) :
    (p >>= f).questions handler w =
      p.questions handler w ++
        (f (p.run handler w).1).questions handler (p.run handler w).2 := by
  change (p.bind f).questions handler w = _
  induction p generalizing w with
  | done value => rfl
  | ask question next ih => simp only [bind, questions, run, ih, List.cons_append]

end Program
end GatedStartup
