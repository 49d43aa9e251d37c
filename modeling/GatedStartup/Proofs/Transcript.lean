import GatedStartup.Proofs.Preliminaries
import GatedStartup.Request

/-! What a program asks and what it is told. `events` lists both for one run in given
surroundings. `Ends` leaves the surroundings open: what follows from it holds for all answers. -/
namespace GatedStartup

variable {Q : Type} {Answer : Q → Type} {α β W : Type}

/-- A question and its answer. -/
structure Exchange (Answer : Q → Type) where
  question : Q
  answer : Answer question

/-- An exchange of a startup with its surroundings. -/
abbrev Event := Exchange Request.Reply

abbrev Transcript := List Event

namespace Program

def events (handler : Handler Answer W) (p : Program Answer α) (w : W) : List (Exchange Answer) :=
  (p.questions handler w).map fun asked => ⟨asked.1, (handler asked.1 asked.2).1⟩

@[simp] theorem events_pure (handler : Handler Answer W) (value : α) (w : W) :
    (pure value : Program Answer α).events handler w = [] := rfl

@[simp] theorem events_bind (handler : Handler Answer W) (p : Program Answer α)
    (f : α → Program Answer β) (w : W) :
    (p >>= f).events handler w =
      p.events handler w ++ (f (p.run handler w).1).events handler (p.run handler w).2 := by
  simp [events]

@[simp] theorem run_map (handler : Handler Answer W) (f : α → β) (p : Program Answer α) (w : W) :
    (f <$> p).run handler w = (f (p.run handler w).1, (p.run handler w).2) := by
  rw [← bind_pure_comp, run_bind, run_pure]

@[simp] theorem events_map (handler : Handler Answer W) (f : α → β) (p : Program Answer α) (w : W) :
    (f <$> p).events handler w = p.events handler w := by
  rw [← bind_pure_comp, events_bind, events_pure, List.append_nil]

/-- Told what stands in the transcript, the program ends with the value. -/
inductive Ends : Program Answer α → List (Exchange Answer) → α → Prop where
  | done (value : α) : Ends (.done value) [] value
  | ask {question : Q} {next : Answer question → Program Answer α} {answer : Answer question}
      {rest : List (Exchange Answer)} {value : α} :
      Ends (next answer) rest value → Ends (.ask question next) (⟨question, answer⟩ :: rest) value

/-- Every run is one of the ends. -/
theorem ends_events (handler : Handler Answer W) (p : Program Answer α) (w : W) :
    p.Ends (p.events handler w) (p.run handler w).1 := by
  induction p generalizing w with
  | done value => exact .done value
  | ask question next ih => exact .ask (ih _ _)

variable {t : List (Exchange Answer)}

@[simp] theorem ends_pure {a b : α} : (pure a : Program Answer α).Ends t b ↔ t = [] ∧ b = a := by
  constructor
  · intro ends
    cases ends
    exact ⟨rfl, rfl⟩
  · rintro ⟨rfl, rfl⟩
    exact .done b

@[simp] theorem ends_send {question : Q} {answer : Answer question} :
    (send question).Ends t answer ↔ t = [⟨question, answer⟩] := by
  constructor
  · intro ends
    cases ends with
    | ask rest => cases rest; rfl
  · rintro rfl
    exact .ask (.done answer)

theorem ends_bind {p : Program Answer α} {f : α → Program Answer β} {b : β} :
    (p >>= f).Ends t b ↔
      ∃ front a rest, t = front ++ rest ∧ p.Ends front a ∧ (f a).Ends rest b := by
  change (p.bind f).Ends t b ↔ _
  constructor
  · intro ends
    induction p generalizing t with
    | done value => exact ⟨[], value, t, rfl, .done value, ends⟩
    | ask question next ih =>
      cases ends with
      | ask ends =>
        obtain ⟨front, a, rest, rfl, first, later⟩ := ih _ ends
        exact ⟨_ :: front, a, rest, rfl, .ask first, later⟩
  · rintro ⟨front, a, rest, rfl, first, later⟩
    induction first with
    | done value => exact later
    | ask _ ih => exact .ask (ih later)

/-- Whatever it is told, the program asks nothing but allowed questions. -/
def Asks (allowed : Q → Prop) : Program Answer α → Prop
  | .done _ => True
  | .ask question next => allowed question ∧ ∀ answer, (next answer).Asks allowed

variable {allowed : Q → Prop}

@[simp] theorem asks_pure (value : α) : (pure value : Program Answer α).Asks allowed := trivial

@[simp] theorem asks_send {question : Q} :
    (send question : Program Answer _).Asks allowed ↔ allowed question :=
  ⟨And.left, fun permitted => ⟨permitted, fun _ => trivial⟩⟩

theorem Asks.bind {p : Program Answer α} {f : α → Program Answer β} (first : p.Asks allowed)
    (rest : ∀ value, (f value).Asks allowed) : (p >>= f).Asks allowed := by
  change (p.bind f).Asks allowed
  induction p with
  | done value => exact rest value
  | ask question next ih => exact ⟨first.1, fun answer => ih answer (first.2 answer)⟩

theorem Asks.mono {p : Program Answer α} {wider : Q → Prop} (asks : p.Asks allowed)
    (permitted : ∀ question, allowed question → wider question) : p.Asks wider := by
  induction p with
  | done value => trivial
  | ask question next ih =>
    exact ⟨permitted question asks.1, fun answer => ih answer (asks.2 answer)⟩

/-- Surroundings that agree on all that a program may ask give it the same run. -/
theorem Asks.run_eq {p : Program Answer α} {h h' : Handler Answer W} (asks : p.Asks allowed)
    (agree : ∀ question w, allowed question → h question w = h' question w) (w : W) :
    p.run h w = p.run h' w := by
  induction p generalizing w with
  | done value => rfl
  | ask question next ih =>
    change (next (h question w).1).run h (h question w).2 = (next (h' question w).1).run h' _
    rw [← agree question w asks.1]
    exact ih _ (asks.2 _) _

theorem Ends.asked {p : Program Answer α} {value : α} (ends : p.Ends t value)
    (asks : p.Asks allowed) {e : Exchange Answer} (member : e ∈ t) : allowed e.question := by
  induction ends with
  | done value => contradiction
  | ask _ ih =>
    rcases List.mem_cons.mp member with rfl | later
    · exact asks.1
    · exact ih (asks.2 _) later

end Program

@[simp] theorem ends_ask {t : Transcript} {request : Request} {answer : request.Reply} :
    (ask request).Ends t answer ↔ t = [⟨request, answer⟩] :=
  Program.ends_send

theorem ends_ask_bind {t : Transcript} {request : Request} {f : request.Reply → Work α} {a : α} :
    (ask request >>= f).Ends t a ↔
      ∃ answer rest, t = ⟨request, answer⟩ :: rest ∧ (f answer).Ends rest a := by
  rw [Program.ends_bind]
  constructor
  · rintro ⟨front, answer, rest, rfl, asked, later⟩
    obtain rfl := ends_ask.mp asked
    exact ⟨answer, rest, rfl, later⟩
  · rintro ⟨answer, rest, rfl, later⟩
    exact ⟨[_], answer, rest, rfl, ends_ask.mpr rfl, later⟩

@[simp] theorem asks_ask {allowed : Request → Prop} {request : Request} :
    (ask request).Asks allowed ↔ allowed request :=
  Program.asks_send

/-- What a question of a startup is about. -/
inductive Topic where
  | capability | realms | manager | search | log
deriving DecidableEq

def Request.topic : Request → Topic
  | .probe _ _ => .capability
  | .startRealm _ | .stopRealm _ | .supports _ _ | .authenticate _ _ => .realms
  | .enforce _ | .register _ _ | .registered _ | .withdraw _ => .manager
  | .cacheComponent _ | .serviceComponent _ | .serviceOf _ | .regionAt _ _ => .search
  | .findIndex _ _ _ | .createIndex _ _ _ _ | .destroyIndex _ _ => .search
  | .warn _ => .log

/-- No question of the transcript is about the topic. -/
def Spares (topic : Topic) (t : Transcript) : Prop := ∀ e ∈ t, e.question.topic ≠ topic

variable {topic : Topic} {front rest : Transcript}

@[simp] theorem spares_nil : Spares topic [] := by simp [Spares]

@[simp] theorem spares_cons {e : Event} :
    Spares topic (e :: rest) ↔ e.question.topic ≠ topic ∧ Spares topic rest :=
  List.forall_mem_cons

@[simp] theorem spares_append :
    Spares topic (front ++ rest) ↔ Spares topic front ∧ Spares topic rest :=
  List.forall_mem_append

/-- Warnings are about nothing else. -/
theorem spares_of_logged (logged : ∀ e ∈ front, e.question.topic = .log) (other : topic ≠ .log) :
    Spares topic front := by
  intro e member
  rw [logged e member]
  exact other.symm

end GatedStartup
