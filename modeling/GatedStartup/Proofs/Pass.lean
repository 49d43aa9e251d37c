import GatedStartup.Proofs.Activation
import GatedStartup.Proofs.Entries
import GatedStartup.Proofs.Realms
import GatedStartup.Startup

/-! What one run of a startup can do: secure the realms, ensure the indexes, and take back what
a failure leaves behind. -/
namespace GatedStartup

open Lookup Index

/-- All that securing can do. Realms are started, and unless a start fails security is
activated. -/
inductive Secured (s : Startup) :
    Transcript → Except ActivationError (Option Manager) → Startup → Prop where
  | unstarted : Starting s.lifecycle t l → Secured s t (.error error) { s with lifecycle := l }
  | started : Starting s.lifecycle front l → Activated s.activation s.realms t result a →
      Secured s (front ++ t) result { s with lifecycle := l, activation := a }

namespace Secured

variable {s s' : Startup} {t : Transcript} {result : Except ActivationError (Option Manager)}

/-- Securing touches nothing but the realms and the activation. -/
theorem frame (secured : Secured s t result s') :
    s' = { s with lifecycle := s'.lifecycle, activation := s'.activation } := by
  cases secured <;> rfl

theorem catalogue_eq (secured : Secured s t result s') : s'.catalogue = s.catalogue :=
  secured.frame ▸ rfl

end Secured

/-- What a rollback says about its first failure to destroy. -/
def incomplete : Option Failure → Transcript
  | none => []
  | some failure => [⟨.warn (.rollbackIncomplete failure), ()⟩]

/-- All that a rollback can do. -/
inductive RolledBack (s : Startup) : Transcript → Startup → Prop where
  | done : DestroyedEach s.catalogue.entries destroys failed entries →
      Deactivated s.activation withdrawal a → Stopping s.lifecycle stops →
      RolledBack s (destroys ++ (incomplete failed ++ (withdrawal ++ stops)))
        { s with catalogue := ⟨entries⟩, activation := a, lifecycle := .idle }

/-- All that a run can do. -/
inductive Ran (s : Startup) : Transcript → Except Failure Startup.Report → Startup → Prop where
  | unsecured : Secured s t (.error error) s₁ → Stopping s₁.lifecycle stops →
      Ran s (⟨.probe s.gate.probe s.gate.capability, present⟩ :: (t ++ stops))
        (.error (.activation error)) { s₁ with lifecycle := .idle }
  | rolledBack {failure : Failure} : Secured s t (.ok manager) s₁ →
      EnsuredEach s₁.catalogue.entries searches (.error failure) entries →
      RolledBack { s₁ with catalogue := ⟨entries⟩ } undoing s₂ →
      Ran s (⟨.probe s.gate.probe s.gate.capability, present⟩ :: (t ++ (searches ++ undoing)))
        (.error failure) s₂
  | succeeded : Secured s t (.ok manager) s₁ →
      EnsuredEach s₁.catalogue.entries searches (.ok handles) entries →
      Ran s (⟨.probe s.gate.probe s.gate.capability, present⟩ :: (t ++ searches))
        (.ok ⟨⟨present, realmsConfigured s.realms⟩,
          s.assembler.assemble s.attributes (realmsConfigured s.realms), manager, handles⟩)
        { s₁ with catalogue := ⟨entries⟩ }

namespace Startup

variable {k : Collaborators} {s s' : Startup} {t : Transcript}

theorem startRealms_ends {gates : Gates} {result : Except ActivationError Unit}
    (ends : (s.startRealms gates).Ends t (result, s')) :
    ∃ l, Starting s.lifecycle t l ∧ s' = { s with lifecycle := l } := by
  rw [startRealms] at ends
  split at ends
  · obtain ⟨front, ⟨started, l⟩, rest, rfl, starts, done⟩ := Program.ends_bind.mp ends
    obtain ⟨rfl, rfl, rfl⟩ := by simpa using done
    exact ⟨l, by simpa using Lifecycle.start_ends starts, rfl⟩
  · obtain ⟨rfl, rfl, rfl⟩ := by simpa using ends
    exact ⟨s'.lifecycle, .refl _, rfl⟩

theorem secure_ends {gates : Gates} {result : Except ActivationError (Option Manager)}
    (ends : (s.secure gates).Ends t (result, s')) : Secured s t result s' := by
  obtain ⟨front, ⟨started, s₁⟩, rest, rfl, starts, activation⟩ := Program.ends_bind.mp ends
  obtain ⟨l, starting, rfl⟩ := startRealms_ends starts
  cases started with
  | error error =>
    obtain ⟨rfl, rfl, rfl⟩ := by simpa using activation
    simpa using Secured.unstarted starting
  | ok =>
    obtain ⟨middle, ⟨activated, a⟩, last, rfl, activates, done⟩ := Program.ends_bind.mp activation
    obtain ⟨rfl, rfl, rfl⟩ := by simpa using done
    simpa using Secured.started starting (Activation.activate_ends activates)

theorem stopRealms_ends (ends : s.stopRealms.Ends t s') :
    Stopping s.lifecycle t ∧ s' = { s with lifecycle := .idle } := by
  obtain ⟨front, l, rest, rfl, stops, done⟩ := Program.ends_bind.mp ends
  obtain ⟨rfl, rfl⟩ := by simpa using done
  obtain ⟨rfl, stopping⟩ := Lifecycle.stop_ends stops
  exact ⟨by simpa using stopping, rfl⟩

/-- What a rollback does once the indexes are destroyed. -/
theorem afterDestroy_ends
    (ends : (s.activation.deactivate >>= fun undone =>
      { s with activation := undone.2 }.stopRealms).Ends t s') :
    ∃ withdrawal stops a, t = withdrawal ++ stops ∧ Deactivated s.activation withdrawal a ∧
      Stopping s.lifecycle stops ∧ s' = { s with activation := a, lifecycle := .idle } := by
  obtain ⟨withdrawal, ⟨_, a⟩, stops, rfl, withdraws, stopped⟩ := Program.ends_bind.mp ends
  obtain ⟨stopping, rfl⟩ := stopRealms_ends stopped
  exact ⟨withdrawal, stops, a, rfl, Activation.deactivate_ends withdraws, stopping, rfl⟩

theorem rollback_ends (ends : s.rollback.Ends t s') : RolledBack s t s' := by
  obtain ⟨front, ⟨destroyed, c⟩, rest, rfl, destroys, rest_ends⟩ := Program.ends_bind.mp ends
  obtain ⟨failed, each, rfl⟩ := Catalogue.destroyAll_ends destroys
  cases failed with
  | none =>
    obtain ⟨withdrawal, stops, a, rfl, deactivated, stopping, rfl⟩ :=
      afterDestroy_ends (s := { s with catalogue := c }) rest_ends
    exact .done each deactivated stopping
  | some failure =>
    obtain ⟨_, rest, rfl, undone⟩ := ends_ask_bind.mp rest_ends
    obtain ⟨withdrawal, stops, a, rfl, deactivated, stopping, rfl⟩ :=
      afterDestroy_ends (s := { s with catalogue := c }) undone
    exact .done each deactivated stopping

theorem run_ends {result : Except Failure Report} (well : WellNamed s.catalogue.entries)
    (ends : (s.run k).Ends t (result, s')) : Ran s t result s' := by
  obtain ⟨front, gates, rest, rfl, looked, secured⟩ := Program.ends_bind.mp ends
  obtain ⟨present, _, rfl, done⟩ := ends_ask_bind.mp looked
  obtain ⟨rfl, rfl⟩ := by simpa using done
  obtain ⟨front, ⟨activated, s₁⟩, rest, rfl, secures, after⟩ := Program.ends_bind.mp secured
  have securing := secure_ends secures
  cases activated with
  | error error =>
    obtain ⟨stops, s₂, rest, rfl, stopped, last⟩ := Program.ends_bind.mp after
    obtain ⟨stopping, rfl⟩ := stopRealms_ends stopped
    obtain ⟨rfl, rfl, rfl⟩ := by simpa using last
    simpa using Ran.unsecured securing stopping
  | ok manager =>
    obtain ⟨searches, ⟨ensured, c⟩, rest, rfl, ensures, finish⟩ := Program.ends_bind.mp after
    have each := Catalogue.ensureAll_ends (securing.catalogue_eq ▸ well) ensures
    cases ensured with
    | error failure =>
      obtain ⟨undoing, s₂, rest, rfl, undone, last⟩ := Program.ends_bind.mp finish
      obtain ⟨rfl, rfl, rfl⟩ := by simpa using last
      simpa using Ran.rolledBack securing each (rollback_ends undone)
    | ok handles =>
      obtain ⟨rfl, rfl, rfl⟩ := by simpa using finish
      have assembled : s₁.assembler.assemble s₁.attributes (realmsConfigured s.realms) =
          s.assembler.assemble s.attributes (realmsConfigured s.realms) := by rw [securing.frame]
      simp only [assembled, List.append_nil, List.cons_append, List.nil_append]
      exact .succeeded securing each

end Startup
end GatedStartup
