import GatedStartup.Proofs.History
import GatedStartup.Security.Manager

/-! Whom a security manager authenticates. Its realms are heard in order until one accepts. What was
said before is forgotten then, and otherwise the last error counts. Over realms that have lists of
users this comes to a look-up in their tables. -/
namespace GatedStartup

/-- A realm that is come to, with its verdict if it judges the credentials at all. -/
structure Hearing where
  realm : Realm
  verdict : Option (Except AuthError (Option Principal))

namespace Hearing

def asked (c : Credentials) (s : Hearing) : Transcript :=
  match s.verdict with
  | none => [⟨.supports s.realm c, false⟩]
  | some verdict => [⟨.supports s.realm c, true⟩, ⟨.authenticate s.realm c, verdict⟩]

def principal? (s : Hearing) : Option Principal :=
  match s.verdict with
  | some (.ok principal) => principal
  | _ => none

def error? (s : Hearing) : Option AuthError :=
  match s.verdict with
  | some (.error error) => some error
  | _ => none

end Hearing

/-- How hearing realms ends, with those that are not heard any more. The error is that of the last
realm that had one, if need be one that was heard before. -/
inductive Settles (c : Credentials) (before : Option AuthError) :
    List Hearing → List Realm → Except AuthError Principal → Prop where
  | accepted : (∀ s ∈ front, s.principal? = none) → last.principal? = some principal →
      Settles c before (front ++ [last]) unheard (.ok principal)
  | rejected : (∀ s ∈ heard, s.principal? = none) →
      Settles c before heard [] (.error
        (((heard.filterMap Hearing.error?).getLast?.or before).getD (.noRealmAccepted c.principal)))

section

variable {c : Credentials} {before : Option AuthError} {s : Hearing} {heard : List Hearing}
  {realms unheard : List Realm} {result : Except AuthError Principal} {t : Transcript}

theorem settles_nil :
    Settles c before [] unheard result ↔
      unheard = [] ∧ result = .error (before.getD (.noRealmAccepted c.principal)) := by
  constructor
  · intro settles
    generalize none : ([] : List Hearing) = heard at settles
    cases settles with
    | accepted => simp at none
    | rejected =>
      subst none
      exact ⟨rfl, rfl⟩
  · rintro ⟨rfl, rfl⟩
    exact @Settles.rejected c before [] (by simp)

theorem settles_cons_accepted {principal : Principal} (accepts : s.principal? = some principal) :
    Settles c before (s :: heard) unheard result ↔ heard = [] ∧ result = .ok principal := by
  constructor
  · intro settles
    generalize whole : s :: heard = all at settles
    cases settles with
    | @accepted front last _ _ unaccepted own =>
      cases front with
      | nil =>
        obtain ⟨rfl, rfl⟩ := List.cons.inj whole
        obtain rfl := Option.some.inj (accepts.symm.trans own)
        exact ⟨rfl, rfl⟩
      | cons first front =>
        obtain ⟨rfl, -⟩ := List.cons.inj whole
        simp [unaccepted s List.mem_cons_self] at accepts
    | rejected unaccepted =>
      subst whole
      simp [unaccepted s List.mem_cons_self] at accepts
  · rintro ⟨rfl, rfl⟩
    exact @Settles.accepted c before [] principal s unheard (by simp) accepts

/-- A realm that does not accept leaves nothing behind but its error. -/
theorem settles_cons (unaccepted : s.principal? = none) :
    Settles c before (s :: heard) unheard result ↔
      Settles c (s.error?.or before) heard unheard result := by
  have kept : ((s :: heard).filterMap Hearing.error?).getLast?.or before =
      (heard.filterMap Hearing.error?).getLast?.or (s.error?.or before) := by
    cases failed : s.error? with
    | none => simp [failed]
    | some error =>
      rw [List.filterMap_cons_some failed, List.getLast?_cons]
      cases (heard.filterMap Hearing.error?).getLast? <;> rfl
  constructor
  · intro settles
    generalize whole : s :: heard = all at settles
    cases settles with
    | @accepted front last _ _ all own =>
      cases front with
      | nil =>
        obtain ⟨rfl, -⟩ := List.cons.inj whole
        simp [unaccepted] at own
      | cons first front =>
        obtain ⟨rfl, rfl⟩ := List.cons.inj whole
        exact .accepted (List.forall_mem_cons.mp all).2 own
    | rejected all =>
      subst whole
      rw [kept]
      exact .rejected (List.forall_mem_cons.mp all).2
  · intro settles
    cases settles with
    | accepted all own => exact .accepted (List.forall_mem_cons.mpr ⟨unaccepted, all⟩) own
    | rejected all =>
      rw [← kept]
      exact .rejected (List.forall_mem_cons.mpr ⟨unaccepted, all⟩)

namespace Manager

theorem authenticateAmong_ends (ends : (authenticateAmong c before realms).Ends t result) :
    ∃ heard unheard, realms = heard.map (·.realm) ++ unheard ∧
      t = heard.flatMap (·.asked c) ∧ Settles c before heard unheard result := by
  induction realms generalizing before t with
  | nil =>
    obtain ⟨rfl, rfl⟩ := Program.ends_pure.mp ends
    exact ⟨[], [], rfl, rfl, settles_nil.mpr ⟨rfl, rfl⟩⟩
  | cons realm rest ih =>
    have onward {s : Hearing} {later : Transcript} (own : s.realm = realm)
        (unaccepted : s.principal? = none)
        (ends : (authenticateAmong c (s.error?.or before) rest).Ends later result) :
        ∃ heard unheard, realm :: rest = heard.map (·.realm) ++ unheard ∧
          s.asked c ++ later = heard.flatMap (·.asked c) ∧
            Settles c before heard unheard result := by
      obtain ⟨heard, unheard, rfl, rfl, settles⟩ := ih ends
      exact ⟨s :: heard, unheard, by simp [own], rfl, (settles_cons unaccepted).mpr settles⟩
    obtain ⟨supported, later, rfl, afterSupport⟩ := ends_ask_bind.mp ends
    cases supported with
    | false => exact onward (s := ⟨realm, none⟩) rfl rfl afterSupport
    | true =>
      obtain ⟨verdict, later, rfl, afterVerdict⟩ := ends_ask_bind.mp afterSupport
      rcases verdict with error | _ | principal
      · exact onward (s := ⟨realm, some (.error error)⟩) rfl rfl afterVerdict
      · exact onward (s := ⟨realm, some (.ok none)⟩) rfl rfl afterVerdict
      · obtain ⟨rfl, rfl⟩ := Program.ends_pure.mp afterVerdict
        exact ⟨[⟨realm, some (.ok (some principal))⟩], rest, rfl, rfl,
          (settles_cons_accepted rfl).mpr ⟨rfl, rfl⟩⟩

theorem authenticateAmong_of_settles (settles : Settles c before heard unheard result) :
    (authenticateAmong c before (heard.map (·.realm) ++ unheard)).Ends
      (heard.flatMap (·.asked c)) result := by
  induction heard generalizing before with
  | nil =>
    obtain ⟨rfl, rfl⟩ := settles_nil.mp settles
    exact Program.ends_pure.mpr ⟨rfl, rfl⟩
  | cons s heard ih =>
    obtain ⟨realm, verdict⟩ := s
    rcases verdict with _ | error | _ | principal
    · exact ends_ask_bind.mpr ⟨false, _, rfl, ih ((settles_cons rfl).mp settles)⟩
    · refine ends_ask_bind.mpr ⟨true, _, rfl, ends_ask_bind.mpr ⟨.error error, _, rfl, ?_⟩⟩
      exact ih ((settles_cons rfl).mp settles)
    · refine ends_ask_bind.mpr ⟨true, _, rfl, ends_ask_bind.mpr ⟨.ok none, _, rfl, ?_⟩⟩
      exact ih ((settles_cons rfl).mp settles)
    · obtain ⟨rfl, rfl⟩ := (settles_cons_accepted rfl).mp settles
      refine ends_ask_bind.mpr ⟨true, _, rfl, ends_ask_bind.mpr ⟨.ok (some principal), _, rfl, ?_⟩⟩
      exact Program.ends_pure.mpr ⟨rfl, rfl⟩

end Manager
end

/-- The realms have lists of users, and judge all credentials by them. -/
structure Listed (h : Surroundings W) (tables : Realm → Accounts) (realms : List Realm) : Prop where
  supports : ∀ r ∈ realms, ∀ c w, (h (.supports r c) w).1 = true
  authenticate : ∀ r ∈ realms, ∀ c w, (h (.authenticate r c) w).1 = (tables r).authenticate c

def Rehearsal.Setting.table (s : Setting) (r : Realm) : Accounts :=
  s.accounts[r.number]?.getD ⟨r.name, .empty⟩

theorem Rehearsal.listed (s : Setting) (realms : List Realm) :
    Listed s.surroundings s.table realms where
  supports _ _ _ _ := rfl
  authenticate r _ c _ := by
    simp only [Setting.surroundings, Setting.authenticate, Setting.table]
    cases s.accounts[r.number]? <;> rfl

/-- What the tables come to: whoever is listed with the secret that was presented is admitted by the
first realm that has it so. -/
structure Admission (tables : Realm → Accounts) (realms : List Realm) (c : Credentials)
    (result : Except AuthError Principal) : Prop where
  admitted : (∃ principal, result = .ok principal) ↔
    ∃ r ∈ realms, (tables r).users.get? c.principal = some c.secret
  first : ∀ principal, result = .ok principal ↔ ∃ front r later, realms = front ++ r :: later ∧
    (∀ q ∈ front, (tables q).users.get? c.principal ≠ some c.secret) ∧
      (tables r).users.get? c.principal = some c.secret ∧
        principal = ⟨c.principal, (tables r).name⟩
  known : (∀ r ∈ realms, (tables r).users.get? c.principal ≠ some c.secret) →
    (result = .error (.invalidCredentials c.principal) ↔
      ∃ r ∈ realms, ((tables r).users.get? c.principal).isSome = true)
  unknown : result = .error (.noRealmAccepted c.principal) ↔
    ∀ r ∈ realms, (tables r).users.get? c.principal = none

section

variable {W : Type} {h : Surroundings W} {tables : Realm → Accounts} {realms : List Realm}
  {c : Credentials}

theorem find?_holder {front later : List Realm} {r : Realm}
    (earlier : ∀ q ∈ front, (tables q).users.get? c.principal ≠ some c.secret)
    (holds : (tables r).users.get? c.principal = some c.secret) :
    (front ++ r :: later).find? (fun q => (tables q).users.get? c.principal == some c.secret) =
      some r := by
  rw [List.find?_append, List.find?_eq_none.mpr (by simpa using earlier)]
  simp [holds]

theorem Admission.of_first {front later : List Realm} {r : Realm}
    (earlier : ∀ q ∈ front, (tables q).users.get? c.principal ≠ some c.secret)
    (holds : (tables r).users.get? c.principal = some c.secret) :
    Admission tables (front ++ r :: later) c (.ok ⟨c.principal, (tables r).name⟩) := by
  have member : r ∈ front ++ r :: later := by simp
  constructor
  case admitted => exact ⟨fun _ => ⟨r, member, holds⟩, fun _ => ⟨_, rfl⟩⟩
  case first =>
    intro principal
    constructor
    · intro same
      exact ⟨front, r, later, rfl, earlier, holds, (Except.ok.inj same).symm⟩
    · rintro ⟨front', r', later', same, earlier', holds', rfl⟩
      have found := same ▸ find?_holder earlier holds
      rw [find?_holder earlier' holds'] at found
      rw [Option.some.inj found]
  case known => exact fun absent => absurd holds (absent r member)
  case unknown =>
    refine ⟨nofun, fun unknown => ?_⟩
    simp [unknown r member] at holds

theorem Admission.of_absent
    (absent : ∀ r ∈ realms, (tables r).users.get? c.principal ≠ some c.secret) :
    Admission tables realms c (.error (
      if realms.any fun r => ((tables r).users.get? c.principal).isSome then
        .invalidCredentials c.principal
      else .noRealmAccepted c.principal)) := by
  have unlisted : (∀ r ∈ realms, (tables r).users.get? c.principal = none) ↔
      ¬ ∃ r ∈ realms, ((tables r).users.get? c.principal).isSome = true := by simp
  constructor
  case admitted => exact ⟨nofun, fun ⟨r, member, holds⟩ => absurd holds (absent r member)⟩
  case first =>
    refine fun principal => ⟨nofun, ?_⟩
    rintro ⟨front, r, later, rfl, -, holds, -⟩
    exact absurd holds (absent r (by simp))
  case known =>
    intro _
    by_cases known : ∃ r ∈ realms, ((tables r).users.get? c.principal).isSome = true
    · rw [if_pos (List.any_eq_true.mpr known)]
      exact ⟨fun _ => known, fun _ => rfl⟩
    · rw [if_neg (mt List.any_eq_true.mp known)]
      exact ⟨nofun, fun some_ => absurd some_ known⟩
  case unknown =>
    rw [unlisted]
    by_cases known : ∃ r ∈ realms, ((tables r).users.get? c.principal).isSome = true
    · rw [if_pos (List.any_eq_true.mpr known)]
      exact ⟨nofun, fun none_ => absurd known none_⟩
    · rw [if_neg (mt List.any_eq_true.mp known)]
      exact ⟨fun _ => known, fun _ => rfl⟩

namespace Manager

/-- Realms with lists of users are looked through for the first with the secret. -/
theorem authenticateAmong_listed (listed : Listed h tables realms) (c : Credentials)
    (before : Option AuthError) (w : W) : ((authenticateAmong c before realms).run h w).1 =
      match realms.find? fun r => (tables r).users.get? c.principal == some c.secret with
      | some r => .ok ⟨c.principal, (tables r).name⟩
      | none => .error (
        if realms.any fun r => ((tables r).users.get? c.principal).isSome then
          .invalidCredentials c.principal
        else before.getD (.noRealmAccepted c.principal)) := by
  induction realms generalizing before w with
  | nil => rfl
  | cons r rest ih =>
    have later : Listed h tables rest :=
      ⟨fun q member => listed.supports q (List.mem_cons_of_mem _ member),
        fun q member => listed.authenticate q (List.mem_cons_of_mem _ member)⟩
    have supports := listed.supports r List.mem_cons_self c w
    simp only [authenticateAmong, Program.run_bind, ask, Program.run_send, supports]
    generalize (h (.supports r c) w).2 = w₁
    have verdict := listed.authenticate r List.mem_cons_self c w₁
    simp only [verdict, Accounts.authenticate]
    cases held : (tables r).users.get? c.principal with
    | none => simp [held, ih later]
    | some secret =>
      by_cases same : secret = c.secret
      · simp [held, same]
      · simp [held, same, ih later]

theorem authenticate_admission (listed : Listed h tables realms) (c : Credentials) (w : W) :
    Admission tables realms c ((authenticateAmong c none realms).run h w).1 := by
  rw [authenticateAmong_listed listed]
  cases found : realms.find? fun r => (tables r).users.get? c.principal == some c.secret with
  | some r =>
    obtain ⟨own, front, later, rfl, earlier⟩ := List.find?_eq_some_iff_append.mp found
    exact .of_first (by simpa using earlier) (by simpa using own)
  | none => exact .of_absent (by simpa using found)

/-- A manager hears its realms up to the first that accepts, whatever the others have said, and
over tables this finds whoever is listed with the secret. -/
theorem authenticate_heard (m : Manager) (c : Credentials) :
    (∀ t result, (m.authenticate c).Ends t result ↔ ∃ heard unheard,
      m.realms = heard.map (·.realm) ++ unheard ∧ t = heard.flatMap (·.asked c) ∧
        Settles c none heard unheard result) ∧
    ∀ (W : Type) (h : Surroundings W) (tables : Realm → Accounts) (w : W),
      Listed h tables m.realms →
        Admission tables m.realms c ((m.authenticate c).run h w).1 := by
  refine ⟨fun t result => ⟨authenticateAmong_ends, ?_⟩,
    fun W h tables w listed => authenticate_admission listed c w⟩
  rintro ⟨heard, unheard, whole, rfl, settles⟩
  rw [authenticate, whole]
  exact authenticateAmong_of_settles settles

end Manager
end

namespace Trial

open Rehearsal

/-- Ann is staff and a guest, with a secret for each. -/
def lodging : Setting :=
  { setting with
    accounts := [⟨"staff", ⟨[("ann", "a")]⟩⟩, ⟨"guests", ⟨[("ann", "b"), ("bob", "b")]⟩⟩] }

def porter : Manager := ⟨⟨0, 0⟩, [staff, guests]⟩

def answered (c : Credentials) : Except AuthError Principal :=
  ((porter.authenticate c).run lodging.surroundings (stage "orders")).1

/-- Ann comes in as a guest although the staff turn her away, but not with a third secret. -/
theorem lodging_heard :
    answered ⟨"ann", "b"⟩ = .ok ⟨"ann", "guests"⟩ ∧
      answered ⟨"ann", "c"⟩ = .error (.invalidCredentials "ann") ∧
      answered ⟨"eve", "b"⟩ = .error (.noRealmAccepted "eve") ∧
      (∃ heard unheard, porter.realms = heard.map (·.realm) ++ unheard ∧
        Settles ⟨"ann", "b"⟩ none heard unheard (answered ⟨"ann", "b"⟩)) ∧
      Admission lodging.table porter.realms ⟨"ann", "b"⟩ (answered ⟨"ann", "b"⟩) := by
  obtain ⟨hears, admits⟩ := Manager.authenticate_heard porter ⟨"ann", "b"⟩
  obtain ⟨heard, unheard, whole, -, settles⟩ :=
    (hears _ _).mp (Program.ends_events lodging.surroundings _ (stage "orders"))
  exact ⟨rfl, rfl, rfl, ⟨heard, unheard, whole, settles⟩,
    admits _ _ _ (stage "orders") (Rehearsal.listed lodging porter.realms)⟩

end Trial
end GatedStartup
