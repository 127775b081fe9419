import CallGuard.Proofs.Chain.Accounts
import CallGuard.Proofs.Chain.Signals

/-!
# Manners of calls

The manner of a call says which signals go with which outcome. Every layer turns the manner of what
it guards into a manner of its own. Main statement: `Chain.manner_of_account`, that what a call has done
when it has ended gives signals in the manner of its chain.
-/

namespace CallGuard

/-- The services that the stage may take. -/
def Substitute.MayBe : Substitute → Nat → Prop
  | service number, n => n = number
  | made _, _ => True

/-- Whether one of the stages may have the service called. -/
def BoundFallback.Offers (stages : List BoundFallback) (service : Nat) : Prop :=
  ∃ stage ∈ stages, stage.substitute.MayBe service

/-- Which signals a call gives when it ends with which outcome. -/
def Manner := List Signal → Outcome → Prop

namespace Manner

/-- Asks once for permission, and goes on when it is granted. -/
def admitted (c : Capability) (M : Manner) : Manner := fun σ o =>
  σ = [.asked c false] ∨ ∃ τ, M τ o ∧ σ = .asked c true :: τ

/-- Asks a breaker for permission, which records the outcome when it has granted it. -/
def guarded (M : Manner) : Manner := fun σ o =>
  σ = [.asked .breaker false] ∨ ∃ τ, M τ o ∧ σ = .asked .breaker true :: (τ ++ [.recorded])

/-- So many attempts have been made and there will be another one, after which some are left. -/
inductive Tried (M : Manner) (r : Retry) : Nat → List Signal → Prop where
  | first : Tried M r (r.config.maxAttempts - 1) []
  | again {left : Nat} {σ τ : List Signal} {o : Outcome} : Tried M r (left + 1) σ → M τ o →
      Tried M r left (σ ++ (τ ++ [.again]))

/-- Attempts and a last one. -/
def retried (r : Retry) (M : Manner) : Manner := fun σ _ =>
  ∃ left earlier τ o, Tried M r left earlier ∧ M τ o ∧ σ = earlier ++ τ

/-- The outcome may be replaced by that of one other call. -/
def replaced (stages : List BoundFallback) (M : Manner) : Manner := fun σ o =>
  M σ o ∨ ∃ τ before service, M τ before ∧ BoundFallback.Offers stages service ∧
    σ = τ ++ [.substituted service]

/-- A fault is offered to mappers, and a fault leaves. -/
def remapped (mappers : List Mapper) (M : Manner) : Manner := fun σ o =>
  M σ o ∨ ∃ τ before asked, M τ (.fault before) ∧ asked <+: mappers.map Mapper.name ∧
    σ = τ ++ asked.map .mapped ∧ ∃ e, o = .fault e

end Manner

/-- The manner of a call through the layer. -/
def Layer.manner (M : Manner) : Layer → Manner
  | .exceptions mappers => .remapped mappers M
  | .retry r _ => .retried r M
  | .limiter .. => .admitted .limiter M
  | .breaker _ => .guarded M
  | .fallback stages => .replaced stages M
  | .bulkhead .. => .admitted .bulkhead M

/-- The manner of a call of the service through the layers. -/
def Chain.manner (service : Nat) : List Layer → Manner
  | [] => fun σ _ => σ = [.called service]
  | l :: inner => l.manner (manner service inner)

/-- The signals of the deeds, as far as the journal tells them. -/
def Deed.Signals (σ : List Deed) (τ : List Signal) : Prop :=
  σ.filterMap Deed.signal? = τ.map Signal.plain

namespace Deed.Signals

variable {σ σ' : List Deed} {τ τ' : List Signal}

theorem append (first : Signals σ τ) (second : Signals σ' τ') : Signals (σ ++ σ') (τ ++ τ') := by
  unfold Signals at *
  rw [List.filterMap_append, first, second, List.map_append]

/-- Silent deeds may follow. -/
theorem append_silent (first : Signals σ τ) (silent : σ'.filterMap Deed.signal? = []) :
    Signals (σ ++ σ') τ := by
  unfold Signals at *
  rw [List.filterMap_append, first, silent, List.append_nil]

end Deed.Signals

/-- A refusal signals that a request was turned down. -/
theorem Layer.signals_refusal {l : Layer} {e : Fault} (refuses : l.Refuses e) :
    Deed.Signals (l.refusal e) [.asked l.capability false] := by
  cases refuses <;> rfl

theorem BoundFallback.silent_scan (m : Method) (o : Outcome) (stages : List BoundFallback) :
    (scan m o stages).filterMap Deed.signal? = [] := by
  induction stages with
  | nil => rfl
  | cons stage rest ih =>
    rw [scan, List.filterMap_cons_none rfl]
    split
    · rfl
    · exact ih

/-- To provide a service signals nothing, and it is one that the stage may take. -/
theorem Substitute.Provides.mayBe {o : Outcome} {s : Substitute} {σ : List Deed} {service : Nat}
    (provides : s.Provides o σ service) :
    σ.filterMap Deed.signal? = [] ∧ s.MayBe service := by
  cases provides with
  | service number => exact ⟨rfl, rfl⟩
  | made make number => exact ⟨rfl, trivial⟩

theorem Retry.Closes.silent {r : Retry} {attempts : Nat} {last o : Outcome} {label : Option String}
    {h : Happening} (closes : r.Closes attempts last label h o) :
    [Deed.told h].filterMap Deed.signal? = [] := by
  cases closes <;> rfl

/-- Mappers are asked in their order, but perhaps not all of them. -/
theorem Mapper.signals_offers (e : Fault) (mappers : List Mapper) :
    ∃ asked, asked <+: mappers.map Mapper.name ∧ Deed.Signals (offers e mappers) (asked.map .mapped) := by
  induction mappers with
  | nil => exact ⟨[], List.prefix_rfl, rfl⟩
  | cons m rest ih =>
    obtain ⟨asked, start, signals⟩ := ih
    rw [offers]
    split
    · exact ⟨[m.name], ⟨rest.map Mapper.name, rfl⟩, rfl⟩
    · refine ⟨m.name :: asked, ?_, ?_⟩
      · rw [List.map_cons]
        exact (List.prefix_cons_inj m.name).mpr start
      · exact congrArg (Signal.mapped m.name :: ·) signals

namespace Manner

variable {A : Account} {M : Manner} {σ : List Deed} {o : Outcome}

/-- The manner is that of calls which the account tells of. -/
def Of (M : Manner) (A : Account) : Prop :=
  ∀ σ o, A σ (some o) → ∃ τ, M τ o ∧ Deed.Signals σ τ

/-- What becomes of a request that is turned down, or that is let through with signals to follow. -/
theorem Of.guarded_cases (of : M.Of A) {l : Layer} (after : List Signal)
    (settles : ∀ o, Deed.Signals (l.aftermath o) after)
    (went : Account.guarded l A σ (some o)) :
    Deed.Signals σ [.asked l.capability false] ∨
      ∃ τ, M τ o ∧ Deed.Signals σ (.asked l.capability true :: (τ ++ after)) := by
  cases went with
  | refused refuses => exact .inl (Layer.signals_refusal refuses)
  | @ended σ o went =>
    obtain ⟨τ, manner, signals⟩ := of σ o went
    have both := signals.append (settles o)
    exact .inr ⟨τ, manner, congrArg (Signal.asked l.capability true :: ·) both⟩

theorem Of.admitted (of : M.Of A) {l : Layer} (calm : ∀ o, l.aftermath o = []) :
    (M.admitted l.capability).Of (.guarded l A) := by
  intro σ o went
  have settles : ∀ o, Deed.Signals (l.aftermath o) [] := by
    intro o
    rw [calm]
    rfl
  rcases of.guarded_cases [] settles went with refused | ⟨τ, manner, signals⟩
  · exact ⟨_, .inl rfl, refused⟩
  · rw [List.append_nil] at signals
    exact ⟨_, .inr ⟨τ, manner, rfl⟩, signals⟩

theorem Of.guarded (of : M.Of A) (b : Breaker) : M.guarded.Of (.guarded (.breaker b) A) := by
  intro σ o went
  have settles : ∀ o, Deed.Signals (Layer.aftermath (.breaker b) o) [.recorded] := fun _ => rfl
  rcases of.guarded_cases [.recorded] settles went with refused | ⟨τ, manner, signals⟩
  · exact ⟨_, .inl rfl, refused⟩
  · exact ⟨_, .inr ⟨τ, manner, rfl⟩, signals⟩

/-- After attempts that have been made already. As many are left as can still be made. -/
theorem Of.attempted (of : M.Of A) {r : Retry} {attempts : Nat} {end? : Option Outcome}
    (went : Account.attempted r A attempts σ end?) (ended : end? = some o) {left : Nat}
    {ρ : List Deed} {earlier : List Signal} (tried : M.Tried r left earlier)
    (count : left + attempts = r.config.maxAttempts) (before : Deed.Signals ρ earlier) :
    ∃ τ, M.retried r τ o ∧ Deed.Signals (ρ ++ σ) τ := by
  induction went generalizing left ρ earlier with
  | idle | running => cases ended
  | @ended attempts σ last _ _ _ went _ closes =>
    obtain ⟨τ, manner, signals⟩ := of σ last went
    refine ⟨earlier ++ τ, ⟨left, earlier, τ, last, tried, manner, rfl⟩, ?_⟩
    exact before.append (signals.append_silent closes.silent)
  | @again attempts σ τ retried _ went _ allowed rest ih =>
    obtain ⟨υ, manner, signals⟩ := of σ retried went
    obtain ⟨left, rfl⟩ : ∃ fewer, left = fewer + 1 := ⟨left - 1, by omega⟩
    have announced : Deed.Signals
        [.told (.retried attempts (r.config.interval.wait attempts))] [.again] := rfl
    have all := before.append (signals.append announced)
    simpa using ih ended (tried.again manner) (by omega) all

theorem Of.retried (of : M.Of A) (r : Retry) : (M.retried r).Of (.attempted r A 1) := by
  intro σ o went
  have count : r.config.maxAttempts - 1 + 1 = r.config.maxAttempts :=
    Nat.sub_add_cancel r.config.maxAttempts_pos
  have nothing : Deed.Signals [] [] := rfl
  exact of.attempted went rfl .first count nothing

theorem Of.replaced (of : M.Of A) (m : Method) (stages : List BoundFallback) :
    (M.replaced stages).Of (.replaced m stages A) := by
  intro σ o went
  cases went with
  | @kept σ o went nobody =>
    obtain ⟨τ, manner, signals⟩ := of σ o went
    exact ⟨τ, .inl manner, signals.append_silent (BoundFallback.silent_scan m o stages)⟩
  | @substituted σ provided _ before stage service _ went first provides called =>
    obtain ⟨τ, manner, signals⟩ := of σ before went
    obtain ⟨silent, may⟩ := provides.mayBe
    have offers : BoundFallback.Offers stages service :=
      ⟨stage, List.mem_of_find?_eq_some first, may⟩
    refine ⟨_, .inr ⟨τ, before, service, manner, offers, rfl⟩, ?_⟩
    have quiet := signals.append_silent (BoundFallback.silent_scan m before stages)
    have sought := quiet.append_silent silent
    cases called with
    | ended =>
      have call : Deed.Signals [.called service, .replied service (.ended o)]
          [.substituted service] := rfl
      simpa using sought.append call

theorem Of.remapped (of : M.Of A) (mappers : List Mapper) :
    (M.remapped mappers).Of (.remapped mappers A) := by
  intro σ o went
  cases went with
  | @value σ v went =>
    obtain ⟨τ, manner, signals⟩ := of σ _ went
    exact ⟨τ, .inl manner, signals⟩
  | @fault σ e went =>
    obtain ⟨τ, manner, signals⟩ := of σ _ went
    obtain ⟨asked, start, offered⟩ := Mapper.signals_offers e mappers
    exact ⟨_, .inr ⟨τ, e, asked, manner, start, rfl, _, rfl⟩, signals.append offered⟩

end Manner

/-- **A call goes in the manner of its chain**: what it has done when it has ended signals it. -/
theorem Chain.manner_of_account (m : Method) (service : Nat) (layers : List Layer) :
    (manner service layers).Of (account m service layers) := by
  induction layers with
  | nil =>
    intro σ o went
    cases went with
    | ended => exact ⟨_, rfl, rfl⟩
  | cons l inner ih =>
    cases l with
    | exceptions mappers => exact ih.remapped mappers
    | retry r _ => exact ih.retried r
    | limiter | bulkhead => exact ih.admitted fun _ => rfl
    | breaker b => exact ih.guarded b
    | fallback stages => exact ih.replaced m stages

end CallGuard
