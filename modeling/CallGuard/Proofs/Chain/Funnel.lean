import CallGuard.Proofs.Chain.Built
import CallGuard.Proofs.Chain.Manners
import Mathlib.Data.List.Perm.Basic

/-!
# The funnel of a chain

Calls that enter a layer are requests to it, and it passes some of them on, a retry more than it was
asked for. What a layer passes on are the requests to the next one, down to the target. The numbers
are read off the signals of the whole call. Main statement: `Chain.funnelled_manner`.
-/

namespace CallGuard

namespace Signal

/-- The capability whose stage gives the signal. Calls of the target belong to no stage. -/
def owner? : Signal → Option Capability
  | again => some .retry
  | asked c _ => some c
  | recorded => some .breaker
  | called _ => none
  | substituted _ => some .fallback
  | mapped _ => some .exceptions

theorem called?_of_owner? {s : Signal} {c : Capability} (h : s.owner? = some c) :
    s.called? = none := by
  cases s <;> first | rfl | cases h

end Signal

/-- A stage of the capability was asked so often, and granted so many requests. -/
structure Granted (c : Capability) (σ : List Signal) (requests passes : Nat) : Prop where
  asked : σ.count (.asked c true) + σ.count (.asked c false) = requests
  granted : σ.count (.asked c true) = passes

/-- Of that many requests the layer passes so many on. -/
def Layer.Conducts (σ : List Signal) (requests passes : Nat) : Layer → Prop
  | .exceptions _ => passes = requests
  | .retry r _ =>
    passes = requests + σ.count .again ∧ passes ≤ requests * r.config.maxAttempts
  | .limiter .. => Granted .limiter σ requests passes
  | .breaker _ => Granted .breaker σ requests passes ∧ σ.count .recorded = passes
  | .fallback stages =>
    passes = requests ∧ (σ.filterMap Signal.substituted?).length ≤ requests ∧
      ∀ service ∈ σ.filterMap Signal.substituted?, BoundFallback.Offers stages service
  | .bulkhead .. => Granted .bulkhead σ requests passes

/-- Of that many requests to the layers so many reach the target. -/
def Chain.Funnels (service : Nat) : List Layer → List Signal → Nat → Nat → Prop
  | [], σ, requests, passes =>
    passes = requests ∧ (σ.filterMap Signal.called?).Perm (.replicate passes service)
  | l :: inner, σ, requests, passes =>
    ∃ between, l.Conducts σ requests between ∧ Funnels service inner σ between passes

namespace Granted

variable {c : Capability} {σ τ : List Signal} {k j m n : Nat}

theorem append (h : Granted c σ k j) (more : Granted c τ m n) :
    Granted c (σ ++ τ) (k + m) (j + n) where
  asked := by
    have first := h.asked
    have second := more.asked
    simp only [List.count_append]
    omega
  granted := by rw [List.count_append, h.granted, more.granted]

theorem perm (h : Granted c σ k j) (same : σ.Perm τ) : Granted c τ k j where
  asked := by rw [← same.count_eq, ← same.count_eq, h.asked]
  granted := by rw [← same.count_eq, h.granted]

theorem foreign (others : ∀ s ∈ σ, s.owner? ≠ some c) : Granted c σ 0 0 := by
  have none : ∀ granted, σ.count (.asked c granted) = 0 := fun granted =>
    List.count_eq_zero.mpr fun mem => others _ mem rfl
  exact ⟨by rw [none, none], none true⟩

end Granted

namespace Layer

variable {l : Layer} {σ τ : List Signal} {k j m n : Nat}

theorem Conducts.append (h : l.Conducts σ k j) (more : l.Conducts τ m n) :
    l.Conducts (σ ++ τ) (k + m) (j + n) := by
  cases l with
  | exceptions mappers => exact congrArg₂ (· + ·) h more
  | retry r scheduler =>
    obtain ⟨passed, within⟩ := h
    obtain ⟨passed', within'⟩ := more
    refine ⟨?_, ?_⟩
    · rw [List.count_append]
      omega
    · rw [Nat.add_mul]
      exact Nat.add_le_add within within'
  | limiter limiter scheduler => exact Granted.append h more
  | bulkhead bulkhead scheduler => exact Granted.append h more
  | breaker b =>
    refine ⟨h.1.append more.1, ?_⟩
    rw [List.count_append, h.2, more.2]
  | fallback stages =>
    obtain ⟨passed, within, offered⟩ := h
    obtain ⟨passed', within', offered'⟩ := more
    refine ⟨congrArg₂ (· + ·) passed passed', ?_, ?_⟩
    · rw [List.filterMap_append, List.length_append]
      exact Nat.add_le_add within within'
    · rw [List.filterMap_append]
      exact List.forall_mem_append.mpr ⟨offered, offered'⟩

theorem Conducts.perm (h : l.Conducts σ k j) (same : σ.Perm τ) : l.Conducts τ k j := by
  cases l with
  | exceptions mappers => exact h
  | retry r scheduler => exact ⟨by rw [← same.count_eq]; exact h.1, h.2⟩
  | limiter limiter scheduler => exact Granted.perm h same
  | bulkhead bulkhead scheduler => exact Granted.perm h same
  | breaker b => exact ⟨h.1.perm same, by rw [← same.count_eq]; exact h.2⟩
  | fallback stages =>
    obtain ⟨passed, within, offered⟩ := h
    have collected := same.filterMap Signal.substituted?
    exact ⟨passed, collected.length_eq ▸ within,
      fun service mem => offered service (collected.mem_iff.mpr mem)⟩

/-- What others signal is nothing to the layer. -/
theorem Conducts.foreign (others : ∀ s ∈ σ, s.owner? ≠ some l.capability) : l.Conducts σ 0 0 := by
  have none : ∀ s : Signal, s.owner? = some l.capability → σ.count s = 0 := fun s own =>
    List.count_eq_zero.mpr fun mem => others s mem own
  cases l with
  | exceptions mappers => exact rfl
  | retry r scheduler => exact ⟨(none .again rfl).symm ▸ rfl, Nat.zero_le _⟩
  | limiter limiter scheduler => exact Granted.foreign others
  | bulkhead bulkhead scheduler => exact Granted.foreign others
  | breaker b => exact ⟨Granted.foreign others, none .recorded rfl⟩
  | fallback stages =>
    have nobody : σ.filterMap Signal.substituted? = [] := by
      refine List.filterMap_eq_nil_iff.mpr fun s mem => ?_
      have other := others s mem
      cases s <;> first | rfl | exact absurd rfl other
    rw [Conducts, nobody]
    exact ⟨rfl, Nat.le_refl 0, by simp⟩

end Layer

namespace Chain

/-- The signals come from these layers or from the target. -/
def Stays (layers : List Layer) (σ : List Signal) : Prop :=
  ∀ s ∈ σ, ∀ c, s.owner? = some c → c ∈ layers.map Stage.capability

variable {service : Nat} {layers : List Layer} {σ τ : List Signal} {k j m n : Nat}

theorem Stays.append (h : Stays layers σ) (more : Stays layers τ) : Stays layers (σ ++ τ) :=
  List.forall_mem_append.mpr ⟨h, more⟩

theorem Funnels.append (h : Funnels service layers σ k j) (more : Funnels service layers τ m n) :
    Funnels service layers (σ ++ τ) (k + m) (j + n) := by
  induction layers generalizing k m with
  | nil =>
    obtain ⟨rfl, targets⟩ := h
    obtain ⟨rfl, targets'⟩ := more
    refine ⟨rfl, ?_⟩
    rw [List.filterMap_append, ← List.replicate_append_replicate]
    exact targets.append targets'
  | cons l inner ih =>
    obtain ⟨between, conducts, rest⟩ := h
    obtain ⟨between', conducts', rest'⟩ := more
    exact ⟨between + between', conducts.append conducts', ih rest rest'⟩

theorem Funnels.perm (h : Funnels service layers σ k j) (same : σ.Perm τ) :
    Funnels service layers τ k j := by
  induction layers generalizing k with
  | nil => exact ⟨h.1, (same.symm.filterMap _).trans h.2⟩
  | cons l inner ih =>
    obtain ⟨between, conducts, rest⟩ := h
    exact ⟨between, conducts.perm same, ih rest⟩

/-- What other stages signal is nothing to the layers. -/
theorem Funnels.foreign
    (others : ∀ s ∈ σ, ∃ c, s.owner? = some c ∧ c ∉ layers.map Stage.capability) :
    Funnels service layers σ 0 0 := by
  induction layers with
  | nil =>
    have nobody : σ.filterMap Signal.called? = [] := by
      refine List.filterMap_eq_nil_iff.mpr fun s mem => ?_
      obtain ⟨c, own, -⟩ := others s mem
      exact Signal.called?_of_owner? own
    exact ⟨rfl, nobody ▸ .nil⟩
  | cons l inner ih =>
    refine ⟨0, .foreign fun s mem same => ?_, ih fun s mem => ?_⟩
    · obtain ⟨c, own, other⟩ := others s mem
      cases own.symm.trans same
      exact other List.mem_cons_self
    · obtain ⟨c, own, other⟩ := others s mem
      exact ⟨c, own, fun inside => other (List.mem_cons_of_mem l.capability inside)⟩

theorem Funnels.targets (h : Funnels service layers σ k j) :
    σ.filterMap Signal.called? = .replicate j service := by
  induction layers generalizing k with
  | nil => exact List.perm_replicate.mp h.2
  | cons l inner ih =>
    obtain ⟨between, -, rest⟩ := h
    exact ih rest

/-- All calls of the manner keep to the layers, and each of them is one request to them. -/
def Funnelled (service : Nat) (layers : List Layer) (M : Manner) : Prop :=
  ∀ σ o, M σ o → Stays layers σ ∧ ∃ reached, Funnels service layers σ 1 reached

variable {l : Layer} {inner : List Layer}

/-- The layer's own signals and those from within it make up those of a call. -/
theorem funnels_cons (fresh : l.capability ∉ inner.map Stage.capability) {ρ : List Signal}
    (stays : Stays inner τ) (rest : Funnels service inner τ m j)
    (own : ∀ s ∈ ρ, s.owner? = some l.capability) (conducts : l.Conducts ρ k m)
    (both : σ.Perm (ρ ++ τ)) :
    Stays (l :: inner) σ ∧ ∃ reached, Funnels service (l :: inner) σ k reached := by
  refine ⟨fun s mem c owner => ?_, j, m, ?_, ?_⟩
  · rw [List.map_cons, List.mem_cons]
    rcases List.mem_append.mp (both.mem_iff.mp mem) with mine | within
    · exact .inl (Option.some.inj (owner.symm.trans (own s mine)))
    · exact .inr (stays s within c owner)
  · -- To either part the signals of the other one are foreign.
    have others : l.Conducts τ 0 0 :=
      .foreign fun s within same => fresh (stays s within l.capability same)
    exact (conducts.append others).perm both.symm
  · have others : Funnels service inner ρ 0 0 :=
      .foreign fun s mine => ⟨l.capability, own s mine, fresh⟩
    have all := others.append rest
    rw [Nat.zero_add, Nat.zero_add] at all
    exact all.perm both.symm

theorem funnels_nil : Funnels service inner [] 0 0 := .foreign (by simp)

theorem stays_nil : Stays inner [] := by simp [Stays]

/-- Earlier attempts, each of them one request to what is inside. -/
theorem exists_attempts {M : Manner} {r : Retry} (funnelled : Funnelled service inner M)
    {left : Nat} {ρ : List Signal} (tried : M.Tried r left ρ) :
    ∃ τ attempts reached, ρ.Perm (.replicate attempts .again ++ τ) ∧ Stays inner τ ∧
      Funnels service inner τ attempts reached ∧ attempts + left + 1 = r.config.maxAttempts := by
  induction tried with
  | first =>
    have positive := r.config.maxAttempts_pos
    exact ⟨[], 0, 0, .nil, stays_nil, funnels_nil, by omega⟩
  | @again left σ τ o tried went ih =>
    obtain ⟨earlier, attempts, reached, both, stays, funnels, count⟩ := ih
    obtain ⟨stays', reached', funnels'⟩ := funnelled _ _ went
    refine ⟨earlier ++ τ, attempts + 1, reached + reached', ?_, stays.append stays',
      funnels.append funnels', by omega⟩
    rw [List.replicate_succ, List.cons_append, ← List.append_assoc]
    refine (List.perm_append_singleton _ _).trans (.cons _ ?_)
    rw [← List.append_assoc]
    exact both.append_right τ

/-- A stage that asks whether it may go on, and gives these signals after what it has let through. -/
theorem funnels_asking (fresh : l.capability ∉ inner.map Stage.capability) {M : Manner}
    (funnelled : Funnelled service inner M) {o : Outcome} {after : List Signal}
    (own : ∀ s ∈ after, s.owner? = some l.capability)
    (refused : l.Conducts [.asked l.capability false] 1 0)
    (granted : l.Conducts (.asked l.capability true :: after) 1 1)
    (went : σ = [.asked l.capability false] ∨
      ∃ τ, M τ o ∧ σ = .asked l.capability true :: (τ ++ after)) :
    Stays (l :: inner) σ ∧ ∃ reached, Funnels service (l :: inner) σ 1 reached := by
  rcases went with rfl | ⟨τ, went, rfl⟩
  · exact funnels_cons fresh stays_nil funnels_nil (by simp [Signal.owner?]) refused (by simp)
  · obtain ⟨stays, reached, funnels⟩ := funnelled _ _ went
    refine funnels_cons fresh stays funnels ?_ granted ?_
    · exact List.forall_mem_cons.mpr ⟨rfl, own⟩
    · exact List.perm_append_comm.cons _

theorem funnelled_layer (fresh : l.capability ∉ inner.map Stage.capability) {M : Manner}
    (funnelled : Funnelled service inner M) : Funnelled service (l :: inner) (l.manner M) := by
  intro σ o went
  have nothing : ∀ {c : Capability}, M.admitted c σ o →
      σ = [.asked c false] ∨ ∃ τ, M τ o ∧ σ = .asked c true :: (τ ++ []) := by
    rintro c (refused | ⟨τ, went, granted⟩)
    · exact .inl refused
    · exact .inr ⟨τ, went, by rw [granted, List.append_nil]⟩
  cases l with
  | exceptions mappers =>
    rcases went with went | ⟨τ, before, asked, went, -, rfl, -⟩
    · obtain ⟨stays, reached, funnels⟩ := funnelled _ _ went
      exact funnels_cons (ρ := []) fresh stays funnels (by simp) rfl (.refl _)
    · obtain ⟨stays, reached, funnels⟩ := funnelled _ _ went
      refine funnels_cons fresh stays funnels ?_ rfl List.perm_append_comm
      simp [Signal.owner?, Stage.capability]
  | retry r scheduler =>
    obtain ⟨left, earlier, τ, before, tried, went, rfl⟩ := went
    obtain ⟨others, attempts, reached, both, stays, funnels, count⟩ :=
      exists_attempts funnelled tried
    obtain ⟨stays', reached', funnels'⟩ := funnelled _ _ went
    refine funnels_cons fresh (stays.append stays') (funnels.append funnels')
      (ρ := .replicate attempts .again) ?_ ⟨?_, ?_⟩ ?_
    · exact fun s mem => by rw [List.eq_of_mem_replicate mem]; rfl
    · rw [List.count_replicate_self, Nat.add_comm]
    · omega
    · rw [← List.append_assoc]
      exact both.append_right τ
  | limiter limiter scheduler =>
    exact funnels_asking fresh funnelled (by simp) ⟨rfl, rfl⟩ ⟨rfl, rfl⟩ (nothing went)
  | breaker b =>
    have records : ∀ s ∈ [Signal.recorded], s.owner? = some .breaker :=
      List.forall_mem_singleton.mpr rfl
    exact funnels_asking fresh funnelled records ⟨⟨rfl, rfl⟩, rfl⟩ ⟨⟨rfl, rfl⟩, rfl⟩ went
  | fallback stages =>
    rcases went with went | ⟨τ, before, other, went, offered, rfl⟩
    · obtain ⟨stays, reached, funnels⟩ := funnelled _ _ went
      exact funnels_cons (ρ := []) fresh stays funnels (by simp)
        ⟨rfl, Nat.zero_le 1, by simp⟩ (.refl _)
    · obtain ⟨stays, reached, funnels⟩ := funnelled _ _ went
      have conducts : Layer.Conducts [.substituted other] 1 1 (.fallback stages) :=
        ⟨rfl, Nat.le_refl 1, List.forall_mem_singleton.mpr offered⟩
      refine funnels_cons fresh stays funnels ?_ conducts List.perm_append_comm
      exact List.forall_mem_singleton.mpr rfl
  | bulkhead bulkhead scheduler =>
    exact funnels_asking fresh funnelled (by simp) ⟨rfl, rfl⟩ ⟨rfl, rfl⟩ (nothing went)

theorem funnelled_manner (distinct : (layers.map Stage.capability).Nodup) :
    Funnelled service layers (manner service layers) := by
  induction layers with
  | nil =>
    intro σ o went
    have only : σ = [.called service] := went
    subst only
    exact ⟨by simp [Stays, Signal.owner?], 1, rfl, .refl _⟩
  | cons l inner ih =>
    obtain ⟨fresh, others⟩ := List.nodup_cons.mp distinct
    exact funnelled_layer fresh (ih others)

end Chain

end CallGuard
