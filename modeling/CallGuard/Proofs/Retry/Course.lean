import CallGuard.Proofs.Acts
import CallGuard.Retry.Call
import Mathlib.Order.Bounds.Defs
import Mathlib.Tactic.ByContra

/-!
# The course of a retried call

A retried call is a course of attempts with pauses between them. Nothing here depends on how an
attempt is made or how a pause is waited out. Main statement: `decides_iff`, that a call that goes on
attempt by attempt ends at the first attempt that is not retried or is the last one allowed.
-/

namespace CallGuard

namespace RetryConfig

/-- What is retried: every fault when nothing is listed and no filter is set, a fault of a listed
kind, and whatever a filter accepts. -/
inductive Retried (c : RetryConfig) : Outcome → Prop where
  | unfiltered {e : Fault} (unlisted : c.kinds = []) (unset : c.faultFilter = none) :
      Retried c (.fault e)
  | listed {e : Fault} {kind : FaultKind} (mem : kind ∈ c.kinds) (isOf : e.isOf kind) :
      Retried c (.fault e)
  | accepted {e : Fault} {filter : Fault → Bool} (set : c.faultFilter = some filter)
      (accepts : filter e) : Retried c (.fault e)
  | unwanted {v : Value} {filter : Value → Bool} (set : c.valueFilter = some filter)
      (accepts : filter v) : Retried c (.value v)

variable {c : RetryConfig}

/-- A filter that is set accepts. -/
private theorem exists_accepts {A : Type} {filter : Option (A → Bool)} {a : A} :
    filter.any (· a) ↔ ∃ f, filter = some f ∧ f a := by
  cases filter <;> simp

theorem retriesFault_iff {e : Fault} : c.retriesFault e ↔ c.Retried (.fault e) := by
  unfold retriesFault
  constructor
  · intro h
    split at h
    next bare =>
      obtain ⟨unlisted, unset⟩ := Bool.and_eq_true_iff.mp bare
      exact .unfiltered (List.isEmpty_iff.mp unlisted) (Option.isNone_iff_eq_none.mp unset)
    next =>
      rcases Bool.or_eq_true_iff.mp h with any | any
      · obtain ⟨kind, mem, isOf⟩ := List.any_eq_true.mp any
        exact .listed mem isOf
      · obtain ⟨filter, set, accepts⟩ := exists_accepts.mp any
        exact .accepted set accepts
  · rintro (⟨unlisted, unset⟩ | ⟨mem, isOf⟩ | ⟨set, accepts⟩)
    · rw [if_pos (by rw [unlisted, unset]; rfl)]
    · rw [if_neg (by simp [List.ne_nil_of_mem mem]), List.any_eq_true.mpr ⟨_, mem, isOf⟩]
      rfl
    · rw [if_neg (by simp [set]), set, Option.any_some, accepts, Bool.or_true]

theorem retries_iff {o : Outcome} : c.retries o ↔ c.Retried o := by
  cases o with
  | fault e => exact retriesFault_iff
  | value v =>
    constructor
    · intro h
      obtain ⟨filter, set, accepts⟩ := exists_accepts.mp h
      exact .unwanted set accepts
    · rintro (_ | _ | _ | ⟨set, accepts⟩)
      exact exists_accepts.mpr ⟨_, set, accepts⟩

instance : DecidablePred c.Retried := fun _ => decidable_of_iff _ retries_iff

end RetryConfig

namespace Retry

variable (r : Retry)

/-- The world in which another attempt after the one of that number is announced. -/
def announced (attempts : Nat) (w : World) : World :=
  let raised := w.raise ⟨"retry_attempts_total", [("retry", r.name)]⟩
  raised.append
    (raised.reported r.name r.config.listeners (.retried attempts (r.config.interval.wait attempts)))

/-- The world in which the end of the call is counted under a label, if it is counted, and
announced. -/
def concluded (label : Option String) (h : Happening) (w : World) : World :=
  let counted := match label with
    | some label => w.raise ⟨"retry_calls_total", [("retry", r.name), ("outcome", label)]⟩
    | none => w
  counted.append (counted.reported r.name r.config.listeners h)

/-- How the last attempt ends the call, by its number and its outcome: the label it is counted under,
what is announced and what the call ends with. -/
inductive Closes (attempts : Nat) : Outcome → Option String → Happening → Outcome → Prop where
  | succeeded {v : Value} (wanted : ¬ r.config.Retried (.value v)) :
      Closes attempts (.value v) (some "success") (.succeeded attempts) (.value v)
  | ignored {e : Fault} (refused : ¬ r.config.Retried (.fault e)) :
      Closes attempts (.fault e) none .ignoredFault (.fault e)
  | failed {e : Fault} (retried : r.config.Retried (.fault e)) :
      Closes attempts (.fault e) (some "failed") (.exhausted attempts) (.fault e)
  | kept {v : Value} (retried : r.config.Retried (.value v))
      (keeps : r.config.failsWhenExhausted = false) :
      Closes attempts (.value v) none (.exhausted attempts) (.value v)
  | exceeded {v : Value} (retried : r.config.Retried (.value v))
      (fails : r.config.failsWhenExhausted = true) :
      Closes attempts (.value v) none (.exhausted attempts)
        (.fault (.maxRetriesExceeded r.name attempts))

variable {r} {attempts : Nat} {last o : Outcome} {label : Option String} {h : Happening}

/-- Every outcome ends the call in exactly one way. -/
theorem Closes.unique {label' : Option String} {h' : Happening} {o' : Outcome}
    (closes : r.Closes attempts last label h o) (other : r.Closes attempts last label' h' o') :
    label' = label ∧ h' = h ∧ o' = o := by
  cases closes with
  | succeeded wanted =>
    cases other with
    | succeeded => exact ⟨rfl, rfl, rfl⟩
    | kept retried | exceeded retried => exact absurd retried wanted
  | ignored refused =>
    cases other with
    | ignored => exact ⟨rfl, rfl, rfl⟩
    | failed retried => exact absurd retried refused
  | failed retried =>
    cases other with
    | failed => exact ⟨rfl, rfl, rfl⟩
    | ignored refused => exact absurd retried refused
  | kept retried keeps =>
    cases other with
    | kept => exact ⟨rfl, rfl, rfl⟩
    | succeeded wanted => exact absurd retried wanted
    | exceeded _ fails => exact absurd (keeps.symm.trans fails) Bool.false_ne_true
  | exceeded retried fails =>
    cases other with
    | exceeded => exact ⟨rfl, rfl, rfl⟩
    | succeeded wanted => exact absurd retried wanted
    | kept _ keeps => exact absurd (keeps.symm.trans fails) Bool.false_ne_true

theorem run_again (attempts : Nat) (w : World) :
    (r.again attempts).run w = (r.config.interval.wait attempts, r.announced attempts w) := by
  simp only [again, emit, Act.run_bind, Act.run_raise, Act.run_emit, Act.run_pure]
  rfl

/-- An outcome that is not retried is what the call ends with. -/
theorem run_accept (attempts : Nat) (accepted : ¬ r.config.Retried last) (w : World) :
    ∃ label h, r.Closes attempts last label h last ∧
      (r.accept attempts last).run w = (last, r.concluded label h w) := by
  cases last with
  | value v =>
    refine ⟨_, _, .succeeded accepted, ?_⟩
    simp only [accept, emit, Act.run_bind, Act.run_raise, Act.run_emit, Act.run_pure]
    rfl
  | fault e =>
    refine ⟨_, _, .ignored accepted, ?_⟩
    simp only [accept, emit, Act.run_bind, Act.run_emit, Act.run_pure]
    rfl

/-- An outcome that would be retried ends the call when no attempt is left. -/
theorem run_exhaust (attempts : Nat) (retried : r.config.Retried last) (w : World) :
    ∃ label h o, r.Closes attempts last label h o ∧
      (r.exhaust attempts last).run w = (o, r.concluded label h w) := by
  cases last with
  | value v =>
    cases failing : r.config.failsWhenExhausted with
    | true =>
      refine ⟨_, _, _, .exceeded retried failing, ?_⟩
      simp only [exhaust, emit, Act.run_bind, Act.run_emit, Act.run_pure, failing]
      rfl
    | false =>
      refine ⟨_, _, _, .kept retried failing, ?_⟩
      simp only [exhaust, emit, Act.run_bind, Act.run_emit, Act.run_pure, failing]
      rfl
  | fault e =>
    refine ⟨_, _, _, .failed retried, ?_⟩
    simp only [exhaust, emit, Act.run_bind, Act.run_raise, Act.run_emit, Act.run_pure]
    rfl

/-- An act that ends the call ends it in the only way there is. -/
theorem Closes.run_iff {act : Act Outcome} {w v : World} {o' : Outcome}
    (closes : r.Closes attempts last label h o') (ran : act.run w = (o', r.concluded label h w)) :
    act.run w = (o, v) ↔
      ∃ label h, r.Closes attempts last label h o ∧ v = r.concluded label h w := by
  rw [ran]
  constructor
  · rintro ⟨⟩
    exact ⟨label, h, closes, rfl⟩
  · rintro ⟨label', h', closes', rfl⟩
    obtain ⟨rfl, rfl, rfl⟩ := closes.unique closes'
    rfl

theorem run_accept_iff {w v : World} (accepted : ¬ r.config.Retried last) :
    (r.accept attempts last).run w = (o, v) ↔
      ∃ label h, r.Closes attempts last label h o ∧ v = r.concluded label h w := by
  obtain ⟨label, h, closes, ran⟩ := r.run_accept attempts accepted w
  exact closes.run_iff ran

theorem run_exhaust_iff {w v : World} (retried : r.config.Retried last) :
    (r.exhaust attempts last).run w = (o, v) ↔
      ∃ label h, r.Closes attempts last label h o ∧ v = r.concluded label h w := by
  obtain ⟨label, h, o', closes, ran⟩ := r.run_exhaust attempts retried w
  exact closes.run_iff ran

variable (r) in
/-- Every outcome ends the call somehow when the attempt of that number is the last one. -/
theorem exists_closes (attempts : Nat) (last : Outcome) :
    ∃ label h o, r.Closes attempts last label h o := by
  cases last with
  | value v =>
    by_cases retried : r.config.Retried (.value v)
    · cases failing : r.config.failsWhenExhausted with
      | true => exact ⟨_, _, _, .exceeded retried failing⟩
      | false => exact ⟨_, _, _, .kept retried failing⟩
    · exact ⟨_, _, _, .succeeded retried⟩
  | fault e =>
    by_cases retried : r.config.Retried (.fault e)
    · exact ⟨_, _, _, .failed retried⟩
    · exact ⟨_, _, _, .ignored retried⟩

/-- Attempts from the one of that number on, with a pause after each but the last: their outcomes,
and the worlds before and after. -/
inductive Course (attempt : World → Outcome → World → Prop) (pause : Nat → World → World → Prop) :
    Nat → World → List Outcome → World → Prop where
  | last {attempts : Nat} {w v : World} {o : Outcome} (attempted : attempt w o v) :
      Course attempt pause attempts w [o] v
  | more {attempts : Nat} {w v u t : World} {o : Outcome} {outcomes : List Outcome}
      (attempted : attempt w o v) (paused : pause attempts v u)
      (rest : Course attempt pause (attempts + 1) u outcomes t) :
      Course attempt pause attempts w (o :: outcomes) t

variable (r) in
/-- The call ends after as many attempts as it takes until an outcome is not retried or no more
attempts are allowed, and in the way in which the last of them ends it. -/
def Decides (attempt : World → Outcome → World → Prop) (pause : Nat → World → World → Prop)
    (w : World) (o : Outcome) (v : World) : Prop :=
  ∃ outcomes last u label h,
    Course attempt pause 1 w outcomes u ∧
    IsLeast {i | 0 < i ∧ ∃ o ∈ outcomes[i - 1]?, ¬ r.config.Retried o ∨ i = r.config.maxAttempts}
      outcomes.length ∧
    outcomes.getLast? = some last ∧
    r.Closes outcomes.length last label h o ∧
    v = r.concluded label h u

variable (r) in
/-- The attempt of that number is made, and the call ends with it or goes on after a pause. -/
inductive Proceeds (attempt : World → Outcome → World → Prop)
    (pause : Nat → World → World → Prop) : Nat → World → Outcome → World → Prop where
  | stop {attempts : Nat} {w u : World} {last o : Outcome} {label : Option String} {h : Happening}
      (attempted : attempt w last u)
      (final : ¬ r.config.Retried last ∨ attempts = r.config.maxAttempts)
      (closes : r.Closes attempts last label h o) :
      Proceeds attempt pause attempts w o (r.concluded label h u)
  | again {attempts : Nat} {w v u t : World} {retried o : Outcome} (attempted : attempt w retried v)
      (isRetried : r.config.Retried retried) (allowed : attempts ≠ r.config.maxAttempts)
      (paused : pause attempts v u) (rest : Proceeds attempt pause (attempts + 1) u o t) :
      Proceeds attempt pause attempts w o t

variable {attempt : World → Outcome → World → Prop} {pause : Nat → World → World → Prop}
  {w v : World}

variable (r attempt pause) in
/-- What becomes of the call when the attempt of that number has had its outcome. -/
def Settles (attempts : Nat) (last : Outcome) (u : World) (o : Outcome) (v : World) : Prop :=
  if r.config.Retried last ∧ attempts ≠ r.config.maxAttempts then
    ∃ t, pause attempts u t ∧ r.Proceeds attempt pause (attempts + 1) t o v
  else ∃ label h, r.Closes attempts last label h o ∧ v = r.concluded label h u

theorem proceeds_iff : r.Proceeds attempt pause attempts w o v ↔
    ∃ last u, attempt w last u ∧ r.Settles attempt pause attempts last u o v := by
  unfold Settles
  constructor
  · rintro (⟨attempted, final, closes⟩ | ⟨attempted, isRetried, allowed, paused, rest⟩)
    · refine ⟨_, _, attempted, ?_⟩
      rw [if_neg (by rintro ⟨retried, allowed⟩; exact final.elim (· retried) allowed)]
      exact ⟨_, _, closes, rfl⟩
    · refine ⟨_, _, attempted, ?_⟩
      rw [if_pos ⟨isRetried, allowed⟩]
      exact ⟨_, paused, rest⟩
  · rintro ⟨last, u, attempted, onto⟩
    split at onto
    next again =>
      obtain ⟨t, paused, rest⟩ := onto
      exact .again attempted again.1 again.2 paused rest
    next ends =>
      obtain ⟨label, h, closes, rfl⟩ := onto
      exact .stop attempted ((not_and_or.mp ends).imp_right not_not.mp) closes

/-- What is made attempt by attempt is a course of which only the last attempt is final. -/
theorem Proceeds.course (proceeds : r.Proceeds attempt pause attempts w o v) :
    ∃ outcomes last u label h,
      Course attempt pause attempts w (outcomes ++ [last]) u ∧
      (∀ i o, outcomes[i]? = some o →
        r.config.Retried o ∧ attempts + i ≠ r.config.maxAttempts) ∧
      (¬ r.config.Retried last ∨ attempts + outcomes.length = r.config.maxAttempts) ∧
      r.Closes (attempts + outcomes.length) last label h o ∧
      v = r.concluded label h u := by
  induction proceeds with
  | stop attempted final closes =>
    exact ⟨[], _, _, _, _, .last attempted, by simp, final, closes, rfl⟩
  | @again attempts _ _ _ _ retried _ attempted isRetried allowed paused rest ih =>
    obtain ⟨outcomes, last, u, label, h, course, before, final, closes, after⟩ := ih
    have count : attempts + (retried :: outcomes).length = attempts + 1 + outcomes.length := by
      rw [List.length_cons]
      omega
    refine ⟨retried :: outcomes, last, u, label, h, .more attempted paused course, ?_, ?_, ?_, after⟩
    · intro i o found
      cases i with
      | zero =>
        cases found
        exact ⟨isRetried, allowed⟩
      | succ i =>
        obtain ⟨again, least⟩ := before i o found
        exact ⟨again, by omega⟩
    · rw [count]
      exact final
    · rw [count]
      exact closes

/-- A course of which only the last attempt is final is made attempt by attempt. -/
theorem Course.proceeds {outcomes : List Outcome} (nonempty : outcomes ≠ []) {u : World}
    (course : Course attempt pause attempts w outcomes u)
    (before : ∀ i o, i + 1 < outcomes.length → outcomes[i]? = some o →
      r.config.Retried o ∧ attempts + i ≠ r.config.maxAttempts)
    (final : ¬ r.config.Retried (outcomes.getLast nonempty) ∨
      attempts + (outcomes.length - 1) = r.config.maxAttempts)
    (closes : r.Closes (attempts + (outcomes.length - 1)) (outcomes.getLast nonempty) label h o) :
    r.Proceeds attempt pause attempts w o (r.concluded label h u) := by
  induction course with
  | last attempted => exact .stop attempted final closes
  | @more attempts _ _ _ _ first outcomes attempted paused rest ih =>
    have more : outcomes ≠ [] := by
      cases rest <;> exact List.cons_ne_nil _ _
    have positive : 0 < outcomes.length := List.length_pos_iff.mpr more
    have count : attempts + ((first :: outcomes).length - 1) =
        attempts + 1 + (outcomes.length - 1) := by
      rw [List.length_cons]
      omega
    obtain ⟨isRetried, allowed⟩ := before 0 first (by rw [List.length_cons]; omega) rfl
    refine .again attempted isRetried allowed paused (ih more ?_ ?_ ?_)
    · intro i o inside found
      obtain ⟨again, least⟩ := before (i + 1) o (by rw [List.length_cons]; omega) found
      exact ⟨again, by omega⟩
    · rw [← count, ← List.getLast_cons more]
      exact final
    · rw [← count, ← List.getLast_cons more]
      exact closes

/-- Going on attempt by attempt comes to an end where the first final outcome does. -/
theorem decides_iff : r.Decides attempt pause w o v ↔ r.Proceeds attempt pause 1 w o v := by
  constructor
  · rintro ⟨outcomes, last, u, label, h, course, ⟨⟨positive, o', found, final⟩, least⟩, isLast,
      closes, rfl⟩
    have nonempty : outcomes ≠ [] := List.length_pos_iff.mp positive
    have same : outcomes.getLast nonempty = last := by
      rw [List.getLast?_eq_some_getLast nonempty] at isLast
      exact Option.some.inj isLast
    have count : 1 + (outcomes.length - 1) = outcomes.length := by omega
    rw [← List.getLast?_eq_getElem?, isLast] at found
    cases found
    refine course.proceeds nonempty ?_ ?_ ?_
    · intro i o inside found
      by_contra ends
      -- The attempt would be final, but it comes before the first final one.
      have early : outcomes.length ≤ i + 1 :=
        least ⟨Nat.succ_pos i, o, found, by
          rcases not_and_or.mp ends with kept | reached
          · exact .inl kept
          · exact .inr (by omega)⟩
      omega
    · rw [same, count]
      exact final
    · rw [same, count]
      exact closes
  · intro proceeds
    obtain ⟨outcomes, last, u, label, h, course, before, final, closes, after⟩ := proceeds.course
    have count : (outcomes ++ [last]).length = 1 + outcomes.length := by
      rw [List.length_append, List.length_singleton, Nat.add_comm]
    refine ⟨outcomes ++ [last], last, u, label, h, course, ⟨?_, ?_⟩, by simp, ?_, after⟩
    · refine ⟨by rw [count]; omega, last, ?_, by rw [count]; exact final⟩
      rw [count]
      simp
    · rintro i ⟨positive, o, found, ends⟩
      rw [count]
      by_contra early
      have inside : outcomes[i - 1]? = some o := by
        rw [← found, List.getElem?_append_left (by omega)]
      obtain ⟨again, allowed⟩ := before (i - 1) o inside
      rcases ends with kept | reached
      · exact kept again
      · omega
    · rw [count]
      exact closes

/-- A call with so many attempts left comes to an end if attempts and pauses do. -/
theorem exists_proceeds (ends : ∀ w, ∃ o v, attempt w o v) (pauses : ∀ i w, ∃ v, pause i w v)
    (left : Nat) (count : attempts + left = r.config.maxAttempts) (w : World) :
    ∃ o v, r.Proceeds attempt pause attempts w o v := by
  induction left generalizing attempts w with
  | zero =>
    obtain ⟨last, u, attempted⟩ := ends w
    obtain ⟨label, h, o, closes⟩ := r.exists_closes attempts last
    exact ⟨o, _, .stop attempted (.inr count) closes⟩
  | succ left ih =>
    obtain ⟨last, u, attempted⟩ := ends w
    by_cases retried : r.config.Retried last
    · obtain ⟨t, paused⟩ := pauses attempts u
      obtain ⟨o, v, rest⟩ := ih (by omega : attempts + 1 + left = _) t
      exact ⟨o, v, .again attempted retried (by omega) paused rest⟩
    · obtain ⟨label, h, o, closes⟩ := r.exists_closes attempts last
      exact ⟨o, _, .stop attempted (.inl retried) closes⟩

/-- If every attempt can end and every pause be waited out, the call comes to an end. -/
theorem exists_decides (ends : ∀ w, ∃ o v, attempt w o v) (pauses : ∀ i w, ∃ v, pause i w v)
    (w : World) : ∃ o v, r.Decides attempt pause w o v := by
  have count : 1 + (r.config.maxAttempts - 1) = r.config.maxAttempts := by
    have := r.config.maxAttempts_pos
    omega
  obtain ⟨o, v, proceeds⟩ := exists_proceeds ends pauses _ count w
  exact ⟨o, v, decides_iff.mpr proceeds⟩

end Retry

end CallGuard
