import CallGuard.World

/-!
# Running acts

How an act runs is read off its parts, and what it writes is added at the end of the journal. The
lemmas here are the only ones that look into the monad; an event is what `emit_eq_append` says it is.
-/

namespace CallGuard

namespace World

/-- The world after the entries were written. -/
def append (w : World) (entries : List Entry) : World :=
  { w with journal := w.journal ++ entries.toArray }

@[simp] theorem append_nil (w : World) : w.append [] = w := by
  simp [append]

@[simp] theorem append_append (w : World) (entries more : List Entry) :
    (w.append entries).append more = w.append (entries ++ more) := by
  simp [append]

@[simp] theorem history_append (w : World) (entries : List Entry) :
    (w.append entries).history = w.history ++ entries := by
  simp [history, append]

theorem write_eq_append (w : World) (e : Entry) : w.write e = w.append [e] := by
  simp [write, append]

theorem foldl_write_eq (entries : List Entry) (w : World) :
    entries.foldl write w = w.append entries := by
  induction entries generalizing w with
  | nil => exact w.append_nil.symm
  | cons e rest ih => rw [List.foldl_cons, ih, write_eq_append, append_append, List.singleton_append]

/-- What an event of a guard and its listeners write. -/
def reported (w : World) (guard : String) (listeners : List Listener) (h : Happening) :
    List Entry :=
  .emitted ⟨guard, w.now, h⟩ ::
    (Listener.hearAll listeners h.topic).map fun label => .heard label ⟨guard, w.now, h⟩

theorem emit_eq_append (w : World) (guard : String) (listeners : List Listener) (h : Happening) :
    w.emit guard listeners h = w.append (w.reported guard listeners h) := by
  rw [← foldl_write_eq]
  simp only [emit, reported, List.foldl_cons, List.foldl_map]

/-- What is picked from a report, if not what listeners hear, is picked from the event. -/
theorem filterMap_reported {A : Type} {pick : Entry → Option A}
    (unheard : ∀ label e, pick (.heard label e) = none) (w : World) (guard : String)
    (listeners : List Listener) (h : Happening) :
    (w.reported guard listeners h).filterMap pick = (pick (.emitted ⟨guard, w.now, h⟩)).toList := by
  have heard : ∀ (labels : List String) (e : Event),
      (labels.map fun label => Entry.heard label e).filterMap pick = [] := by
    simp [unheard]
  rw [reported, List.filterMap_cons, heard]
  cases pick (.emitted ⟨guard, w.now, h⟩) with
  | none => rfl
  | some a => rfl

/-- From one world to the other only entries are added, and this is what is picked from them. -/
def Picks {A : Type} (pick : Entry → Option A) (w v : World) (picked : List A) : Prop :=
  ∃ entries, v.history = w.history ++ entries ∧ entries.filterMap pick = picked

section Picks

variable {A : Type} {pick : Entry → Option A} {u w v : World} {picked more : List A}

theorem Picks.of_history (same : v.history = w.history) : Picks pick w v [] :=
  ⟨[], same.trans (List.append_nil _).symm, rfl⟩

theorem Picks.trans (first : Picks pick u w picked) (second : Picks pick w v more) :
    Picks pick u v (picked ++ more) := by
  obtain ⟨before, begun, some⟩ := first
  obtain ⟨after, ended, others⟩ := second
  refine ⟨before ++ after, ?_, ?_⟩
  · rw [ended, begun, List.append_assoc]
  · rw [List.filterMap_append, some, others]

theorem Picks.since (h : Picks pick w v picked) :
    (v.since w.written).filterMap pick = picked := by
  obtain ⟨entries, grown, told⟩ := h
  rw [since_written grown, told]

theorem picks_write (w : World) {e : Entry} (other : pick e = none) : Picks pick w (w.write e) [] :=
  ⟨[e], w.history_write e, List.filterMap_cons_none other⟩

end Picks

end World

namespace Act

variable {A B : Type} {act : Act A} {w v : World} {a : A}

@[simp] theorem run_bind (act : Act A) (next : A → Act B) (w : World) :
    (act >>= next).run w = (next (act.run w).1).run (act.run w).2 := rfl

@[simp] theorem run_pure (a : A) (w : World) : (pure a : Act A).run w = (a, w) := rfl

@[simp] theorem run_get (w : World) : (get : Act World).run w = (w, w) := rfl

@[simp] theorem run_modify (f : World → World) (w : World) :
    (modify f : Act Unit).run w = ((), f w) := rfl

@[simp] theorem run_write (e : Entry) (w : World) : (write e).run w = ((), w.append [e]) := by
  rw [← World.write_eq_append]
  rfl

@[simp] theorem run_sleep (d : Nanos) (w : World) : (sleep d).run w = ((), w.pass d) := rfl

@[simp] theorem run_raise (metric : String) (labels : List (String × String)) (w : World) :
    (raise metric labels).run w = ((), w.raise ⟨metric, labels⟩) := rfl

@[simp] theorem run_emit (guard : String) (listeners : List Listener) (h : Happening) (w : World) :
    (emit guard listeners h).run w = ((), w.append (w.reported guard listeners h)) := by
  rw [← World.emit_eq_append]
  rfl

@[simp] theorem run_delay (s : Scheduler) (d : Nanos) (w : World) :
    (delay s d).run w = (Timer.start s (w.clock s) d, w.append [.delayAsked d]) := by
  rw [← World.write_eq_append]
  rfl

@[simp] theorem run_isOver (t : Timer) (w : World) :
    (isOver t).run w = (t.isOver w.clock, w) := rfl

@[simp] theorem run_outwait (t : Timer) (w : World) :
    (outwait t).run w = ((), w.outwait t) := rfl

/-- What follows depends on the world as it is. -/
theorem run_get_bind (next : World → Act B) (w : World) :
    ((get : Act World) >>= next).run w = (next w).run w := rfl

theorem run_bind_of {next : A → Act B} (h : act.run w = (a, v)) :
    (act >>= next).run w = (next a).run v := by
  rw [run_bind, h]

theorem run_bind_iff {next : A → Act B} {u : World} {b : B} :
    (act >>= next).run u = (b, v) ↔ ∃ a w, act.run u = (a, w) ∧ (next a).run w = (b, v) := by
  rw [run_bind]
  constructor
  · intro ran
    exact ⟨_, _, rfl, ran⟩
  · rintro ⟨a, w, first, ran⟩
    rw [first]
    exact ran

end Act

end CallGuard
