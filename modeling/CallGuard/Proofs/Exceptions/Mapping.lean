import CallGuard.Catalog.Samples
import CallGuard.Proofs.Context.Series
import CallGuard.Proofs.Retry.Attempts

/-!
# Mappers replace what may leave

Mappers are looked up in their order, and the first one that is not found, or that makes faults the
method does not declare, ends it: `MapperSource.Finds`, `Misses` and `Refuses` say what that comes to.
The mappers that have been found are offered every fault of a call, in the same order, and
`Mapper.Remaps` says what leaves. Main statement: `Mapper.maps_as_declared`.
-/

namespace CallGuard

/-- The instance that the context of that number keeps for the type. -/
def World.instance? (w : World) (context : Nat) (type : String) : Option Instance :=
  ((w.contexts[context]?).getD default).instances.find? type

variable {context : Nat} {m : Method} {i : Instance} {u v w : World} {halt : Halt}

/-! ### What is looked up -/

namespace Context

variable {type : String} {make : Build Instance}

theorem run_fetch_kept (kept : u.instance? context type = some i) :
    (fetch context type make).run.run u = (.ok i, u) := by
  unfold World.instance? at kept
  rw [fetch, Build.run_bind, Build.run_read]
  simp only [kept]
  rfl

theorem run_fetch_absent (absent : u.instance? context type = none) :
    (fetch context type make).run.run u = match make.run.run u with
      | (.ok i, v) => (.ok i, ((keep context type i).run v).2)
      | (.error halt, v) => (.error halt, v) := by
  unfold World.instance? at absent
  rw [fetch, Build.run_bind, Build.run_read]
  simp only [absent]
  rw [Build.run_bind]
  obtain ⟨_ | i, v⟩ := make.run.run u <;> rfl

end Context

namespace InstanceRef

variable {ref : InstanceRef}

/-- What comes of looking the reference up: the instance that is kept for the type, or else one that is
made by the recipe and kept from then on. -/
inductive Yields (context : Nat) (ref : InstanceRef) (u : World) :
    Except Halt Instance → World → Prop where
  | kept {i : Instance} (kept : u.instance? context ref.type = some i) :
      Yields context ref u (.ok i) u
  | noDefault (absent : u.instance? context ref.type = none) (none : ref.recipe = none) :
      Yields context ref u (.error (.fault (.noDefault ref.type))) u
  | made {recipe : Recipe} {i : Instance} {v : World}
      (absent : u.instance? context ref.type = none) (constructible : ref.recipe = some recipe)
      (made : (recipe.make context ref.type).run.run u = (.ok i, v)) :
      Yields context ref u (.ok i) ((Context.keep context ref.type i).run v).2
  | unmade {recipe : Recipe} {halt : Halt} {v : World}
      (absent : u.instance? context ref.type = none) (constructible : ref.recipe = some recipe)
      (failed : (recipe.make context ref.type).run.run u = (.error halt, v)) :
      Yields context ref u (.error (halt.constructing ref.type)) v

theorem run_lookup_iff {result : Except Halt Instance} :
    (ref.lookup context).run.run u = (result, v) ↔ ref.Yields context u result v := by
  constructor
  · intro ran
    rw [lookup] at ran
    cases stored : u.instance? context ref.type with
    | some i =>
      rw [Context.run_fetch_kept stored] at ran
      cases ran
      exact .kept stored
    | none =>
      rw [Context.run_fetch_absent stored, construct] at ran
      cases constructible : ref.recipe with
      | none =>
        rw [constructible] at ran
        cases ran
        exact .noDefault stored constructible
      | some recipe =>
        simp only [constructible, Context.run_constructing] at ran
        rcases made : (recipe.make context ref.type).run.run u with ⟨_ | i, w⟩
        · rw [made] at ran
          cases ran
          exact .unmade stored constructible made
        · rw [made] at ran
          cases ran
          exact .made stored constructible made
  · rintro (stored | ⟨absent, none⟩ | ⟨absent, constructible, made⟩ | ⟨absent, constructible, failed⟩)
    · exact Context.run_fetch_kept stored
    · rw [lookup, Context.run_fetch_absent absent, construct]
      simp only [none]
      rfl
    · rw [lookup, Context.run_fetch_absent absent, construct]
      simp only [constructible, Context.run_constructing, made]
      rfl
    · rw [lookup, Context.run_fetch_absent absent, construct]
      simp only [constructible, Context.run_constructing, failed]
      rfl

end InstanceRef

/-- Shared texts are no mappers. -/
theorem Instance.not_mapper_of_shareText {s : String}
    (ran : (shareText s).run.run u = (.ok i, v)) : i.mapper? = none := by
  cases ran
  rfl

theorem Sample.not_mapper_of_extend {key suffix : String} {shared : Instance}
    (ran : (extend key shared suffix).run.run u = (.ok i, v)) : i.mapper? = none := by
  unfold extend at ran
  split at ran
  next => exact Instance.not_mapper_of_shareText ran
  next => cases ran

theorem Sample.not_mapper_of_make {key : String} {sample : Sample}
    (ran : (sample.make context key).run.run u = (.ok i, v)) : i.mapper? = none := by
  unfold make at ran
  obtain ⟨_, w, -, ran⟩ := Build.bind_ok_iff.mp ran
  obtain ⟨before, x, -, ran⟩ := Build.bind_ok_iff.mp ran
  cases sample with
  | text s => exact Instance.not_mapper_of_shareText ran
  | number n =>
    cases ran
    rfl
  | failing message => cases ran
  | flaky failures s =>
    dsimp only at ran
    split at ran
    · cases ran
    · exact Instance.not_mapper_of_shareText ran
  | suffixed other base suffix =>
    obtain ⟨_, y, -, ran⟩ := Build.bind_ok_iff.mp ran
    exact not_mapper_of_extend ran
  | suffixedRegistered other suffix =>
    obtain ⟨_, y, -, ran⟩ := Build.bind_ok_iff.mp ran
    exact not_mapper_of_extend ran

namespace Recipe

/-- What is written down about making the instance. -/
def notes (type : String) (r : Recipe) : List Entry :=
  if r.announced then [.constructed type] else []

theorem run_make_mapper (context : Nat) (type : String) (announced : Bool) (mapper : Mapper)
    (u : World) :
    (make context type ⟨announced, .mapper mapper⟩).run.run u =
      (.ok (.mapper mapper), u.append (notes type ⟨announced, .mapper mapper⟩)) := by
  cases announced with
  | true =>
    change _ = (_, u.append [.constructed type])
    rw [← World.write_eq_append]
    rfl
  | false =>
    change _ = (_, u.append [])
    rw [World.append_nil]
    rfl

theorem make_mapper_iff {type : String} {r : Recipe} {mapper : Mapper} :
    (r.make context type).run.run u = (.ok (.mapper mapper), v) ↔
      r.product = .mapper mapper ∧ v = u.append (r.notes type) := by
  obtain ⟨announced, product⟩ := r
  cases product with
  | sample s =>
    constructor
    · intro ran
      cases Sample.not_mapper_of_make ran
    · rintro ⟨⟨⟩, -⟩
  | service | provider =>
    constructor
    · intro ran
      cases announced <;> cases ran
    · rintro ⟨⟨⟩, -⟩
  | mapper made =>
    rw [run_make_mapper]
    constructor
    · rintro ⟨⟩
      exact ⟨rfl, rfl⟩
    · rintro ⟨⟨⟩, rfl⟩
      rfl

end Recipe

/-! ### Mappers of the policy -/

/-- The mapper makes only faults that the method may end with. -/
def Mapper.Fits (mapper : Mapper) (m : Method) : Prop :=
  ∀ kind, mapper.output = .checked kind → m.declares kind = true

theorem Mapper.fits_or_undeclared (mapper : Mapper) (m : Method) :
    mapper.Fits m ∨ ∃ kind, mapper.output = .checked kind ∧ m.declares kind = false := by
  unfold Fits
  cases mapper.output with
  | unchecked => exact .inl nofun
  | checked kind =>
    cases declared : m.declares kind with
    | true =>
      refine .inl ?_
      rintro _ ⟨⟩
      exact declared
    | false => exact .inr ⟨kind, rfl, declared⟩

namespace MapperSource

variable {s : MapperSource} {mapper : Mapper} {type : String}

/-- The mapper of the source is found: it is the one that is given, or the one that is kept for its
type, or, when nothing is kept for the type, it is made by default and kept from then on. -/
inductive Finds (context : Nat) : MapperSource → World → Mapper → World → Prop where
  | given (type : String) (mapper : Mapper) (u : World) :
      Finds context (.given type mapper) u mapper u
  | registered {ref : InstanceRef} {mapper : Mapper} {u : World}
      (kept : u.instance? context ref.type = some (.mapper mapper)) :
      Finds context (.managed ref) u mapper u
  | constructed {ref : InstanceRef} {recipe : Recipe} {mapper : Mapper} {u : World}
      (absent : u.instance? context ref.type = none) (constructible : ref.recipe = some recipe)
      (product : recipe.product = .mapper mapper) :
      Finds context (.managed ref) u mapper
        ((Context.keep context ref.type (.mapper mapper)).run (u.append (recipe.notes ref.type))).2

/-- The mapper of the source is not found: nothing can be looked up under its type, or what is there
is no mapper. -/
inductive Misses (context : Nat) : MapperSource → World → Halt → World → Prop where
  | nothing {ref : InstanceRef} {u v : World} {halt : Halt}
      (failed : ref.Yields context u (.error halt) v) : Misses context (.managed ref) u halt v
  | otherRole {ref : InstanceRef} {u v : World} {i : Instance}
      (found : ref.Yields context u (.ok i) v) (role : i.mapper? = none) :
      Misses context (.managed ref) u (.fault (.wrongType ref.type Instance.mapperRole)) v

/-- The mapper is found and fits the method. -/
def Takes (context : Nat) (m : Method) (s : MapperSource) (u : World) (mapper : Mapper)
    (v : World) : Prop :=
  s.Finds context u mapper v ∧ mapper.Fits m

/-- The mapper is not found, or it is and makes faults that the method does not declare. -/
inductive Refuses (context : Nat) (m : Method) (s : MapperSource) (u : World) :
    Halt → World → Prop where
  | missed {halt : Halt} {v : World} (misses : s.Misses context u halt v) :
      Refuses context m s u halt v
  | undeclared {mapper : Mapper} {kind : FaultKind} {v : World}
      (finds : s.Finds context u mapper v) (output : mapper.output = .checked kind)
      (undeclared : m.declares kind = false) :
      Refuses context m s u (.fault (.incompatibleMapper s.type kind.name m.display)) v

/-- The mapper of the source, whatever it makes. -/
def seek (context : Nat) : MapperSource → Build Mapper
  | .managed ref => ref.lookupAs context Instance.mapper? Instance.mapperRole
  | .given _ mapper => pure mapper

/-- The mapper, if it makes only what the method may end with. -/
def check (m : Method) (type : String) (mapper : Mapper) : Build Mapper :=
  match mapper.output with
  | .unchecked => return mapper
  | .checked kind =>
    if m.declares kind then return mapper
    else Build.fail (.incompatibleMapper type kind.name m.display)

theorem resolve_eq (context : Nat) (m : Method) (s : MapperSource) :
    s.resolve context m = s.seek context >>= check m s.type := by
  cases s <;> rfl

theorem seek_ok_iff : (s.seek context).run.run u = (.ok mapper, v) ↔ s.Finds context u mapper v := by
  cases s with
  | given type given =>
    rw [seek, Build.pure_ok_iff]
    constructor
    · rintro ⟨rfl, rfl⟩
      exact .given type mapper v
    · rintro ⟨⟩
      exact ⟨rfl, rfl⟩
  | managed ref =>
    rw [seek, InstanceRef.lookupAs, Build.bind_ok_iff]
    simp only [InstanceRef.run_lookup_iff]
    constructor
    · rintro ⟨i, w, found, fits⟩
      cases i with
      | mapper found =>
        cases fits
        rcases found with kept | _ | ⟨absent, constructible, made⟩
        · exact .registered kept
        · obtain ⟨product, rfl⟩ := Recipe.make_mapper_iff.mp made
          exact .constructed absent constructible product
      | service | provider | text | number | word => cases fits
    · rintro (_ | kept | ⟨absent, constructible, product⟩)
      · exact ⟨_, _, .kept kept, rfl⟩
      · exact ⟨_, _, .made absent constructible (Recipe.make_mapper_iff.mpr ⟨product, rfl⟩), rfl⟩

theorem seek_error_iff :
    (s.seek context).run.run u = (.error halt, v) ↔ s.Misses context u halt v := by
  cases s with
  | given type given =>
    constructor
    · exact fun failed => absurd failed Build.pure_error_iff
    · rintro ⟨⟩
  | managed ref =>
    rw [seek, InstanceRef.lookupAs, Build.bind_error_iff]
    simp only [InstanceRef.run_lookup_iff]
    constructor
    · rintro (failed | ⟨i, w, found, unfit⟩)
      · exact .nothing failed
      · cases role : i.mapper? with
        | some mapper =>
          rw [role] at unfit
          cases unfit
        | none =>
          rw [role] at unfit
          cases unfit
          exact .otherRole found role
    · rintro (failed | ⟨found, role⟩)
      · exact .inl failed
      · refine .inr ⟨_, _, found, ?_⟩
        rw [role]
        rfl

theorem check_of_fits (type : String) (fits : mapper.Fits m) : check m type mapper = pure mapper := by
  unfold check
  cases output : mapper.output with
  | unchecked => rfl
  | checked kind => exact if_pos (fits kind output)

theorem check_of_undeclared (type : String) {kind : FaultKind} (output : mapper.output = .checked kind)
    (undeclared : m.declares kind = false) :
    check m type mapper = Build.fail (.incompatibleMapper type kind.name m.display) := by
  unfold check
  rw [output]
  exact if_neg (by rw [undeclared]; decide)

theorem resolve_ok_iff :
    (s.resolve context m).run.run u = (.ok mapper, v) ↔ s.Takes context m u mapper v := by
  simp only [resolve_eq, Build.bind_ok_iff, seek_ok_iff]
  constructor
  · rintro ⟨found, w, finds, checked⟩
    rcases found.fits_or_undeclared m with fits | ⟨kind, output, undeclared⟩
    · rw [check_of_fits s.type fits, Build.pure_ok_iff] at checked
      obtain ⟨rfl, rfl⟩ := checked
      exact ⟨finds, fits⟩
    · rw [check_of_undeclared s.type output undeclared] at checked
      cases checked
  · rintro ⟨finds, fits⟩
    refine ⟨mapper, v, finds, ?_⟩
    rw [check_of_fits s.type fits, Build.pure_ok_iff]
    exact ⟨rfl, rfl⟩

theorem resolve_error_iff :
    (s.resolve context m).run.run u = (.error halt, v) ↔ s.Refuses context m u halt v := by
  simp only [resolve_eq, Build.bind_error_iff, seek_ok_iff, seek_error_iff]
  constructor
  · rintro (misses | ⟨found, w, finds, checked⟩)
    · exact .missed misses
    · rcases found.fits_or_undeclared m with fits | ⟨kind, output, undeclared⟩
      · rw [check_of_fits s.type fits] at checked
        cases checked
      · rw [check_of_undeclared s.type output undeclared] at checked
        cases checked
        exact .undeclared finds output undeclared
  · rintro (misses | ⟨finds, output, undeclared⟩)
    · exact .inl misses
    · refine .inr ⟨_, _, finds, ?_⟩
      rw [check_of_undeclared s.type output undeclared]
      rfl

theorem makes_resolve : Build.Makes (resolve context m) = Takes context m := by
  funext s u mapper v
  exact propext resolve_ok_iff

end MapperSource

/-! ### Mappers at work -/

namespace Mapper

variable {mappers declined later : List Mapper} {mapper : Mapper} {e replacement : Fault}
  {reply : Reply}

/-- What is written down when the mapper is offered the fault. -/
def question (e : Fault) (mapper : Mapper) : Entry :=
  .mapperAsked mapper.announced mapper.name e

/-- What leaves in place of the reply of the guarded call, and the mapper that has replaced it. Only
faults are offered to the mappers, and the first one that replaces a fault is the last that is asked
about it. -/
inductive Remaps (mappers : List Mapper) : Reply → World → Option Mapper → Reply → World → Prop where
  | crashed (text : String) (w : World) : Remaps mappers (.crashed text) w none (.crashed text) w
  | value (x : Value) (w : World) :
      Remaps mappers (.ended (.value x)) w none (.ended (.value x)) w
  | kept {e : Fault} {w : World} (declines : ∀ mapper ∈ mappers, mapper.replace? e = none) :
      Remaps mappers (.ended (.fault e)) w
        none (.ended (.fault e)) (w.append (mappers.map (question e)))
  | replaced {e replacement : Fault} {w : World} {declined later : List Mapper} {mapper : Mapper}
      (order : mappers = declined ++ mapper :: later)
      (declines : ∀ mapper ∈ declined, mapper.replace? e = none)
      (replaces : mapper.replace? e = some replacement) :
      Remaps mappers (.ended (.fault e)) w
        (some mapper) (.ended (.fault replacement)) (w.append ((declined ++ [mapper]).map (question e)))

theorem run_replaceFirst_declined (declines : mapper.replace? e = none) (w : World) :
    (replaceFirst e (mapper :: later)).run w =
      (replaceFirst e later).run (w.append [mapper.question e]) := by
  rw [replaceFirst, Act.run_bind, Act.run_write, declines]
  rfl

theorem run_replaceFirst_nobody (declines : ∀ mapper ∈ mappers, mapper.replace? e = none)
    (w : World) :
    (replaceFirst e mappers).run w = (e, w.append (mappers.map (question e))) := by
  induction mappers generalizing w with
  | nil => rw [replaceFirst, Act.run_pure, List.map_nil, World.append_nil]
  | cons mapper later ih =>
    obtain ⟨here, there⟩ := List.forall_mem_cons.mp declines
    rw [run_replaceFirst_declined here, ih there, World.append_append]
    rfl

theorem run_replaceFirst_first (declines : ∀ mapper ∈ declined, mapper.replace? e = none)
    (replaces : mapper.replace? e = some replacement) (w : World) :
    (replaceFirst e (declined ++ mapper :: later)).run w =
      (replacement, w.append ((declined ++ [mapper]).map (question e))) := by
  induction declined generalizing w with
  | nil =>
    rw [List.nil_append, replaceFirst, Act.run_bind, Act.run_write, replaces]
    rfl
  | cons before declined ih =>
    obtain ⟨here, there⟩ := List.forall_mem_cons.mp declines
    rw [List.cons_append, run_replaceFirst_declined here, ih there, World.append_append]
    rfl

theorem run_remap_iff {last : Reply} :
    (remap mappers last).run u = (reply, v) ↔ ∃ who, Remaps mappers last u who reply v := by
  constructor
  · intro ran
    match last with
    | .crashed text =>
      cases ran
      exact ⟨none, .crashed text u⟩
    | .ended (.value x) =>
      cases ran
      exact ⟨none, .value x u⟩
    | .ended (.fault e) =>
      rw [remap, Act.run_bind] at ran
      cases first : mappers.findSome? fun mapper => mapper.replace? e with
      | none =>
        have declines := List.findSome?_eq_none_iff.mp first
        rw [run_replaceFirst_nobody declines] at ran
        cases ran
        exact ⟨none, .kept declines⟩
      | some replacement =>
        obtain ⟨declined, mapper, later, order, replaces, declines⟩ :=
          List.findSome?_eq_some_iff.mp first
        rw [order, run_replaceFirst_first declines replaces] at ran
        cases ran
        exact ⟨some mapper, .replaced order declines replaces⟩
  · rintro ⟨who, _ | _ | declines | ⟨order, declines, replaces⟩⟩
    · rfl
    · rfl
    · rw [remap, Act.run_bind, run_replaceFirst_nobody declines]
      rfl
    · rw [remap, Act.run_bind, order, run_replaceFirst_first declines replaces]
      rfl

/-- Mappers that are taken for a method make only what the method may end with. -/
theorem fits_of_takes {sources : List MapperSource}
    (each : Build.Each (MapperSource.Takes context m) u sources mappers v) :
    ∀ mapper ∈ mappers, mapper.Fits m := by
  induction each with
  | nil => exact List.forall_mem_nil _
  | cons takes _ ih => exact List.forall_mem_cons.mpr ⟨takes.2, ih⟩

theorem Remaps.mem {last : Reply} (remaps : Remaps mappers last u (some mapper) reply v) :
    mapper ∈ mappers := by
  cases remaps with
  | replaced order => exact order ▸ List.mem_append_cons_self

variable (mappers)

/-- A direct call ends with what leaves in place of its reply. -/
theorem run_direct_iff (call : Direct) (args : Args) :
    (direct mappers call args).run u = (reply, v) ↔
      ∃ last w, (call args).run u = (last, w) ∧ ∃ who, Remaps mappers last w who reply v := by
  simp only [direct, Act.run_bind_iff, run_remap_iff]

/-- A deferred call goes to what leaves in place of the reply that it has gone to. -/
theorem goes_iff {W : Type} (future : Deferred W) (progress : Progress W × World) :
    (deferred mappers future).Goes ((onward mappers progress.1).run progress.2) (reply, v) ↔
      ∃ last w, future.Goes progress (last, w) ∧ ∃ who, Remaps mappers last w who reply v := by
  have wraps : (deferred mappers future).Wraps future id (onward mappers) :=
    ⟨fun _ => rfl, fun _ => rfl⟩
  rw [wraps.goes_iff]
  simp only [← run_remap_iff, onward, Act.run_bind, Act.run_pure, Deferred.goes_done_iff]
  constructor
  · rintro ⟨last, w, goes, ended⟩
    exact ⟨last, w, goes, ended.symm⟩
  · rintro ⟨last, w, goes, ended⟩
    exact ⟨last, w, goes, ended.symm⟩

/-- **Mappers replace what may leave.** The mappers of a policy are resolved when each of them, in the
world that those before it have left, is found and fits the method. Otherwise it is the first of them
that fails, in its own way, and nothing happens after that. Around a call of either shape, a fault is
offered to the mappers that were resolved until one replaces it, and everything else passes. What a
mapper of declared faults puts in place of another fault leaves a method that declares it. -/
theorem maps_as_declared (context : Nat) (m : Method) (sources : List MapperSource) (u : World) :
    (∀ (resolved : ResolvedStage) (v : World),
      ((Policy.exceptions sources).resolve context m).run.run u = (.ok resolved, v) ↔
        ∃ mappers, resolved = .exceptions mappers ∧
          Build.Each (MapperSource.Takes context m) u sources mappers v) ∧
    (∀ (halt : Halt) (v : World),
      ((Policy.exceptions sources).resolve context m).run.run u = (.error halt, v) ↔
        ∃ before source later mappers w, sources = before ++ source :: later ∧
          Build.Each (MapperSource.Takes context m) u before mappers w ∧
          source.Refuses context m w halt v) ∧
    ∀ (mappers : List Mapper) (v : World),
      Build.Each (MapperSource.Takes context m) u sources mappers v →
        (∀ (call : Direct) (args : Args) (w : World) (reply : Reply) (x : World),
          (direct mappers call args).run w = (reply, x) ↔
            ∃ last y, (call args).run w = (last, y) ∧ ∃ who, Remaps mappers last y who reply x) ∧
        (∀ {W : Type} (future : Deferred W),
          (deferred mappers future).start = future.start ∧
          ∀ (memory : W) (w : World) (reply : Reply) (x : World),
            (deferred mappers future).Goes (.waiting memory, w) (reply, x) ↔
              ∃ last y, future.Goes (.waiting memory, w) (last, y) ∧
                ∃ who, Remaps mappers last y who reply x) ∧
        ∀ (last : Reply) (w : World) (mapper : Mapper) (reply : Reply) (x : World),
          Remaps mappers last w (some mapper) reply x →
            ∀ kind, mapper.output = .checked kind → m.declares kind = true := by
  refine ⟨?_, ?_, ?_⟩
  · intro resolved v
    rw [Policy.resolve, Build.bind_ok_iff]
    simp only [Build.mapM_ok_iff, MapperSource.makes_resolve, Build.pure_ok_iff]
    constructor
    · rintro ⟨mappers, w, each, rfl, rfl⟩
      exact ⟨mappers, rfl, each⟩
    · rintro ⟨mappers, rfl, each⟩
      exact ⟨mappers, v, each, rfl, rfl⟩
  · intro halt v
    rw [Policy.resolve, Build.bind_error_iff]
    simp only [Build.mapM_error_iff, MapperSource.makes_resolve, MapperSource.resolve_error_iff,
      Build.pure_error_iff, and_false, exists_false, or_false]
  · intro mappers v each
    refine ⟨?_, ?_, ?_⟩
    · intro call args w reply x
      exact run_direct_iff mappers call args
    · intro W future
      refine ⟨rfl, ?_⟩
      intro memory w reply x
      exact goes_iff mappers future (.waiting memory, w)
    · intro last w mapper reply x remaps
      exact fits_of_takes each mapper remaps.mem

/-- A mapper that declines, one that makes checked faults, and one that is not asked about any fault,
since the second one replaces them all. They are made by default; of the last two it is written down. -/
def offered : List MapperSource :=
  [.managed (Catalog.mapperRef Catalog.decliner false),
    .managed (Catalog.mapperRef Catalog.toChecked true),
    .managed (Catalog.mapperRef (Catalog.tagger "tag") true)]

/-- A context that keeps nothing, and a service that fails. -/
def bare : World :=
  { World.empty with
    contexts := #[.empty none .inner]
    services := #[⟨"target", [.ofEnding (.fault (.io "closed"))], 0⟩] }

/-- For a method that declares checked faults all three are resolved, and the second one replaces the
fault. For one that declares none the second one is refused, and the third is not made. -/
theorem maps_as_declared_offered :
    let mappers := [Catalog.decliner, Catalog.toChecked, Catalog.tagger "tag"]
    let call := Catalog.put.direct (fun _ => pure (.crashed "")) 0
    (∃ v, ((Policy.exceptions offered).resolve 0 Catalog.put.method).run.run bare =
        (.ok (.exceptions mappers), v) ∧
      v.history = [.constructed "ToChecked", .constructed "Tagger"] ∧
      ((direct mappers call ⟨"key", 1⟩).run v).1 = .ended (.fault (.checked "closed")) ∧
      (∃ last w, (call ⟨"key", 1⟩).run v = (last, w) ∧
        ∃ who, Remaps mappers last w who (.ended (.fault (.checked "closed")))
          ((direct mappers call ⟨"key", 1⟩).run v).2) ∧
      ∀ kind, Catalog.toChecked.output = .checked kind →
        Catalog.put.method.declares kind = true) ∧
    ∃ v, ((Policy.exceptions offered).resolve 0 Catalog.get.method).run.run bare =
        (.error (.fault (.incompatibleMapper "ToChecked" "Checked" "Svc::get(String)")), v) ∧
      v.history = [.constructed "ToChecked"] := by
  intro mappers call
  obtain ⟨resolves, -, works⟩ := maps_as_declared 0 Catalog.put.method offered bare
  obtain ⟨found, same, each⟩ := (resolves (.exceptions mappers) _).mp rfl
  cases same
  obtain ⟨directly, -, declared⟩ := works mappers _ each
  have order : mappers = [Catalog.decliner] ++ Catalog.toChecked :: [Catalog.tagger "tag"] := rfl
  have replaced : Remaps mappers (.ended (.fault (.io "closed"))) bare (some Catalog.toChecked)
      (.ended (.fault (.checked "closed")))
      (bare.append [question (.io "closed") Catalog.decliner,
        question (.io "closed") Catalog.toChecked]) :=
    .replaced order (List.forall_mem_singleton.mpr rfl) rfl
  refine ⟨⟨_, rfl, by decide +kernel, by decide +kernel, ?_, ?_⟩, _, rfl, by decide +kernel⟩
  · exact (directly call ⟨"key", 1⟩ _ _ _).mp rfl
  · exact declared _ _ _ _ _ replaced

end Mapper

namespace MapperSource

/-- The mapper of the source is at hand: it is given, or kept for its type, or can be made. -/
def Available (context : Nat) (w : World) (mapper : Mapper) : MapperSource → Prop
  | .given _ own => own = mapper
  | .managed ref => w.instance? context ref.type = some (.mapper mapper) ∨
      ∃ recipe, ref.recipe = some recipe ∧ recipe.product = .mapper mapper

/-- A context that keeps, for the type of a mapper, something that is no mapper. -/
def occupied : World :=
  { World.empty with
    contexts := #[{ Context.empty none .inner with
      instances := Registry.empty.insert "Tagger" .word }] }

/-- A mapper that can be made is not made while something else is kept for its type. -/
theorem available_is_not_resolved :
    let sources := [.managed (Catalog.mapperRef (Catalog.tagger "tag") true)]
    ¬ ((∃ resolved v, ((Policy.exceptions sources).resolve 0 Catalog.get.method).run.run occupied =
        (.ok resolved, v)) ↔
      ∀ s ∈ sources, ∃ mapper, s.Available 0 occupied mapper ∧ mapper.Fits Catalog.get.method) := by
  intro sources resolves
  have refused : ((Policy.exceptions sources).resolve 0 Catalog.get.method).run.run occupied =
      (.error (.fault (.wrongType "Tagger" Instance.mapperRole)), occupied) := rfl
  have available : ∀ s ∈ sources, ∃ mapper, s.Available 0 occupied mapper ∧
      mapper.Fits Catalog.get.method :=
    List.forall_mem_singleton.mpr
      ⟨Catalog.tagger "tag", .inr ⟨_, rfl, rfl⟩, nofun⟩
  obtain ⟨resolved, v, ran⟩ := resolves.mpr available
  rw [refused] at ran
  cases ran

end MapperSource

end CallGuard
