import CallGuard.Proxy.Call

/-!
# Sessions

A session runs deferred calls side by side. The calls that live are kept in the order in which they
were started. To settle is to poll all of them in that order, again and again until a pass ends no
call and adds nothing that reports show; a session that is about to settle first gives dedicated
schedulers the time for which calls wait on them. While calls live the clock moves by one millisecond
at a time, and the session settles after each.
-/

namespace CallGuard

/-- A deferred call that has not ended. A held one is not polled. -/
structure Live where
  id : String
  held : Bool
  call : Ongoing

structure Session where
  world : World
  live : List Live
  /-- Calls that have ended since the last report. -/
  ended : List (String × Reply)
  /-- How much of the journal has been reported. -/
  reported : Nat

/-- What has happened since the report before. -/
structure Report where
  entries : List Entry
  ended : List (String × Reply)
  now : Nanos

namespace Session

/-- A session that starts in the world; its first report shows how the world came about. -/
def ofWorld (w : World) : Session := ⟨w, [], [], 0⟩

/-- Does something in the world of the session. -/
def act {α : Type} (a : Act α) (s : Session) : α × Session :=
  let (x, w) := a.run s.world
  (x, { s with world := w })

/-- Polls the calls that are not held, and says which still live and which have ended. -/
def pollEach : List Live → Act (List Live × List (String × Reply))
  | [] => return ([], [])
  | l :: rest => do
    if l.held then
      let (live, ended) ← pollEach rest
      return (l :: live, ended)
    else
      match ← l.call.poll with
      | .waiting call =>
        let (live, ended) ← pollEach rest
        return ({ l with call } :: live, ended)
      | .done reply =>
        let (live, ended) ← pollEach rest
        return (live, (l.id, reply) :: ended)

/-- Polls all calls once. -/
def pass (s : Session) : Session :=
  let ((live, ended), s) := s.act (pollEach s.live)
  { s with live := live, ended := s.ended ++ ended }

/-- Whether anything that reports show has happened since so many calls had ended and so many
entries were written. -/
def movedSince (s : Session) (ended written : Nat) : Bool :=
  ended < s.ended.length || (s.world.since written).any Entry.isShown

/-- When the first dedicated timer rings for which a call waits that is not held. -/
def nextAlarm (s : Session) : Option Nat :=
  let polled := s.live.filter fun l => !l.held
  (polled.filterMap fun l => l.call.timer.bind Timer.dedicatedDue?).min?

/-- Settles in at most that many passes. -/
def settleWithin : Nat → Session → Session
  | 0, s => s
  | n + 1, s =>
    let next := s.pass
    if next.movedSince s.ended.length s.world.written then settleWithin n next
    else match next.nextAlarm with
      | some due =>
        settleWithin n { next with world := next.world.outwait (.set .dedicated due) }
      | none => next

/-- More passes than any session takes to settle. -/
def passLimit : Nat := 1000000

def settle (s : Session) : Session := settleWithin passLimit s

/-- Lets the clock run and settles. -/
def tick (s : Session) (d : Nanos) : Session := { s with world := s.world.pass d }.settle

/-- Lets that many milliseconds pass, and the rest in one. -/
def walk (rest : Nanos) : Nat → Session → Session
  | 0, s => if rest = 0 then s else s.tick rest
  | n + 1, s =>
    if s.live.isEmpty then s.tick ((n + 1) * Nanos.perMilli + rest)
    else walk rest n (s.tick Nanos.perMilli)

def advance (s : Session) (d : Nanos) : Session :=
  walk (d % Nanos.perMilli) (d / Nanos.perMilli) s

def isLive (s : Session) (id : String) : Bool := s.live.any fun l => l.id = id

/-- Lets at most that many milliseconds pass while the call lives. -/
def joinWithin (id : String) : Nat → Session → Session
  | 0, s => s
  | n + 1, s => if s.isLive id then joinWithin id n (s.tick Nanos.perMilli) else s

/-- How many milliseconds a call is waited for. -/
def patience : Nat := 5000

def join (s : Session) (id : String) : Session := joinWithin id patience s

def openGate (s : Session) (gate : String) : Session :=
  { s with world := { s.world with gates := gate :: s.world.gates } }

/-- Lets a held call go. -/
def release (s : Session) (id : String) : Session :=
  { s with live := s.live.map fun l => if l.id = id then { l with held := false } else l }

/-- Drops a call, and says whether it lived. -/
def cancel (s : Session) (id : String) : Bool × Session :=
  match s.live.find? fun l => l.id = id with
  | none => (false, s)
  | some l =>
    let ((), s) := s.act l.call.drop
    (true, { s with live := s.live.eraseP fun l => l.id = id })

/-- Drops all calls, the first one first. -/
def dropAll (s : Session) : Session :=
  let ((), w) := (s.live.forM fun l => l.call.drop).run s.world
  { s with world := w, live := [] }

/-- Takes a started call in; the text is that of a crash. -/
def start (s : Session) (id : String) (held : Bool) (a : Act (Except String Ongoing)) :
    Option String × Session :=
  match s.act a with
  | (.error text, s) => (some text, s)
  | (.ok call, s) => (none, { s with live := s.live ++ [⟨id, held, call⟩] })

/-- Settles and reports. -/
def report (s : Session) : Report × Session :=
  let s := s.settle
  let entries := (s.world.since s.reported).filter Entry.isShown
  (⟨entries, s.ended, s.world.now⟩,
    { s with ended := [], reported := s.world.written })

end Session

end CallGuard
