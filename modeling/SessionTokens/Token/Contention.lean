import SessionTokens.Store.Exchange
import SessionTokens.Token.Rotation

/-! # Rotations that contend

A rotation gives way to others whenever it asks the store for something, and only then. So it is a
sequence of turns: a turn is one call of the store and what the rotation makes of the answer, up to
the next call. `Rotating` says where a rotation stands between two turns, which is all that it
remembers.

A crowd is any number of rotations over one world, with other clients among them. It moves by single
turns, in any order.
-/

namespace SessionTokens

/-- Where a rotation stands: what it will ask the store for next, if it has not finished. -/
inductive Rotating where
  /-- For the mark of the token's family. -/
  | checking (old : Retired)
  /-- To run the script. -/
  | retiring (old : Retired)
  /-- To register the script, which the store has forgotten. -/
  | registering (old : Retired)
  /-- To run the script once more. -/
  | retrying (old : Retired)
  /-- To put the new token on record. -/
  | writing (new : Retired) (issued : Issued)
  /-- To renew the mark of its family. -/
  | marking (new : Retired) (issued : Issued)
  /-- For the subject's keys in a namespace, page by page, as the token is turned down. -/
  | scanning (sub : String) (why : Rejection) (ns : Namespace) (rest : List Namespace)
    (cursor : UInt64) (found : List String)
  /-- To remove keys that have been found, so many at a time. -/
  | removing (sub : String) (why : Rejection) (rest : List Namespace) (key : String)
    (keys : List String)
  | finished (result : Outcome TokenError Issued)

namespace Rotating

/-- Sweeps the namespaces, and turns the token down when they are through. -/
def sweep (sub : String) (why : Rejection) : List Namespace → Rotating
  | [] => .finished (.error (.rejected why))
  | ns :: rest => .scanning sub why ns rest 0 []

/-- Removes keys, and goes on with the other namespaces. -/
def clear (sub : String) (why : Rejection) (rest : List Namespace) : List String → Rotating
  | [] => sweep sub why rest
  | key :: keys => .removing sub why rest key keys

/-- Turns the token down, with all sessions of its subject. -/
def reject (sub : String) (why : Rejection) : Rotating := sweep sub why Namespace.session

/-- A rotation that has been asked for. -/
def start (c : Claims) : Rotating :=
  match c.sub with
  | none => .finished (.error (.rejected .structureInvalid))
  | some sub =>
    match c.jti, c.sessionId, c.family with
    | some jti, some session, some family =>
      if c.mode ≠ some .refresh then reject sub .structureInvalid
      else .checking ⟨sub, jti, session, family⟩
    | _, _, _ => reject sub .structureInvalid

/-- Goes on with an answer. A failure of the store ends the rotation. -/
def andThen (answer : Answered) (next : Answer → Rotating) : Rotating :=
  match answer with
  | .ok a => next a
  | .error e => .finished (.error (.internal e))
  | .outOfRange => .finished .outOfRange

variable (svc : Service)

/-- What it asks the store for next. -/
def call? : Rotating → Option StoreStep
  | .checking old => some (.contains (Key.family old.sub old.family))
  | .retiring old | .retrying old =>
    some (.evalScript [Key.refresh old.sub old.session, Key.used old.sub old.jti]
      [old.jti, svc.fenceText])
  | .registering _ => some .loadScript
  | .writing new _ =>
    some (.set (Key.refresh new.sub new.session) new.jti (toMillis svc.lifetimes.refresh))
  | .marking new _ =>
    some (.set (Key.family new.sub new.family) Key.familyMark (toMillis svc.lifetimes.refresh))
  | .scanning sub _ ns _ cursor _ =>
    some (.scanPage (Key.subjectPattern ns.name sub) cursor svc.batch)
  | .removing _ _ _ key keys => some (.delete (key :: keys.take (svc.batch - 1)))
  | .finished _ => none

/-- Signs the token that takes the place of a used one: in a new session of the same family. -/
def successor (old : Retired) : Action TokenError (Retired × Issued) := do
  let session ← svc.mintId
  let jti ← svc.mintId
  let exp ← Service.expiryOf svc.lifetimes.refresh
  let issued ← svc.sign (.refresh old.sub exp jti session old.family)
  return (⟨old.sub, jti, session, old.family⟩, issued)

/-- Goes on with the new token, which it signs first. -/
def succeed (w : World) (old : Retired) : Rotating × World :=
  match successor svc old w with
  | (.ok (new, issued), w') => (.writing new issued, w')
  | (.error e, w') => (.finished (.error e), w')
  | (.outOfRange, w') => (.finished .outOfRange, w')

/-- Goes on with what the script replied. -/
def replied (w : World) (old : Retired) (reply : String) : Rotating × World :=
  match Rotated.ofReply reply with
  | .ok .done => succeed svc w old
  | .ok .reused => (reject old.sub .reuseDetected, w)
  | .ok .invalid => (reject old.sub .livenessMismatch, w)
  | .error e => (.finished (.error (.internal e)), w)

/-- What the rotation makes of an answer. An answer is of the kind that the call asks for, so what
is made of others is of no account. -/
def resume (w : World) (answer : Answered) : Rotating → Rotating × World
  | .checking old =>
    (andThen answer fun
      | .flag true => .retiring old
      | .flag false => reject old.sub .familyInvalidated
      | _ => .finished .outOfRange, w)
  | .retiring old =>
    match answer with
    | .ok (.reply reply) => replied svc w old reply
    | .error e =>
      (if e.kind = .scriptNotFound then .registering old else .finished (.error (.internal e)), w)
    | _ => (.finished .outOfRange, w)
  | .registering old => (andThen answer fun _ => .retrying old, w)
  | .retrying old =>
    match answer with
    | .ok (.reply reply) => replied svc w old reply
    | _ => (andThen answer fun _ => .finished .outOfRange, w)
  | .writing new issued => (andThen answer fun _ => .marking new issued, w)
  | .marking _ issued => (andThen answer fun _ => .finished (.ok issued), w)
  | .scanning sub why ns rest _ found =>
    match answer with
    | .ok (.page page) =>
      if page.cursor = 0 then
        (clear sub why rest ((found ++ page.keys).mergeSort.eraseReps.filter
          fun key => Key.belongsTo key ns.name sub), w)
      else (.scanning sub why ns rest page.cursor (found ++ page.keys), w)
    | .error _ => (sweep sub why rest, w)
    | _ => (.finished .outOfRange, w)
  | .removing sub why rest _ keys =>
    match answer with
    | .ok _ => (clear sub why rest (keys.drop (svc.batch - 1)), w)
    | .error _ => (sweep sub why rest, w)
    | .outOfRange => (.finished .outOfRange, w)
  | .finished result => (.finished result, w)

/-- One turn, with what it has exchanged with the store. A rotation that has finished takes none. -/
def turn? (w : World) (r : Rotating) : Option (Exchange × Rotating × World) :=
  (r.call? svc).map fun step =>
    let (answer, w') := step.perform w
    (⟨step, answer⟩, r.resume svc w' answer)

/-- So many turns, with nobody between them. -/
def alone : Nat → Rotating × World → Rotating × World
  | 0, state => state
  | n + 1, state =>
    match state.1.turn? svc state.2 with
    | none => state
    | some (_, next) => alone n next

end Rotating

/-- Rotations over one world. -/
structure Crowd where
  world : World
  rotations : Nat → Rotating
  /-- The calls of the store so far, each with the rotation that made it, if it was one of them. -/
  log : List (Option Nat × Exchange)

/-- A turn of one of the rotations, a call of another client, or a change in which calls fail. -/
inductive Move where
  | turn (i : Nat)
  | other (step : StoreStep)
  | fail (outages : StoreCall → Option Outage)

namespace Crowd

/-- A crowd in which every rotation has been asked for, and none has had a turn. -/
def start (w : World) (claims : Nat → Claims) : Crowd :=
  ⟨w, fun i => .start (claims i), []⟩

/-- One move. -/
def move (svc : Service) (c : Crowd) : Move → Crowd
  | .turn i =>
    match (c.rotations i).turn? svc c.world with
    | none => c
    | some (exchange, next, w) =>
      { world := w
        rotations := fun k => if k = i then next else c.rotations k
        log := c.log ++ [(some i, exchange)] }
  | .other step =>
    { c with
      world := (step.perform c.world).2
      log := c.log ++ [(none, ⟨step, (step.perform c.world).1⟩)] }
  | .fail outages => { c with world := { c.world with outages } }

/-- One move after another. -/
def run (svc : Service) (c : Crowd) (moves : List Move) : Crowd := moves.foldl (move svc) c

/-- The rotation has asked for the script and got this reply. -/
def Sees (c : Crowd) (i : Nat) (reply : String) : Prop :=
  ∃ step, (some i, ⟨step, .ok (.reply reply)⟩) ∈ c.log

end Crowd

end SessionTokens
