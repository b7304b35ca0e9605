import SessionTokens.Session.Flows

/-! # Histories

A service lives through requests and through what happens between them: time passes, clocks are set,
parts of its surroundings fail and recover, accounts change. A history is a list of such events, and
it takes a world to the one that the events leave, one after another.

What a request did is read off its answers. It may have accepted a token, used up a refresh token,
or taken all sessions of a subject away.
-/

namespace SessionTokens

/-- What a service is asked to do. -/
inductive Request where
  | login (id password : String)
  | refresh (bearer : String)
  | logout (bearer : String)
  | logoutEverywhere (id : String)
  | changePassword (id current new : String)
  | issueEmailVerification (id : String)
  | verifyEmail (token : String)
  | requestPasswordReset (id : String)
  | confirmPasswordReset (token new : String)
  | authenticate (bearer : String)
  | issueAccess (sub : String) (session : Option String)
  | issueRefresh (sub : String) (session family : Option String)
  | issueVerification (sub : String) (email : Option String)
  | issueReset (sub : String) (email : Option String)
  | verify (bearer : String)
  | verifyMode (bearer : String) (expected : Mode)
  | verifyPurpose (token : String) (mode : Mode)
  | rotate (claims : Claims)
  | invalidateAll (sub : String)
  | invalidateBestEffort (sub : String)
  | invalidateSession (sub session : String)

/-- The request asks for a refresh token in exchange for another. -/
def Request.isExchange : Request → Bool
  | .refresh _ | .rotate _ => true
  | _ => false

/-- The session token that a request presents, as it is presented. -/
def Request.bearer? : Request → Option String
  | .verify bearer | .verifyMode bearer _ | .refresh bearer | .logout bearer
  | .authenticate bearer => some bearer
  | _ => none

/-- The sessions and families that a request names, instead of having them minted or taking them
from a token. -/
def Request.names : Request → List String
  | .issueAccess _ session => session.toList
  | .issueRefresh _ session family => session.toList ++ family.toList
  | .invalidateSession _ session => [session]
  | _ => []

/-- What happens to a service. -/
inductive Event where
  | request (r : Request)
  /-- Both clocks move on. -/
  | advance (ms : Nat)
  /-- The time of day is set. -/
  | setWall (ms : Nat)
  /-- The store forgets its scripts. -/
  | flushScripts
  /-- From now on these calls of the store fail, and no others. -/
  | failStore (outages : StoreCall → Option Outage)
  | failDirectory (call : Option DirectoryCall)
  | failHasher (call : Option HasherCall)
  /-- An account is set or removed. -/
  | setUser (id : String) (user : Option User)

/-- The sessions and families that an event names. -/
def Event.names : Event → List String
  | .request r => r.names
  | _ => []

/-- The event leaves the two clocks in step. -/
def Event.isSteady : Event → Bool
  | .setWall _ => false
  | _ => true

/-- The store is empty and nothing is forced on its scripts. -/
structure World.IsNew (w : World) : Prop where
  keyspace : w.store.keyspace = .empty
  forcedReply : w.forcedReply = none

/-- An operation for what it does, not for what it gives. -/
def Action.ignore {ε α : Type} (m : Action ε α) : Action ε Unit := do
  let _ ← m
  return ()

namespace Outcome

variable {ε α : Type}

/-- The value, if there is one. -/
def value? : Outcome ε α → Option α
  | .ok a => some a
  | _ => none

/-- Why a token was turned down, if it was. -/
def rejection? : Outcome TokenError α → Option Rejection
  | .error (.rejected why) => some why
  | _ => none

end Outcome

namespace Service

variable (svc : Service)

/-- What a request does. -/
def perform : Request → Action ServiceError Unit
  | .login id password => (svc.login id password).ignore
  | .refresh bearer => (svc.refresh bearer).ignore
  | .logout bearer => svc.logout bearer
  | .logoutEverywhere id => (svc.logoutEverywhere id).ignore
  | .changePassword id current new => svc.changePassword id current new
  | .issueEmailVerification id => (svc.issueEmailVerification id).ignore
  | .verifyEmail token => (svc.verifyEmail token).ignore
  | .requestPasswordReset id => (svc.requestPasswordReset id).ignore
  | .confirmPasswordReset token new => svc.confirmPasswordReset token new
  | .authenticate bearer => (svc.authenticate bearer).ignore
  | .issueAccess sub session => (outside (svc.issueAccess sub session)).ignore
  | .issueRefresh sub session family => (outside (svc.issueRefresh sub session family)).ignore
  | .issueVerification sub email => (outside (svc.issueVerification sub email)).ignore
  | .issueReset sub email => (outside (svc.issueReset sub email)).ignore
  | .verify bearer => (outside (svc.verify bearer)).ignore
  | .verifyMode bearer expected => (outside (svc.verifyMode bearer expected)).ignore
  | .verifyPurpose token mode => (outside (svc.verifyPurpose token mode)).ignore
  | .rotate claims => (outside (svc.rotate claims)).ignore
  | .invalidateAll sub => (svc.invalidateAll sub).ignore
  | .invalidateBestEffort sub => (svc.invalidateBestEffort sub).ignore
  | .invalidateSession sub session => (invalidateSession sub session).ignore

/-- The world after an event. -/
def next (w : World) : Event → World
  | .request r => (svc.perform r w).2
  | .advance ms => w.advance ms
  | .setWall ms => { w with wall := ms }
  | .flushScripts => { w with store := w.store.flushScripts }
  | .failStore outages => { w with outages }
  | .failDirectory call => { w with directoryOutage := call }
  | .failHasher call => { w with hasherOutage := call }
  | .setUser id user => { w with users := w.users.put id user }

/-- The world after a history. -/
def after (w : World) (es : List Event) : World := es.foldl svc.next w

/-- Every event of a history, in the world that it comes upon, is of a kind. -/
def Throughout (P : World → Event → Prop) : World → List Event → Prop
  | _, [] => True
  | w, e :: es => P w e ∧ Throughout P (svc.next w e) es

/-! ## What a request did -/

/-- The claims of the session token that a request presents. -/
def presented? : Request → Option Claims
  | .verify bearer | .verifyMode bearer _ | .refresh bearer | .logout bearer
  | .authenticate bearer => (svc.codec.read? .session (Bearer.token bearer)).map (·.1)
  | .rotate claims => some claims
  | _ => none

/-- The request is answered by a report that a token has been in the wrong hands. -/
def Alarms (w : World) (r : Request) : Prop :=
  ∃ why, (svc.perform r w).1 = .error (.rejected why) ∧ why.isCompromise = true

/-- The request presents a token with this identifier, and goes through. -/
def Accepts (w : World) (jti : String) (r : Request) : Prop :=
  (svc.perform r w).1 = .ok () ∧ ∃ c, svc.presented? r = some c ∧ c.jti = some jti

/-- The pair that a client is given. -/
def opened? (w : World) : Request → Option TokenPair
  | .login id password => (svc.login id password w).1.value?
  | .refresh bearer => (svc.refresh bearer w).1.value?
  | _ => none

/-- The refresh token that a request uses up. -/
def retired? (w : World) : Request → Option Retired
  | .rotate claims => (svc.retire claims w).1.value?
  | .refresh bearer =>
    match svc.refreshable bearer w with
    | (.ok (payload, _), w') => (svc.retire payload.toClaims w').1.value?
    | _ => none
  | _ => none

/-- The refresh token that a request gives for the one that it uses up. -/
def exchanged? (w : World) : Request → Option Issued
  | .rotate claims => (svc.rotate claims w).1.value?
  | .refresh bearer =>
    match svc.refreshable bearer w with
    | (.ok (payload, _), w') => (svc.rotate payload.toClaims w').1.value?
    | _ => none
  | _ => none

/-- The subject and the family whose mark a request renews. A family that the request opens is not
meant. -/
def renewed? (w : World) : Request → Option (String × String)
  | .issueRefresh sub _ family => family.map fun f => (sub, f)
  | r => (svc.retired? w r).map fun t => (t.sub, t.family)

/-- The subject of a token that is found to be compromised when it is verified. -/
def compromised? (w : World) (bearer : String) : Option String :=
  if (svc.verify bearer w).1.rejection?.any Rejection.isCompromise then
    (svc.codec.read? .session (Bearer.token bearer)).bind (·.1.sub)
  else none

/-- The subject of claims that are turned down for rotation. -/
def refused? (w : World) (c : Claims) : Option String :=
  if (svc.retire c w).1.rejection?.isSome then c.sub else none

/-- The subject whose sessions a request takes away, if the store lets it: by its own account, or
because of the token that it presents. -/
def swept? (w : World) : Request → Option String
  | .logoutEverywhere id | .invalidateAll id | .invalidateBestEffort id => some id
  | .changePassword id current new =>
    if (svc.changePassword id current new w).1 = .ok () then (w.users.find? id).map (·.id) else none
  | .confirmPasswordReset token new =>
    if (svc.confirmPasswordReset token new w).1 = .ok () then
      (svc.codec.read? .resetPassword (Bearer.token token)).bind (·.1.sub)
    else none
  | .verify bearer | .verifyMode bearer _ | .logout bearer | .authenticate bearer =>
    svc.compromised? w bearer
  | .refresh bearer =>
    match svc.refreshable bearer w with
    | (.ok (payload, _), w') => svc.refused? w' payload.toClaims
    | _ => svc.compromised? w bearer
  | .rotate claims => svc.refused? w claims
  | _ => none

/-- The subject and the session that a request ends. -/
def ended? (w : World) : Request → Option (String × String)
  | .logout bearer =>
    (svc.verifyMode bearer .access w).1.value?.bind fun p =>
      p.sessionId.map fun session => (p.sub, session)
  | .invalidateSession sub session => some (sub, session)
  | _ => none

/-- The event uses up this refresh token. -/
def Retires (w : World) (t : Retired) : Event → Prop
  | .request r => svc.retired? w r = some t
  | _ => False

/-- The event renews the mark of this family of the subject. -/
def Renews (w : World) (sub family : String) : Event → Prop
  | .request r => svc.renewed? w r = some (sub, family)
  | _ => False

/-- The event takes all sessions of the subject away. -/
def Sweeps (w : World) (sub : String) : Event → Prop
  | .request r => w.Sweepable ∧ svc.swept? w r = some sub
  | _ => False

end Service

end SessionTokens
