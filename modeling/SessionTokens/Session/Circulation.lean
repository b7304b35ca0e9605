import SessionTokens.Session.History

/-! # Tokens in circulation

A session token gets to a client as an answer of the service. Only the service has the secret that
signs session tokens, so whatever is presented and can be read as one says what a token says that
has been given before. No operation sees to that; it is a condition on histories.
-/

namespace SessionTokens

/-- What claims name besides their subject: the token, its session and its family. -/
def Claims.identifiers (c : Claims) : List String :=
  c.jti.toList ++ c.sessionId.toList ++ c.family.toList

/-- Both tokens of a pair. -/
def TokenPair.tokens (pair : TokenPair) : List String := [pair.accessToken, pair.refreshToken]

/-- The token of a pair that has this mode, with the expiry that the pair gives for it. -/
def TokenPair.part? (pair : TokenPair) : Mode → Option (String × Int64)
  | .access => some (pair.accessToken, pair.accessExp)
  | .refresh => some (pair.refreshToken, pair.refreshExp)
  | _ => none

namespace Service

variable (svc : Service)

/-- The claims of a session token, as it is presented, whether it is good now or not. -/
def claims? (bearer : String) : Option Claims :=
  (svc.codec.read? .session (Bearer.token bearer)).map (·.1)

/-- The subject that a request is about: the one that it names, or the one of the token or the claims
that it presents, if these can be read. -/
def subject? : Request → Option String
  | .login id _ | .logoutEverywhere id | .changePassword id _ _ | .issueEmailVerification id
  | .requestPasswordReset id => some id
  | .issueAccess sub _ | .issueRefresh sub _ _ | .issueVerification sub _ | .issueReset sub _
  | .invalidateAll sub | .invalidateBestEffort sub | .invalidateSession sub _ => some sub
  | .refresh bearer | .logout bearer | .authenticate bearer | .verify bearer
  | .verifyMode bearer _ => (svc.claims? bearer).bind (·.sub)
  | .rotate claims => claims.sub
  | .verifyEmail token =>
    (svc.codec.read? .verification (Bearer.token token)).bind (·.1.sub)
  | .confirmPasswordReset token _ =>
    (svc.codec.read? .resetPassword (Bearer.token token)).bind (·.1.sub)
  | .verifyPurpose token mode =>
    (svc.codec.read? mode.purpose (Bearer.token token)).bind (·.1.sub)

/-- The session tokens that a request gives. -/
def gives (w : World) (r : Request) : List String :=
  match r with
  | .login _ _ | .refresh _ => ((svc.opened? w r).map TokenPair.tokens).getD []
  | .issueAccess sub session => ((svc.issueAccess sub session w).1.value?.map Issued.token).toList
  | .issueRefresh sub session family =>
    ((svc.issueRefresh sub session family w).1.value?.map Issued.token).toList
  | .rotate claims => ((svc.rotate claims w).1.value?.map Issued.token).toList
  | _ => []

/-- The session tokens that a history gives, in their order. -/
def givenIn (w : World) : List Event → List String
  | [] => []
  | .request r :: es => svc.gives w r ++ givenIn (svc.next w (.request r)) es
  | e :: es => givenIn (svc.next w e) es

/-- Every session token that is presented in a history says what one says that the history has
given before. -/
def Authentic (w : World) (es : List Event) : Prop :=
  ∀ past r rest, es = past ++ .request r :: rest → ∀ c, svc.presented? r = some c →
    ∃ token ∈ svc.givenIn w past, svc.claims? token = some c

/-- The family of a refresh token. -/
def family? (token : String) : Option String :=
  (svc.claims? token).bind fun c => if c.mode = some .refresh then c.family else none

/-- The refresh tokens of a family that a history gives, in their order. -/
def line (w : World) (es : List Event) (family : String) : List String :=
  (svc.givenIn w es).filter fun token => svc.family? token = some family

/-- The request goes through and ends this session of the subject, by itself or with all others that
the subject has. -/
def Ends (w : World) (sub session : String) (r : Request) : Prop :=
  (svc.perform r w).1 = .ok () ∧
    match r with
    | .logout bearer =>
      ∃ c, svc.claims? bearer = some c ∧ c.sub = some sub ∧ c.sessionId = some session
    | .invalidateSession sub' session' => sub' = sub ∧ session' = session
    | .logoutEverywhere id | .invalidateAll id => id = sub
    | .changePassword id _ _ => (w.users.find? id).map User.id = some sub
    | .confirmPasswordReset token _ =>
      ∃ c v, svc.codec.read? .resetPassword (Bearer.token token) = some (c, v) ∧ c.sub = some sub
    | _ => False

/-- The event ends this session of the subject. -/
def Closes (w : World) (sub session : String) : Event → Prop
  | .request r => svc.ended? w r = some (sub, session)
  | _ => False

/-- The event ends the life of a session token with this content before its time: it takes all
sessions of its subject away, or ends its session, or uses the token up for another. -/
def CutsShort (w : World) (p : Payload) (e : Event) : Prop :=
  svc.Sweeps w p.sub e ∨ (∃ session, p.sessionId = some session ∧ svc.Closes w p.sub session e) ∨
    ∃ t, svc.Retires w t e ∧ p.mode = .refresh ∧ p.jti = some t.jti

end Service

end SessionTokens
