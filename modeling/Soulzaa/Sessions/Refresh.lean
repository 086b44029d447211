/-
The sessions of one user: how they are created, refreshed and revoked.

A session has a row, an entry in the cache and a place in the user's index, and the user has an
epoch.  Each read and each write of these is a step, and any number of calls are under way.
-/

import Mathlib.Data.List.Basic

namespace Soulzaa.Sessions

abbrev SessionId := Nat

/-- A refresh token, which is bound to a session. -/
structure Token where
  sid : SessionId
  serial : Nat
  expiresAt : Nat
  deriving DecidableEq, Repr

structure AccessToken where
  sid : SessionId
  tv : Nat
  deriving DecidableEq, Repr

/-- A session's id is its place among the rows.  Times are in milliseconds. -/
structure UserSession (Hash : Type) where
  refreshTokenHash : Hash
  expiresAt : Nat
  revokedAt : Option Nat := none
  replacedBySessionId : Option SessionId := none
  /-- The token that it was refreshed from. -/
  source : Option Token
  /-- The revocations that had begun when the first session of its chain was asked for. -/
  since : Nat
  deriving DecidableEq, Repr

def UserSession.markRotated {Hash : Type} (session : UserSession Hash) (now : Nat)
    (replacedBy : SessionId) : UserSession Hash :=
  { session with revokedAt := some now, replacedBySessionId := some replacedBy }

def UserSession.revoke {Hash : Type} (session : UserSession Hash) (now : Nat) : UserSession Hash :=
  { session with revokedAt := some (session.revokedAt.getD now) }

/-! ### Calls -/

/-- What a refresh call was made with, and what it found when it decided. -/
structure Presenting where
  token : Token
  /-- The device is not the one that the session is bound to. -/
  foreign : Bool
  /-- The token was presented before. -/
  again : Bool := false
  /-- The sessions below this were there when the token was looked up. -/
  known : Nat := 0
  expired : Bool := false
  outsideGrace : Bool := false
  deriving DecidableEq, Repr

inductive Outcome where
  | accepted
  | expired
  | reuse
  | hijack
  deriving DecidableEq, Repr

structure Presentation where
  presenting : Presenting
  outcome : Outcome
  deriving DecidableEq, Repr

/-- What a session is created for. -/
inductive Purpose where
  | login (since : Nat)
  | rotation (presenting : Presenting) (since : Nat)
  deriving DecidableEq, Repr

def Purpose.since : Purpose → Nat
  | .login since | .rotation _ since => since

def Purpose.source : Purpose → Option Token
  | .login _ => none
  | .rotation presenting _ => some presenting.token

/-- What a revocation of all sessions was called for, if not by the user or an admin. -/
abbrev Cause := Option Presentation

inductive Call (Hash : Type) where
  | epochReading (purpose : Purpose)
  | inserting (purpose : Purpose) (tv expiresAt : Nat)
  | caching (purpose : Purpose) (token : Token) (tv : Nat)
  | indexing (purpose : Purpose) (token : Token) (tv : Nat)
  | marking (presenting : Presenting) (token : Token) (tv : Nat)
  | unindexing (presenting : Presenting) (token : Token) (tv : Nat)
  | uncaching (presenting : Presenting) (token : Token) (tv : Nat)
  | reading (presenting : Presenting)
  | deciding (presenting : Presenting) (row : Option (UserSession Hash))
  | graceReading (presenting : Presenting) (replacement : SessionId)
  | graceDeciding (presenting : Presenting) (replacement : SessionId)
      (row : Option (UserSession Hash))
  | graceSigning (presenting : Presenting) (replacement : SessionId)
  | snapshotting (cause : Cause) (number : Nat)
  | updating (cause : Cause) (number : Nat) (members : List SessionId)
  | destroying (cause : Cause) (number : Nat) (members : List SessionId)
  | clearing (cause : Cause) (number : Nat)
  | bumping (cause : Cause) (number : Nat)
  | finished
  deriving DecidableEq, Repr

structure World (Hash : Type) where
  now : Nat
  refreshTtl : Nat := 2592000000
  rows : List (UserSession Hash) := []
  blobs : List SessionId := []
  index : List SessionId := []
  epoch : Option Nat := none
  serials : Nat := 0
  calls : List (Call Hash) := []
  returned : List (Token × AccessToken) := []
  presented : List Token := []
  presentations : List Presentation := []
  /-- The sessions below this were there at the last bulk revocation. -/
  sweptTo : Nat := 0
  /-- Revocations of all sessions are numbered as they begin. -/
  begun : Nat := 0
  listed : List Nat := []
  updated : List Nat := []
  settled : List Nat := []
  deriving DecidableEq, Repr

inductive Happening where
  | createSession
  | refresh (token : Token) (foreign : Bool)
  | revokeAllForUser
  | goOn (position : Nat)
  /-- A session has been inactive for too long. -/
  | lapse (sid : SessionId)
  | lapseEpoch
  | pass (elapsed : Nat)
  deriving DecidableEq, Repr

namespace World

variable {Hash : Type}

def put (world : World Hash) (position : Nat) (call : Call Hash) : World Hash :=
  { world with calls := world.calls.set position call }

def spawn (world : World Hash) (call : Call Hash) : World Hash :=
  { world with calls := world.calls ++ [call] }

def answer (world : World Hash) (position : Nat) (presenting : Presenting) (outcome : Outcome) :
    World Hash :=
  { world.put position .finished with
    presentations := { presenting := presenting, outcome := outcome } :: world.presentations }

/-- The call goes on to revoke every session. -/
def revoking (world : World Hash) (position : Nat) (cause : Cause) : World Hash :=
  { world.put position (.snapshotting cause (world.begun + 1)) with begun := world.begun + 1 }

/-- The session was rotated in the last 30 seconds, and the token is its own. -/
def InGrace (now : Nat) (hash : Hash) (session : UserSession Hash) : Prop :=
  session.replacedBySessionId.isSome ∧ session.refreshTokenHash = hash ∧
    ∃ revokedAt ∈ session.revokedAt, now - revokedAt < 30000

instance [DecidableEq Hash] (now : Nat) (hash : Hash) (session : UserSession Hash) :
    Decidable (InGrace now hash session) :=
  inferInstanceAs (Decidable (_ ∧ _ = _ ∧ ∃ revokedAt ∈ (_ : Option Nat), _))

section Steps

variable [DecidableEq Hash] (sha256 : Token → Hash) (world : World Hash) (position : Nat)

def decide (presenting : Presenting) (row : Option (UserSession Hash)) : World Hash :=
  let expired := Decidable.decide (presenting.token.expiresAt < world.now)
  match row with
  | none => world.answer position { presenting with expired := expired } .expired
  | some session =>
      let found :=
        { presenting with
          expired := expired
          outsideGrace :=
            session.revokedAt.any fun revokedAt =>
              Decidable.decide (30000 ≤ world.now - revokedAt) }
      if session.expiresAt < world.now then world.answer position found .expired
      else if session.revokedAt.isSome ∨ session.refreshTokenHash ≠ sha256 presenting.token then
        if InGrace world.now (sha256 presenting.token) session then
          world.put position
            (.graceReading found (session.replacedBySessionId.getD presenting.token.sid))
        else world.revoking position (some { presenting := found, outcome := .reuse })
      else if presenting.foreign then
        world.revoking position (some { presenting := found, outcome := .hijack })
      else world.put position (.epochReading (.rotation found session.since))

def graceDecide (presenting : Presenting) (replacement : SessionId)
    (row : Option (UserSession Hash)) : World Hash :=
  if ∃ session ∈ row, session.revokedAt = none ∧ world.now < session.expiresAt then
    world.put position (.graceSigning presenting replacement)
  else world.revoking position (some { presenting := presenting, outcome := .reuse })

def goOn : Call Hash → World Hash
  | .epochReading purpose =>
      world.put position
        (.inserting purpose (world.epoch.getD 0) (world.now + world.refreshTtl))
  | .inserting purpose tv expiresAt =>
      let token : Token :=
        { sid := world.rows.length, serial := world.serials, expiresAt := expiresAt }
      { world.put position (.caching purpose token tv) with
        rows :=
          world.rows ++
            [{ refreshTokenHash := sha256 token
               expiresAt := expiresAt
               source := purpose.source
               since := purpose.since }]
        serials := world.serials + 1 }
  | .caching purpose token tv =>
      { world.put position (.indexing purpose token tv) with blobs := token.sid :: world.blobs }
  | .indexing purpose token tv =>
      let indexed := { world with index := token.sid :: world.index }
      match purpose with
      | .login _ =>
          { indexed.put position .finished with
            returned := (token, { sid := token.sid, tv := tv }) :: world.returned }
      | .rotation presenting _ => indexed.put position (.marking presenting token tv)
  | .marking presenting token tv =>
      { world.put position (.unindexing presenting token tv) with
        rows :=
          world.rows.modify presenting.token.sid fun session =>
            session.markRotated world.now token.sid }
  | .unindexing presenting token tv =>
      { world.put position (.uncaching presenting token tv) with
        index := world.index.filter (· ≠ presenting.token.sid) }
  | .uncaching presenting token tv =>
      { world.answer position presenting .accepted with
        blobs := world.blobs.filter (· ≠ presenting.token.sid)
        returned := (token, { sid := token.sid, tv := tv }) :: world.returned }
  | .reading presenting =>
      { world.put position
          (.deciding
            { presenting with
              again := Decidable.decide (presenting.token ∈ world.presented)
              known := world.rows.length }
            world.rows[presenting.token.sid]?) with
        presented := presenting.token :: world.presented }
  | .deciding presenting row => world.decide sha256 position presenting row
  | .graceReading presenting replacement =>
      world.put position (.graceDeciding presenting replacement world.rows[replacement]?)
  | .graceDeciding presenting replacement row =>
      world.graceDecide position presenting replacement row
  | .graceSigning presenting replacement =>
      let token : Token :=
        { sid := replacement
          serial := world.serials
          expiresAt := world.now + world.refreshTtl }
      { world.answer position presenting .accepted with
        serials := world.serials + 1
        returned :=
          (token, { sid := replacement, tv := world.epoch.getD 0 }) :: world.returned }
  | .snapshotting cause number =>
      { world.put position (.updating cause number world.index) with
        listed := number :: world.listed }
  | .updating cause number members =>
      { world.put position (.destroying cause number members) with
        rows := world.rows.map fun session => session.revoke world.now
        sweptTo := world.rows.length
        updated := number :: world.updated }
  | .destroying cause number members =>
      match members with
      | [] => world.put position (.clearing cause number)
      | sid :: rest =>
          { world.put position (.destroying cause number rest) with
            blobs := world.blobs.filter (· ≠ sid) }
  | .clearing cause number =>
      { world.put position (.bumping cause number) with index := [] }
  | .bumping cause number =>
      { world.put position .finished with
        epoch := some (world.epoch.getD 0 + 1)
        settled := number :: world.settled
        presentations := cause.toList ++ world.presentations }
  | .finished => world

/-- Only tokens that were returned can be presented: others fail their signature. -/
def step (world : World Hash) : Happening → World Hash
  | .createSession => world.spawn (.epochReading (.login world.begun))
  | .refresh token foreign =>
      if token ∈ world.returned.map Prod.fst then
        world.spawn (.reading { token := token, foreign := foreign })
      else world
  | .revokeAllForUser =>
      { world.spawn (.snapshotting none (world.begun + 1)) with begun := world.begun + 1 }
  | .goOn position =>
      match world.calls[position]? with
      | none => world
      | some call => world.goOn sha256 position call
  | .lapse sid => { world with blobs := world.blobs.filter (· ≠ sid) }
  | .lapseEpoch => { world with epoch := none }
  | .pass elapsed => { world with now := world.now + elapsed }

end Steps

/-- The user has not logged in yet. -/
structure Unused (world : World Hash) : Prop where
  rows : world.rows = []
  blobs : world.blobs = []
  calls : world.calls = []
  history : world.returned = [] ∧ world.presented = [] ∧ world.presentations = []
  revocations : world.listed = [] ∧ world.updated = [] ∧ world.settled = []

end World

end Soulzaa.Sessions
