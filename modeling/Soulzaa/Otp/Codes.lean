/-
One-time codes for one identifier.

The live code, the two counters and the block are four keys, each with a lifetime of its own.  The
commands that generate, resend and verify codes read and write one key a step, side by side.
-/

import Soulzaa.Lib.Tickets

namespace Soulzaa.Otp

open Tickets

/-- Durations are in milliseconds. -/
structure Config where
  ttl : Nat := 60000
  maxAttempts : Nat := 5
  maxResends : Nat := 5
  resendCooldown : Nat := 30000
  blocked : Nat := 900000
  deriving DecidableEq, Repr

/-! ### Keys -/

structure Entry (Value : Type) where
  value : Value
  expiresAt : Option Nat
  deriving DecidableEq, Repr

section Entries

variable {Value : Type}

def alive (now : Nat) (key : Option (Entry Value)) : Option (Entry Value) :=
  key.filter fun entry => entry.expiresAt.all fun limit => now < limit

def expire (now ttl : Nat) (key : Option (Entry Value)) : Option (Entry Value) :=
  (alive now key).map fun entry => { entry with expiresAt := some (now + ttl) }

end Entries

structure OtpBlob where
  codeHash : String
  otpRecordId : Nat
  sentAt : Nat
  deriving DecidableEq, Repr

structure Store where
  otp : Option (Entry OtpBlob) := none
  attempts : Option (Entry Ticket) := none
  resend : Option (Entry Ticket) := none
  block : Option (Entry Unit) := none
  deriving DecidableEq, Repr

inductive Key where
  | otp
  | attempts
  | resend
  deriving DecidableEq, Repr

def Store.del (store : Store) : Key → Store
  | .otp => { store with otp := none }
  | .attempts => { store with attempts := none }
  | .resend => { store with resend := none }

/-- A counter's lifetime begins with a step of its own, after its first increment. -/
def increment (now fresh : Nat) (key : Option (Entry Ticket)) : Entry Ticket where
  value := draw fresh ((alive now key).map Entry.value)
  expiresAt := (alive now key).bind Entry.expiresAt

/-! ### Commands -/

inductive Send where
  | generate
  | resend
  deriving DecidableEq, Repr

/-- Where a command stands.  A verify knows which codes were used up before it began. -/
inductive Point where
  | asking (send : Send) (code : String)
  | reading (send : Send) (code : String)
  | cooling (send : Send) (code : String) (blob : Option OtpBlob)
  | clearing (code : String)
  | incrementing (code : String)
  | expiring (code : String) (count : Ticket)
  | counting (code : String) (count : Ticket)
  | recording (code : String) (count : Option Ticket)
  | caching (count : Option Ticket) (blob : OtpBlob)
  | verifyAsking (code : String) (knew : List Nat)
  | verifyReading (code : String) (knew : List Nat)
  | verifyIncrementing (code : String) (knew : List Nat) (blob : OtpBlob)
  | verifyExpiring (code : String) (knew : List Nat) (blob : OtpBlob) (attempts : Ticket)
  | comparing (code : String) (knew : List Nat) (blob : OtpBlob) (attempts : Ticket)
  | blocking
  | deleting (keys next : List Key) (accepted : Option Nat)
  | done
  deriving DecidableEq, Repr

/-- A code that has become live. -/
structure Issue where
  command : Nat
  otpRecordId : Nat
  issuedAt : Nat
  count : Option Ticket
  deriving DecidableEq, Repr

/-- A candidate that was compared with a code. -/
structure Comparison where
  otpRecordId : Nat
  attempts : Ticket
  knew : List Nat
  accepted : Bool
  comparedAt : Nat
  deriving DecidableEq, Repr

structure World where
  config : Config
  now : Nat
  store : Store := {}
  records : Nat := 0
  attemptLives : Nat := 0
  resendLives : Nat := 0
  commands : List Point := []
  issued : List Issue := []
  compared : List Comparison := []
  /-- The codes that were deleted for a verify that had accepted them. -/
  usedUp : List Nat := []
  deriving DecidableEq, Repr

inductive Happening where
  /-- The code that will be drawn comes with the command. -/
  | send (send : Send) (code : String)
  | verify (code : String)
  /-- A command goes on; two deletions at once may come in either order. -/
  | goOn (position : Nat) (swapped : Bool)
  | stop (position : Nat)
  | pass (elapsed : Nat)
  deriving DecidableEq, Repr

namespace World

def put (world : World) (position : Nat) (point : Point) : World :=
  { world with commands := world.commands.set position point }

def goOn (sha256 : String → String) (world : World) (position : Nat) (swapped : Bool) :
    Point → World
  | .asking send code =>
      if (alive world.now world.store.block).isSome then world.put position .done
      else world.put position (.reading send code)
  | .reading send code =>
      world.put position
        (.cooling send code ((alive world.now world.store.otp).map Entry.value))
  | .cooling send code blob =>
      if ∃ last ∈ blob, world.now - last.sentAt < world.config.resendCooldown then
        world.put position .done
      else
        match send with
        | .generate => world.put position (.clearing code)
        | .resend => world.put position (.incrementing code)
  | .clearing code =>
      { world.put position (.recording code none) with store := world.store.del .resend }
  | .incrementing code =>
      let entry := increment world.now world.resendLives world.store.resend
      { world.put position
          (if entry.value.value = 1 then .expiring code entry.value
          else .counting code entry.value) with
        store := { world.store with resend := some entry }
        resendLives := world.resendLives + 1 }
  | .expiring code count =>
      { world.put position (.counting code count) with
        store :=
          { world.store with
            resend := expire world.now world.config.blocked world.store.resend } }
  | .counting code count =>
      if world.config.maxResends < count.value then world.put position .blocking
      else world.put position (.recording code (some count))
  | .recording code count =>
      { world.put position
          (.caching count
            { codeHash := sha256 code, otpRecordId := world.records, sentAt := world.now }) with
        records := world.records + 1 }
  | .caching count blob =>
      { world.put position .done with
        store :=
          { world.store with
            otp := some { value := blob, expiresAt := some (world.now + world.config.ttl) } }
        issued :=
          { command := position
            otpRecordId := blob.otpRecordId
            issuedAt := world.now
            count := count } :: world.issued }
  | .verifyAsking code knew =>
      if (alive world.now world.store.block).isSome then world.put position .done
      else world.put position (.verifyReading code knew)
  | .verifyReading code knew =>
      match alive world.now world.store.otp with
      | none => world.put position .done
      | some entry => world.put position (.verifyIncrementing code knew entry.value)
  | .verifyIncrementing code knew blob =>
      let entry := increment world.now world.attemptLives world.store.attempts
      { world.put position
          (if entry.value.value = 1 then .verifyExpiring code knew blob entry.value
          else .comparing code knew blob entry.value) with
        store := { world.store with attempts := some entry }
        attemptLives := world.attemptLives + 1 }
  | .verifyExpiring code knew blob attempts =>
      { world.put position (.comparing code knew blob attempts) with
        store :=
          { world.store with
            attempts := expire world.now world.config.ttl world.store.attempts } }
  | .comparing code knew blob attempts =>
      if world.config.maxAttempts < attempts.value then world.put position .blocking
      else
        let accepted := decide (sha256 code = blob.codeHash)
        { world.put position
            (if accepted then .deleting [.otp, .attempts] [.resend] (some blob.otpRecordId)
            else .done) with
          compared :=
            { otpRecordId := blob.otpRecordId
              attempts := attempts
              knew := knew
              accepted := accepted
              comparedAt := world.now } :: world.compared }
  | .blocking =>
      { world.put position (.deleting [.attempts, .resend] [] none) with
        store :=
          { world.store with
            block := some { value := (), expiresAt := some (world.now + world.config.blocked) } } }
  | .deleting keys next accepted =>
      match if swapped then keys.reverse else keys with
      | [] => world.put position (if next = [] then .done else .deleting next [] none)
      | key :: rest =>
          { world.put position (.deleting rest next accepted) with
            store := world.store.del key
            usedUp := if key = .otp then accepted.toList ++ world.usedUp else world.usedUp }
  | .done => world

def step (sha256 : String → String) (world : World) : Happening → World
  | .send send code => { world with commands := world.commands ++ [.asking send code] }
  | .verify code => { world with commands := world.commands ++ [.verifyAsking code world.usedUp] }
  | .goOn position swapped =>
      match world.commands[position]? with
      | none => world
      | some point => world.goOn sha256 position swapped point
  | .stop position => world.put position .done
  | .pass elapsed => { world with now := world.now + elapsed }

end World

end Soulzaa.Otp
