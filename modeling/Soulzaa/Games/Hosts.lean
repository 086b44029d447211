/-
Who holds the host role of a running session.

The host drives the bot seats and reports the result, so the role belongs to a human
who is still playing.  A forfeit picks the successor under the lock and hands over
after it.  The proof follows a hand-over from its choice to its write: the one it is
promised to stays in the match, and until it is written nobody calls the match quiet.
-/

import Soulzaa.Games.Session
import Soulzaa.Lib.Runs

namespace Soulzaa.Games

/-! ### The role -/

/-- The user is a human still playing, according to these rows. -/
def SeatedIn (participants : List GameParticipant) (userId : UserId) : Prop :=
  ∃ participant ∈ participants, participant.userId = userId ∧ participant.mayHost = true

instance (participants : List GameParticipant) (userId : UserId) :
    Decidable (SeatedIn participants userId) := by
  unfold SeatedIn
  infer_instance

/-- The host is a human still playing, if there is any. -/
def MatchPlay.Hosted (play : MatchPlay) : Prop :=
  (∃ participant ∈ play.session.participants, participant.mayHost = true) →
    SeatedIn play.session.participants play.session.hostId

instance (play : MatchPlay) : Decidable play.Hosted := by
  unfold MatchPlay.Hosted
  infer_instance

/-- The user who is about to get the role. -/
def Call.newHost : Call → Option UserId
  | .handOver newHostId => some newHostId
  | _ => none

def MatchPlay.Promised (play : MatchPlay) (userId : UserId) : Prop :=
  ∃ call ∈ play.calls, call.newHost = some userId

instance (play : MatchPlay) (userId : UserId) : Decidable (play.Promised userId) := by
  unfold MatchPlay.Promised
  infer_instance

/-- A hand-over is on its way. -/
def MatchPlay.HandsOver (play : MatchPlay) : Prop :=
  ∃ call ∈ play.calls, call.newHost.isSome = true

instance (play : MatchPlay) : Decidable play.HandsOver := by
  unfold MatchPlay.HandsOver
  infer_instance

/-- When a step is in order, as long as the session is active: nobody is marked LOST to
whom the role is promised, or who got it after their forfeit had read the session; what
takes the role from a forfeiter does not fail; and neither do the writes that close a
refunded session. -/
def MatchPlay.KeepsHost (play : MatchPlay) (event : MatchEvent) : Prop :=
  play.session.status = .active →
    match event with
    | .start reply => play.start = .abandon → reply.fails = false
    | .inside reply =>
        match play.critical with
        | some (.refunding _ []) => reply.fails = false
        | some (.leaving session actor _) =>
            reply.fails = false →
              ¬play.Promised actor ∧ (play.session.hostId = actor → session.hostId = actor)
        | some (.withdrawing _ _ _) => reply.fails = true → play.Hosted ∨ play.HandsOver
        | _ => True
    | .outside position reply =>
        match play.calls[position]? with
        | some (.handOver _) =>
            reply.fails = true → play.Hosted ∨ (play.drop position).HandsOver
        | _ => True
    | _ => True

instance (play : MatchPlay) (event : MatchEvent) : Decidable (play.KeepsHost event) :=
  @instDecidableForall _ _ inferInstance <|
    match event with
    | .start _ => instDecidableForall
    | .inside reply =>
        match play.critical with
        | some (.refunding _ []) => inferInstanceAs (Decidable (reply.fails = false))
        | some (.leaving ..) | some (.withdrawing ..) => instDecidableForall
        | none | some (.aborting _) | some (.refunding _ (_ :: _)) | some (.refunded ..)
        | some (.settling ..) | some (.paying ..) | some (.forfeiting ..)
        | some (.reporting ..) | some (.confirming ..) | some (.disputing _) =>
            instDecidableTrue
    | .outside position _ => by
        dsimp only
        exact match play.calls[position]? with
          | some (.handOver _) => instDecidableForall
          | none | some (.abort _) | some (.settle _) | some (.resolve ..) | some (.forfeit ..)
          | some (.expand ..) | some (.report ..) | some (.confirm ..) | some (.dispute _)
          | some .sweep | some (.repoint ..) => instDecidableTrue
    | .request _ | .enter .. | .lapse => instDecidableTrue

/-! ### The invariant -/

def StartPhase.Unwinding : StartPhase → Prop
  | .unwind _ => True
  | .unwound _ _ _ => True
  | .abandon => True
  | _ => False

def Critical.Refunds : Critical → Prop
  | .refunding _ _ => True
  | .refunded _ _ _ _ => True
  | _ => False

/-- Neither refunds nor hands over. -/
def Critical.Calm : Critical → Prop
  | .refunding _ _ => False
  | .refunded _ _ _ _ => False
  | .withdrawing _ _ _ => False
  | _ => True

/-- Players are being refunded, and the session is closed at the end. -/
def MatchPlay.Ending (play : MatchPlay) : Prop :=
  play.start.Unwinding ∨ ∃ critical ∈ play.critical, critical.Refunds

/-- The rows a forfeit has read still tell who may host. -/
def SnapshotOk (participants : List GameParticipant) : Critical → Prop
  | .leaving _ _ snapshot =>
      ∀ userId, SeatedIn snapshot userId ↔ SeatedIn participants userId
  | .withdrawing _ actor snapshot =>
      ¬SeatedIn participants actor ∧
        ∀ userId, userId ≠ actor → (SeatedIn snapshot userId ↔ SeatedIn participants userId)
  | _ => True

/-- The forfeit under the lock will hand over the role of its actor. -/
def MatchPlay.Withdraws (play : MatchPlay) : Prop :=
  ∃ session participants, session.hostId = play.session.hostId ∧
    play.critical = some (.withdrawing session play.session.hostId participants)

structure MatchPlay.Led (play : MatchPlay) : Prop where
  promised : ∀ userId, play.Promised userId → SeatedIn play.session.participants userId
  hosted : play.Hosted ∨ play.HandsOver ∨ play.Withdraws
  snapshot : ∀ critical ∈ play.critical, SnapshotOk play.session.participants critical

def MatchPlay.LedInv (play : MatchPlay) : Prop :=
  play.session.status = .active → ¬play.Ending → play.Led

/-! ### Choosing a host -/

theorem mem_eligible {participants : List GameParticipant} {exclude : Option UserId}
    {userId : UserId} :
    (∃ participant ∈ participants.filter fun participant : GameParticipant =>
        participant.mayHost && some participant.userId ≠ exclude,
      participant.userId = userId) ↔ SeatedIn participants userId ∧ some userId ≠ exclude := by
  constructor
  · rintro ⟨participant, member, rfl⟩
    obtain ⟨inside, eligible⟩ := List.mem_filter.mp member
    rw [Bool.and_eq_true] at eligible
    exact ⟨⟨participant, inside, rfl, eligible.1⟩, by simpa using eligible.2⟩
  · rintro ⟨⟨participant, inside, rfl, mayHost⟩, apart⟩
    refine ⟨participant, List.mem_filter.mpr ⟨inside, ?_⟩, rfl⟩
    rw [Bool.and_eq_true]
    exact ⟨mayHost, by simpa using apart⟩

/-- The pick is a human still playing other than the one excluded. -/
theorem seated_of_pick {participants : List GameParticipant} {preferred exclude : Option UserId}
    {userId : UserId} (picked : pickSessionHost participants preferred exclude = some userId) :
    SeatedIn participants userId ∧ some userId ≠ exclude := by
  unfold pickSessionHost at picked
  dsimp only at picked
  rw [← mem_eligible]
  have first : ∀ eligible : List GameParticipant,
      eligible.head?.map GameParticipant.userId = some userId →
        ∃ participant ∈ eligible, participant.userId = userId := by
    intro eligible found
    obtain ⟨participant, isHead, same⟩ := Option.map_eq_some_iff.mp found
    exact ⟨participant, List.mem_of_mem_head? isHead, same⟩
  split at picked
  · exact first _ picked
  · split at picked
    · rename_i qualifies
      cases picked
      obtain ⟨participant, member, same⟩ := List.any_eq_true.mp qualifies
      exact ⟨participant, member, by simpa using same⟩
    · exact first _ picked

theorem nobody_of_pick {participants : List GameParticipant} {exclude : Option UserId}
    (nobody : pickSessionHost participants none exclude = none) {userId : UserId}
    (seated : SeatedIn participants userId) : some userId = exclude := by
  by_contra apart
  obtain ⟨participant, member, _⟩ := mem_eligible.mpr ⟨seated, apart⟩
  unfold pickSessionHost at nobody
  dsimp only at nobody
  rw [Option.map_eq_none_iff, List.head?_eq_none_iff] at nobody
  rw [nobody] at member
  exact List.not_mem_nil member

/-! ### What a step may write -/

theorem hosted_iff (play : MatchPlay) : play.Hosted ↔
    ((∃ userId, SeatedIn play.session.participants userId) →
      SeatedIn play.session.participants play.session.hostId) := by
  constructor
  · rintro hosted ⟨userId, participant, member, _, mayHost⟩
    exact hosted ⟨participant, member, mayHost⟩
  · rintro hosted ⟨participant, member, mayHost⟩
    exact hosted ⟨participant.userId, participant, member, rfl, mayHost⟩

theorem snapshotOk_of_seats {before after : List GameParticipant}
    (seats : ∀ userId, SeatedIn after userId ↔ SeatedIn before userId) {critical : Critical}
    (ok : SnapshotOk before critical) : SnapshotOk after critical := by
  cases critical with
  | leaving session actor snapshot => exact fun userId => (ok userId).trans (seats userId).symm
  | withdrawing session actor snapshot =>
      exact ⟨fun seated => ok.1 ((seats actor).mp seated),
        fun userId apart => (ok.2 userId apart).trans (seats userId).symm⟩
  | _ => trivial

theorem seatedIn_update {participants : List GameParticipant} {target : UserId}
    {update : GameParticipant → GameParticipant} (keeps : ∀ row, (update row).userId = row.userId)
    (plays : ∀ row, (update row).mayHost = row.mayHost) (userId : UserId) :
    SeatedIn (participants.map fun row => if row.userId = target then update row else row)
      userId ↔ SeatedIn participants userId := by
  constructor
  · rintro ⟨row, member, same, mayHost⟩
    obtain ⟨earlier, inside, rfl⟩ := List.mem_map.mp member
    refine ⟨earlier, inside, ?_⟩
    split at same
    · rename_i isTarget
      rw [if_pos isTarget, plays] at mayHost
      exact ⟨(keeps earlier).symm.trans same, mayHost⟩
    · rename_i other
      rw [if_neg other] at mayHost
      exact ⟨same, mayHost⟩
  · rintro ⟨row, member, same, mayHost⟩
    refine ⟨_, List.mem_map_of_mem member, ?_⟩
    split
    · exact ⟨(keeps row).trans same, (plays row).trans mayHost⟩
    · exact ⟨same, mayHost⟩

/-- Marking one player LOST takes exactly that one from the table. -/
theorem seatedIn_lost (participants : List GameParticipant) (actor userId : UserId) :
    SeatedIn (participants.map fun row : GameParticipant =>
        if row.userId = actor then { row with status := .lost } else row) userId ↔
      SeatedIn participants userId ∧ userId ≠ actor := by
  constructor
  · rintro ⟨row, member, same, mayHost⟩
    obtain ⟨earlier, inside, rfl⟩ := List.mem_map.mp member
    split at same
    · rename_i isActor
      rw [if_pos isActor] at mayHost
      unfold GameParticipant.mayHost GameParticipant.isPlaying at mayHost
      simp at mayHost
    · rename_i other
      rw [if_neg other] at mayHost
      exact ⟨⟨earlier, inside, same, mayHost⟩, fun isActor => other (same.trans isActor)⟩
  · rintro ⟨⟨row, member, rfl, mayHost⟩, other⟩
    refine ⟨row, List.mem_map.mpr ⟨row, member, if_neg other⟩, rfl, mayHost⟩

namespace MatchPlay.Led

/-- Money, the pot and rows move, but nobody leaves the table and the role stays. -/
theorem write {before after : MatchPlay} (led : before.Led) (calls : after.calls = before.calls)
    (critical : after.critical = before.critical)
    (host : after.session.hostId = before.session.hostId)
    (seats : ∀ userId, SeatedIn after.session.participants userId ↔
      SeatedIn before.session.participants userId) : after.Led where
  promised := by
    unfold MatchPlay.Promised
    rw [calls]
    exact fun userId promised => (seats userId).mpr (led.promised userId promised)
  hosted := by
    rcases led.hosted with hosted | handsOver | withdraws
    · refine Or.inl ((hosted_iff after).mpr fun someone => ?_)
      rw [host, seats]
      exact (hosted_iff before).mp hosted (someone.imp fun userId => (seats userId).mp)
    · unfold MatchPlay.HandsOver at handsOver ⊢
      rw [calls]
      exact Or.inr (Or.inl handsOver)
    · unfold MatchPlay.Withdraws at withdraws ⊢
      rw [critical, host]
      exact Or.inr (Or.inr withdraws)
  snapshot := by
    rw [critical]
    exact fun holder holds => snapshotOk_of_seats seats (led.snapshot holder holds)

theorem spawn {play : MatchPlay} (led : play.Led) {call : Call}
    (promised : ∀ userId, call.newHost = some userId →
      SeatedIn play.session.participants userId) : (play.spawn call).Led where
  promised := by
    rintro userId ⟨other, member, named⟩
    rcases List.mem_append.mp member with before | last
    · exact led.promised userId ⟨other, before, named⟩
    · cases List.mem_singleton.mp last
      exact promised userId named
  hosted := led.hosted.imp_right fun either => either.imp_left
    fun ⟨other, member, named⟩ => ⟨other, List.mem_append_left _ member, named⟩
  snapshot := led.snapshot

/-- A call goes on, and what it leaves behind still accounts for the role. -/
theorem drop {play : MatchPlay} (led : play.Led) {position : Nat}
    (hosted : play.Hosted ∨ (play.drop position).HandsOver ∨ play.Withdraws) :
    (play.drop position).Led where
  promised := fun userId ⟨other, member, named⟩ =>
    led.promised userId ⟨other, List.mem_of_mem_eraseIdx member, named⟩
  hosted := hosted
  snapshot := led.snapshot

theorem handsOver_drop {play : MatchPlay} {position : Nat} {call : Call}
    (found : play.calls[position]? = some call) (quiet : call.newHost = none)
    (handsOver : play.HandsOver) : (play.drop position).HandsOver := by
  obtain ⟨other, member, named⟩ := handsOver
  obtain ⟨index, isThere⟩ := List.mem_iff_getElem?.mp member
  refine ⟨other, List.mem_eraseIdx_iff_getElem?.mpr ⟨index, ?_, isThere⟩, named⟩
  rintro rfl
  rw [found] at isThere
  cases isThere
  rw [quiet] at named
  cases named

theorem within {play : MatchPlay} (led : play.Led) (settled : play.Hosted ∨ play.HandsOver)
    {critical : Critical} (snapshot : SnapshotOk play.session.participants critical) :
    (play.within critical).Led where
  promised := led.promised
  hosted := settled.imp_right Or.inl
  snapshot := fun holder holds => by
    cases holds
    exact snapshot

theorem leave {play : MatchPlay} (led : play.Led) (settled : play.Hosted ∨ play.HandsOver) :
    play.leave.Led where
  promised := led.promised
  hosted := settled.imp_right Or.inl
  snapshot := fun holder holds => by cases holds

theorem settled {play : MatchPlay} (led : play.Led) {critical : Option Critical}
    (phase : play.critical = critical)
    (calm : ∀ session actor participants,
      critical ≠ some (.withdrawing session actor participants)) :
    play.Hosted ∨ play.HandsOver := by
  rcases led.hosted with hosted | handsOver | ⟨session, participants, _, holds⟩
  · exact Or.inl hosted
  · exact Or.inr handsOver
  · exact absurd (phase.symm.trans holds) (calm _ _ _)

end MatchPlay.Led

/-! ### Steps -/

namespace MatchPlay.LedInv

/-- The way every step is checked: only a session that stays active matters, and a
session that is about to be closed stays so. -/
theorem of {before after : MatchPlay} (inv : before.LedInv)
    (active : after.session.status = .active → before.session.status = .active)
    (ending : after.session.status = .active → before.Ending → after.Ending)
    (led : ¬after.Ending → before.Led → after.Led) : after.LedInv := by
  intro isActive calm
  exact led calm (inv (active isActive) fun isEnding => calm (ending isActive isEnding))

theorem of_closed {play : MatchPlay} (closed : play.session.status ≠ .active) : play.LedInv :=
  fun isActive => absurd isActive closed

theorem of_ending {play : MatchPlay} (ending : play.Ending) : play.LedInv :=
  fun _ calm => absurd ending calm

theorem write {before after : MatchPlay} (inv : before.LedInv)
    (calls : after.calls = before.calls) (critical : after.critical = before.critical)
    (host : after.session.hostId = before.session.hostId)
    (status : after.session.status = before.session.status)
    (seats : ∀ userId, SeatedIn after.session.participants userId ↔
      SeatedIn before.session.participants userId)
    (unwinding : before.start.Unwinding → after.start.Unwinding) : after.LedInv := by
  refine inv.of (fun isActive => status.symm.trans isActive) (fun _ => Or.imp unwinding ?_)
    fun _ led => led.write calls critical host seats
  rw [critical]
  exact id

theorem starting {play : MatchPlay} (inv : play.LedInv) {start : StartPhase}
    (unwinding : play.start.Unwinding → start.Unwinding) : (play.starting start).LedInv :=
  inv.write rfl rfl rfl rfl (fun _ => Iff.rfl) unwinding

theorem move {play : MatchPlay} (inv : play.LedInv) (movement : Movement) :
    (play.move movement).LedInv :=
  inv.write rfl rfl rfl rfl (fun _ => Iff.rfl) id

theorem spawn {play : MatchPlay} (inv : play.LedInv) {call : Call}
    (promised : play.Led → ∀ userId, call.newHost = some userId →
      SeatedIn play.session.participants userId) : (play.spawn call).LedInv :=
  inv.of id (fun _ => id) fun _ led => led.spawn (promised led)

theorem quiet {play : MatchPlay} (inv : play.LedInv) {call : Call}
    (silent : call.newHost = none) : (play.spawn call).LedInv :=
  inv.spawn fun _ userId named => by
    rw [silent] at named
    cases named

theorem drop {play : MatchPlay} (inv : play.LedInv) {position : Nat} {call : Call}
    (found : play.calls[position]? = some call) (silent : call.newHost = none) :
    (play.drop position).LedInv :=
  inv.of id (fun _ => id) fun _ led =>
    led.drop (led.hosted.imp_right fun either =>
      either.imp_left (MatchPlay.Led.handsOver_drop found silent))

theorem forget {play : MatchPlay} (inv : play.LedInv) :
    ({ play with pending := none } : MatchPlay).LedInv :=
  inv.write rfl rfl rfl rfl (fun _ => Iff.rfl) id

/-- A critical section that does not refund ends. -/
theorem leave {play : MatchPlay} (inv : play.LedInv) {critical : Critical}
    (holds : play.critical = some critical) (keeps : ¬critical.Refunds)
    (settled : play.Led → play.Hosted ∨ play.HandsOver) : play.leave.LedInv := by
  refine inv.of id (fun _ => Or.imp_right ?_) fun _ led => led.leave (settled led)
  rintro ⟨holder, isHolder, refunds⟩
  rw [holds] at isHolder
  cases isHolder
  exact absurd refunds keeps

/-- A critical section that does not refund goes on. -/
theorem within {play : MatchPlay} (inv : play.LedInv)
    (keeps : ∀ holder ∈ play.critical, ¬holder.Refunds)
    (settled : play.Led → play.Hosted ∨ play.HandsOver) {critical : Critical}
    (snapshot : SnapshotOk play.session.participants critical) :
    (play.within critical).LedInv := by
  refine inv.of id (fun _ => Or.imp_right ?_) fun _ led => led.within (settled led) snapshot
  rintro ⟨holder, isHolder, refunds⟩
  exact absurd refunds (keeps holder isHolder)

theorem stepStart {play : MatchPlay} (inv : play.LedInv) (reply : Reply)
    (inOrder : play.KeepsHost (.start reply)) : (play.stepStart reply).LedInv := by
  unfold MatchPlay.stepStart
  cases phase : play.start with
  | escrow rest escrowed =>
      cases rest with
      | nil => exact inv.starting (by rw [phase]; exact id)
      | cons participant rest =>
          dsimp only
          split
          · exact inv.starting (by rw [phase]; exact id)
          · split
            · exact inv.starting fun _ => trivial
            · refine (inv.move _).starting ?_
              change play.start.Unwinding → _
              rw [phase]
              exact id
  | staked participant stakeTxnId rest escrowed =>
      dsimp only
      split
      · exact inv.starting fun _ => trivial
      · refine inv.write rfl rfl rfl rfl (seatedIn_update (fun _ => rfl) fun _ => rfl) ?_
        rw [phase]
        exact id
  | unwind rest =>
      cases rest with
      | nil => exact inv.starting fun _ => trivial
      | cons participant rest =>
          dsimp only
          split
          · exact inv.starting fun _ => trivial
          · exact (inv.move _).starting fun _ => trivial
  | unwound participant refundTxnId rest =>
      dsimp only
      split
      · exact inv.starting fun _ => trivial
      · exact of_ending (Or.inl trivial)
  | abandon =>
      dsimp only
      split
      · rename_i fails
        intro isActive
        rw [inOrder isActive phase] at fails
        cases fails
      · exact of_closed (by intro impossible; cases impossible)
  | fixPot =>
      dsimp only
      split
      · exact inv.starting (by rw [phase]; exact id)
      · exact inv.write rfl rfl rfl rfl (fun _ => Iff.rfl) (by rw [phase]; exact id)
  | returned => exact inv
  | thrown => exact inv

theorem newHost_of_waits {call : Call} (waits : Waits call = true) : call.newHost = none := by
  cases call with
  | handOver newHostId => cases waits
  | _ => rfl

theorem enter {play : MatchPlay} (inv : play.LedInv) {call : Call} {position : Nat}
    (found : play.calls[position]? = some call) (waits : Waits call = true)
    (empty : play.critical = none) (reply : Reply) :
    ((play.drop position).enter reply call).LedInv := by
  have dropped := inv.drop found (newHost_of_waits waits)
  have unheld : (play.drop position).critical = none := empty
  have keeps : ∀ holder ∈ (play.drop position).critical, ¬holder.Refunds := by
    rw [unheld]
    intro holder isHolder
    cases isHolder
  have settled : (play.drop position).Led →
      (play.drop position).Hosted ∨ (play.drop position).HandsOver :=
    fun led => led.settled unheld fun _ _ _ impossible => by cases impossible
  have enters := (play.drop position).enters_enter reply call
  generalize (play.drop position).enter reply call = after at enters
  cases enters with
  | refused => exact dropped
  | forget => exact dropped.forget
  | sweep => exact dropped.forget.quiet rfl
  | abort | settle | forfeit | report | confirm | dispute =>
      exact dropped.within keeps settled trivial

theorem not_refunds_of_calm {critical : Critical} (calm : critical.Calm) : ¬critical.Refunds := by
  cases critical <;> first | exact fun _ => calm | exact id

theorem settled_of_calm {play : MatchPlay} {critical : Critical}
    (holds : play.critical = some critical) (calm : critical.Calm) (led : play.Led) :
    play.Hosted ∨ play.HandsOver := by
  refine led.settled holds ?_
  rintro session actor participants same
  cases same
  exact calm

theorem leave_calm {play : MatchPlay} (inv : play.LedInv) {critical : Critical}
    (holds : play.critical = some critical) (calm : critical.Calm) : play.leave.LedInv :=
  inv.leave holds (not_refunds_of_calm calm) (settled_of_calm holds calm)

theorem within_calm {play : MatchPlay} (inv : play.LedInv) {critical next : Critical}
    (holds : play.critical = some critical) (calm : critical.Calm)
    (snapshot : SnapshotOk play.session.participants next) : (play.within next).LedInv := by
  refine inv.within ?_ (settled_of_calm holds calm) snapshot
  intro holder isHolder
  rw [holds] at isHolder
  cases isHolder
  exact not_refunds_of_calm calm

/-- The pick under the lock, handed over once the lock is released. -/
theorem withdraw {play : MatchPlay} (inv : play.LedInv) {session : GameSession} {actor : UserId}
    {participants : List GameParticipant}
    (holds : play.critical = some (.withdrawing session actor participants))
    (isHost : session.hostId = actor) :
    (play.leave.handOverTo session.hostId
      (pickSessionHost participants none (some actor))).LedInv := by
  have ending : ∀ critical, play.critical = some critical → critical.Refunds → False := by
    rintro critical holder refunds
    rw [holds] at holder
    cases holder
    exact refunds
  have snapshot : play.Led → ¬SeatedIn play.session.participants actor ∧
      ∀ userId, userId ≠ actor →
        (SeatedIn participants userId ↔ SeatedIn play.session.participants userId) :=
    fun led => led.snapshot _ holds
  cases picked : pickSessionHost participants none (some actor) with
  | none =>
      refine inv.leave holds id fun led => Or.inl ((hosted_iff play).mpr ?_)
      rintro ⟨userId, seated⟩
      have other : userId ≠ actor := by
        rintro rfl
        exact (snapshot led).1 seated
      have last := nobody_of_pick picked (((snapshot led).2 userId other).mpr seated)
      exact absurd (Option.some.inj last) other
  | some newHostId =>
      obtain ⟨seated, apart⟩ := seated_of_pick picked
      have other : newHostId ≠ actor := fun same => apart (congrArg some same)
      change (if newHostId = session.hostId then play.leave
        else play.leave.spawn (.handOver newHostId)).LedInv
      rw [if_neg (by rw [isHost]; exact other)]
      refine inv.of id (fun _ => Or.imp_right ?_) fun _ led => ?_
      · rintro ⟨critical, holder, refunds⟩
        exact (ending critical holder refunds).elim
      · have stays := ((snapshot led).2 newHostId other).mp seated
        exact
          { promised := by
              rintro userId ⟨call, member, named⟩
              rcases List.mem_append.mp member with before | last
              · exact led.promised userId ⟨call, before, named⟩
              · cases List.mem_singleton.mp last
                cases named
                exact stays
            hosted := Or.inr (Or.inl ⟨.handOver newHostId,
              List.mem_append_right _ (List.mem_singleton_self _), rfl⟩)
            snapshot := fun critical holder => by cases holder }

/-- The forfeiter is marked LOST. -/
theorem lost {play : MatchPlay} (inv : play.LedInv) {session : GameSession} {actor : UserId}
    {participants : List GameParticipant}
    (holds : play.critical = some (.leaving session actor participants))
    (inOrder : play.session.status = .active →
      ¬play.Promised actor ∧ (play.session.hostId = actor → session.hostId = actor)) :
    (((play.updateParticipant actor fun row => { row with status := .lost }).forfeited
      actor).within (.withdrawing session actor participants)).LedInv := by
  intro isActive calm
  have led : play.Led := by
    refine inv isActive ?_
    rintro (unwinding | ⟨critical, holder, refunds⟩)
    · exact calm (Or.inl unwinding)
    · rw [holds] at holder
      cases holder
      exact refunds
  obtain ⟨unpromised, current⟩ := inOrder isActive
  have seats := seatedIn_lost play.session.participants actor
  have snapshot : ∀ userId, SeatedIn participants userId ↔
      SeatedIn play.session.participants userId := led.snapshot _ holds
  refine ⟨fun userId promised => ?_, ?_, fun critical holder => ?_⟩
  · refine (seats userId).mpr ⟨led.promised userId promised, ?_⟩
    rintro rfl
    exact unpromised promised
  · by_cases isHost : play.session.hostId = actor
    · refine Or.inr (Or.inr ⟨session, participants, (current isHost).trans isHost.symm, ?_⟩)
      change some (Critical.withdrawing session actor participants) =
        some (.withdrawing session play.session.hostId participants)
      rw [isHost]
    · rcases settled_of_calm holds trivial led with hosted | handsOver
      · refine Or.inl ((hosted_iff _).mpr ?_)
        rintro ⟨userId, seated⟩
        exact (seats _).mpr ⟨(hosted_iff play).mp hosted ⟨userId, ((seats userId).mp seated).1⟩,
          isHost⟩
      · exact Or.inr (Or.inl handsOver)
  · cases holder
    refine ⟨fun seated => ((seats actor).mp seated).2 rfl, fun userId other => ?_⟩
    rw [snapshot userId]
    exact ⟨fun seated => (seats userId).mpr ⟨seated, other⟩,
      fun seated => ((seats userId).mp seated).1⟩

theorem decideLeave {play : MatchPlay} (inv : play.LedInv) {session : GameSession}
    {actor : UserId} (holds : play.critical = some (.forfeiting session actor)) :
    (play.decideLeave session actor).LedInv := by
  unfold MatchPlay.decideLeave
  dsimp only
  split
  · exact inv.within_calm holds trivial fun _ => Iff.rfl
  · refine quiet ?_ rfl
    split
    · exact inv.leave_calm holds trivial
    · have forfeited : (play.forfeited actor).LedInv :=
        inv.write rfl rfl rfl rfl (fun _ => Iff.rfl) id
      exact forfeited.leave_calm holds trivial

theorem stepInside {play : MatchPlay} (inv : play.LedInv) {critical : Critical}
    (holds : play.critical = some critical) (reply : Reply)
    (inOrder : play.KeepsHost (.inside reply)) : (play.stepInside reply critical).LedInv := by
  dsimp only [MatchPlay.KeepsHost] at inOrder
  rw [holds] at inOrder
  unfold MatchPlay.stepInside
  cases critical with
  | aborting status =>
      dsimp only
      split
      · exact inv.leave_calm holds trivial
      · exact of_ending (Or.inr ⟨_, rfl, trivial⟩)
  | refunding status rest =>
      cases rest with
      | nil =>
          dsimp only
          split
          · rename_i fails
            intro isActive
            rw [inOrder isActive] at fails
            cases fails
          · refine of_closed ?_
            change status.toStatus ≠ .active
            cases status <;> exact fun impossible => by cases impossible
      | cons participant rest =>
          dsimp only
          split
          · exact of_ending (Or.inr ⟨_, rfl, trivial⟩)
          · exact of_ending (Or.inr ⟨_, rfl, trivial⟩)
  | refunded status participant refundTxnId rest =>
      dsimp only
      split
      · exact of_ending (Or.inr ⟨_, rfl, trivial⟩)
      · exact of_ending (Or.inr ⟨_, rfl, trivial⟩)
  | settling input fresh =>
      dsimp only
      split
      · exact inv.leave_calm holds trivial
      · split
        · exact inv.leave_calm holds trivial
        · exact inv.within_calm holds trivial trivial
  | paying input fresh participants =>
      dsimp only
      split
      · exact inv.leave_calm holds trivial
      · exact of_closed (by intro impossible; cases impossible)
  | forfeiting session actor =>
      dsimp only
      split
      · exact inv.leave_calm holds trivial
      · exact inv.decideLeave holds
  | leaving session actor participants =>
      dsimp only
      split
      · exact inv.leave_calm holds trivial
      · rename_i writes
        exact inv.lost holds fun isActive => inOrder isActive (by simpa using writes)
  | withdrawing session actor participants =>
      dsimp only
      split
      · rename_i fails
        intro isActive calm
        refine inv.leave holds id (fun _ => inOrder isActive fails) isActive calm
      · split
        · rename_i isHost
          exact inv.withdraw holds isHost
        · rename_i other
          refine inv.leave holds id fun led => ?_
          rcases led.hosted with hosted | handsOver | ⟨snapshot, rows, same, withdraws⟩
          · exact Or.inl hosted
          · exact Or.inr handsOver
          · rw [holds] at withdraws
            cases withdraws
            exact absurd same other
  | reporting actor winners =>
      dsimp only
      split
      · exact inv.leave_calm holds trivial
      · split
        · exact inv.leave_calm holds trivial
        · refine LedInv.leave_calm ?_ holds trivial
          exact inv.write rfl rfl rfl rfl (fun _ => Iff.rfl) id
  | confirming session actor =>
      dsimp only
      split
      · exact inv.leave_calm holds trivial
      · split
        · exact inv.leave_calm holds trivial
        · exact quiet (inv.forget.leave_calm holds trivial) rfl
  | disputing actor =>
      dsimp only
      split
      · exact inv.leave_calm holds trivial
      · split
        · exact inv.leave_calm holds trivial
        · exact inv.forget.leave_calm holds trivial

/-- A hand-over is written, to someone still at the table. -/
theorem handedOver {play : MatchPlay} (inv : play.LedInv) {position : Nat} {newHostId : UserId}
    (found : play.calls[position]? = some (.handOver newHostId)) :
    ((play.drop position).updateSessionHost newHostId).LedInv := by
  refine inv.of id (fun _ => id) fun _ led => ?_
  have seated : SeatedIn play.session.participants newHostId :=
    led.promised newHostId ⟨_, List.mem_of_getElem? found, rfl⟩
  exact
    { promised := fun userId ⟨call, member, named⟩ =>
        led.promised userId ⟨call, List.mem_of_mem_eraseIdx member, named⟩
      hosted := Or.inl fun _ => seated
      snapshot := led.snapshot }

theorem handOverTo {play : MatchPlay} (inv : play.LedInv) (hostId : UserId)
    {next : Option UserId} (seated : ∀ userId, next = some userId →
      SeatedIn play.session.participants userId) : (play.handOverTo hostId next).LedInv := by
  unfold MatchPlay.handOverTo
  split
  · exact inv
  · split
    · exact inv
    · refine inv.spawn fun _ userId named => seated userId ?_
      exact named

theorem stepOutside {play : MatchPlay} (inv : play.LedInv) {call : Call} {position : Nat}
    (found : play.calls[position]? = some call) (reply : Reply) (goes : Waits call = false) :
    ((play.drop position).stepOutside reply call).LedInv := by
  unfold MatchPlay.stepOutside
  cases call with
  | resolve session winners =>
      have dropped := inv.drop found rfl
      dsimp only
      split
      · exact dropped.quiet rfl
      · exact dropped.quiet rfl
  | expand actor winningTeam =>
      have dropped := inv.drop found rfl
      dsimp only
      split
      · exact dropped
      · exact dropped.quiet rfl
  | handOver newHostId => exact inv.handedOver found
  | repoint session newOwnerId =>
      have dropped := inv.drop found rfl
      dsimp only
      split
      · exact dropped.handOverTo _ fun userId picked => (seated_of_pick picked).1
      · exact dropped
  | abort | settle | forfeit | report | confirm | dispute | sweep => cases goes

theorem accept {play : MatchPlay} (inv : play.LedInv) (request : Request) :
    (play.accept request).LedInv := by
  have accepts := play.accepts_accept request
  generalize play.accept request = after at accepts
  cases accepts with
  | refused => exact inv
  | _ => exact inv.quiet rfl

/-- A call outside the lock gives up. -/
theorem givesUp {play : MatchPlay} (inv : play.LedInv) {call : Call} {position : Nat}
    (found : play.calls[position]? = some call) {reply : Reply} (fails : reply.fails = true)
    (inOrder : play.KeepsHost (.outside position reply)) : (play.drop position).LedInv := by
  dsimp only [MatchPlay.KeepsHost] at inOrder
  rw [found] at inOrder
  cases call with
  | handOver newHostId =>
      intro isActive calm
      refine (inv isActive calm).drop ?_
      exact (inOrder isActive fails).imp_right Or.inl
  | _ => exact inv.drop found rfl

theorem step (play : MatchPlay) (event : MatchEvent) (inv : play.LedInv)
    (inOrder : play.KeepsHost event) : (play.step event).LedInv := by
  have steps := play.steps_step event
  generalize play.step event = after at steps
  cases steps with
  | idle => exact inv
  | request request => exact inv.accept request
  | start reply => exact inv.stepStart reply inOrder
  | enter reply empty found waits => exact inv.enter found waits empty reply
  | inside reply holds => exact inv.stepInside holds reply inOrder
  | gaveUp found fails => exact inv.givesUp found fails inOrder
  | outside found succeeds goes => exact inv.stepOutside found _ goes
  | lapse => exact inv.forget

theorem opened {opened : OpenedSession} (hosted : opened.play.Hosted) : opened.play.LedInv := by
  intro _ _
  refine ⟨?_, Or.inl hosted, fun critical holder => by cases holder⟩
  rintro userId ⟨call, member, _⟩
  exact absurd member List.not_mem_nil

end MatchPlay.LedInv

/-! ### Runs -/

/-- What has to hold of the role once all calls have finished. -/
def MatchPlay.HostPlays (play : MatchPlay) : Prop :=
  play.Idle → play.session.status = .active → play.Hosted

theorem hostPlays_of_ledInv {play : MatchPlay} (inv : play.LedInv) : play.HostPlays := by
  rintro ⟨finished, empty, noCalls⟩ active
  have led : play.Led := by
    refine inv active ?_
    rintro (unwinding | ⟨critical, holder, _⟩)
    · rcases finished with returned | thrown
      · rw [returned] at unwinding
        exact unwinding
      · rw [thrown] at unwinding
        exact unwinding
    · rw [empty] at holder
      cases holder
  rcases led.hosted with hosted | ⟨call, member, _⟩ | ⟨session, participants, _, holds⟩
  · exact hosted
  · rw [noCalls] at member
    exact absurd member List.not_mem_nil
  · rw [empty] at holds
    cases holds

/-- A run that starts with a host at the table and whose steps are in order keeps one. -/
theorem hostPlays_of_keepsHost (opened : OpenedSession) (hosted : opened.play.Hosted)
    (events : List MatchEvent)
    (inOrder : Runs.Each MatchPlay.step MatchPlay.KeepsHost opened.play events) :
    Runs.Always MatchPlay.step MatchPlay.HostPlays opened.play events := by
  have kept : Runs.Always MatchPlay.step MatchPlay.LedInv opened.play events :=
    Runs.always_of_each MatchPlay.LedInv.step opened.play (MatchPlay.LedInv.opened hosted) events
      inOrder
  exact kept.imp fun _ inv => hostPlays_of_ledInv inv

namespace Quartet

def opened : OpenedSession :=
  ludoMatch "alice" 0
    [{ userId := "alice" }, { userId := "bob" }, { userId := "carol" }, { userId := "dave" }]
    (by decide)

def start : List MatchEvent := List.replicate 6 (.start {})

/-- A forfeit that waits at the given position, up to the release of the lock. -/
def forfeit (userId : UserId) (position : Nat) : List MatchEvent :=
  [.request (.forfeit userId), .enter position {}, .inside {}, .inside {}, .inside {}]

def handOver : List MatchEvent := [.outside 0 {}]

end Quartet

open Quartet in
theorem hostPlays_of_one_after_another :
    Runs.Always MatchPlay.step MatchPlay.HostPlays opened.play
      (start ++ forfeit "alice" 0 ++ handOver ++ forfeit "bob" 0 ++ handOver) := by
  apply hostPlays_of_keepsHost
  · decide +kernel
  · decide +kernel

open Quartet in
/-- Bob is picked as alice's successor, forfeits, and gets the role nevertheless. -/
theorem hostPlays_fails_on_two_forfeits :
    (Runs.run MatchPlay.step opened.play
        (start ++ forfeit "alice" 0 ++ forfeit "bob" 1 ++ handOver)).session.hostId = "bob" ∧
      ¬Runs.Always MatchPlay.step MatchPlay.HostPlays opened.play
        (start ++ forfeit "alice" 0 ++ forfeit "bob" 1 ++ handOver) := by
  refine ⟨by decide +kernel, fun always => ?_⟩
  have hosted := always.final ⟨Or.inl (by decide +kernel), by rfl, by rfl⟩ (by decide +kernel)
  revert hosted
  decide +kernel

end Soulzaa.Games
