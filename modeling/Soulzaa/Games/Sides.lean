/-
The two sides of a team lobby, and the seats they are given.

A side has two members at most: new members go to the smaller one, and a change of side is refused
where the other is full.  Four members on such sides can always be seated.
-/

import Soulzaa.Games.LobbyRules
import Soulzaa.Lib.KeyedRows

namespace Soulzaa.Games

/-! ### Filling the open slots -/

/-- The members whose pick it is. -/
def pickedBy (picks : UserId → Option GameTeam) (pick : Option GameTeam) (members : List UserId) :
    Nat :=
  (members.filter fun member => picks member = pick).length

variable {picks : UserId → Option GameTeam} {members : List UserId}

theorem pickedBy_cons (first : UserId) (rest : List UserId) (pick : Option GameTeam) :
    pickedBy picks pick (first :: rest) =
      pickedBy picks pick rest + if picks first = pick then 1 else 0 := by
  unfold pickedBy
  rw [List.filter_cons]
  split
  · rename_i isPick
    rw [if_pos (of_decide_eq_true isPick), List.length_cons]
  · rename_i isOther
    rw [if_neg fun isPick => isOther (decide_eq_true isPick), Nat.add_zero]

/-- Everyone is on a side, or on none yet. -/
theorem pickedBy_total (picks : UserId → Option GameTeam) (members : List UserId) :
    pickedBy picks (some .a) members + pickedBy picks (some .b) members +
      pickedBy picks none members = members.length := by
  induction members with
  | nil => rfl
  | cons first rest ih =>
      rw [pickedBy_cons, pickedBy_cons, pickedBy_cons, List.length_cons, ← ih]
      cases picks first with
      | none => simp; omega
      | some team => cases team <;> simp <;> omega

theorem length_onTeam_cons (entry : UserId × GameTeam) (rest : List (UserId × GameTeam))
    (team : GameTeam) :
    (onTeam (entry :: rest) team).length =
      (onTeam rest team).length + if entry.2 = team then 1 else 0 := by
  unfold onTeam
  rw [List.length_map, List.length_map, List.filter_cons]
  split
  · rename_i isTeam
    rw [if_pos (of_decide_eq_true isTeam), List.length_cons]
  · rename_i isOther
    rw [if_neg fun isTeam => isOther (decide_eq_true isTeam), Nat.add_zero]

/-- What the slots are filled with: every member in order, on the side of the pick. -/
structure Filled (picks : UserId → Option GameTeam) (members : List UserId) (aCount bCount : Nat)
    (assigned : List (UserId × GameTeam)) : Prop where
  all : assigned.map Prod.fst = members
  honours : ∀ entry ∈ assigned, ∀ team ∈ picks entry.1, entry.2 = team
  sideA : (onTeam assigned .a).length = pickedBy picks (some .a) members + (2 - aCount)
  sideB : (onTeam assigned .b).length = pickedBy picks (some .b) members + (2 - bCount)

/-- As many open slots as members without a pick are all filled. -/
theorem fillOpenSlots_spec {aCount bCount : Nat} (aSide : aCount ≤ 2) (bSide : bCount ≤ 2)
    (room : aCount + bCount + pickedBy picks none members = 4) :
    ∃ assigned, fillOpenSlots picks members aCount bCount = .ok assigned ∧
      Filled picks members aCount bCount assigned := by
  induction members generalizing aCount bCount with
  | nil =>
      have full : aCount = 2 ∧ bCount = 2 := by
        change aCount + bCount + 0 = 4 at room
        omega
      refine ⟨[], if_pos full, rfl, nofun, ?_, ?_⟩
      · rw [full.1]
        rfl
      · rw [full.2]
        rfl
  | cons first rest ih =>
      rw [pickedBy_cons] at room
      unfold fillOpenSlots
      cases isPick : picks first with
      | some pick =>
          rw [isPick, if_neg nofun, Nat.add_zero] at room
          obtain ⟨assigned, filled, spec⟩ := ih aSide bSide room
          refine ⟨(first, pick) :: assigned, by rw [filled]; rfl, ?_, ?_, ?_, ?_⟩
          · rw [List.map_cons, spec.all]
          · intro entry isEntry team isTeam
            rcases List.mem_cons.mp isEntry with rfl | isLater
            · exact Option.some_inj.mp (isPick.symm.trans isTeam)
            · exact spec.honours entry isLater team isTeam
          · rw [length_onTeam_cons, spec.sideA, pickedBy_cons, isPick]
            simp only [Option.some_inj]
            omega
          · rw [length_onTeam_cons, spec.sideB, pickedBy_cons, isPick]
            simp only [Option.some_inj]
            omega
      | none =>
          rw [if_pos isPick] at room
          have honours : ∀ {team : GameTeam} {assigned : List (UserId × GameTeam)},
              (∀ entry ∈ assigned, ∀ side ∈ picks entry.1, entry.2 = side) →
                ∀ entry ∈ (first, team) :: assigned, ∀ side ∈ picks entry.1, entry.2 = side := by
            intro team assigned others entry isEntry side isSide
            rcases List.mem_cons.mp isEntry with rfl | isLater
            · cases isPick.symm.trans isSide
            · exact others entry isLater side isSide
          dsimp only
          by_cases aOpen : aCount < 2
          · obtain ⟨assigned, filled, spec⟩ := ih aOpen bSide (by omega)
            rw [if_pos aOpen, filled]
            refine ⟨(first, .a) :: assigned, rfl, ?_, honours spec.honours, ?_, ?_⟩
            · rw [List.map_cons, spec.all]
            · rw [length_onTeam_cons, spec.sideA, pickedBy_cons, isPick, if_pos rfl, if_neg nofun]
              omega
            · rw [length_onTeam_cons, spec.sideB, pickedBy_cons, isPick, if_neg nofun,
                if_neg nofun]
              omega
          · have bOpen : bCount < 2 := by omega
            obtain ⟨assigned, filled, spec⟩ := ih aSide bOpen (by omega)
            rw [if_neg aOpen, if_pos bOpen, filled]
            refine ⟨(first, .b) :: assigned, rfl, ?_, honours spec.honours, ?_, ?_⟩
            · rw [List.map_cons, spec.all]
            · rw [length_onTeam_cons, spec.sideA, pickedBy_cons, isPick, if_neg nofun,
                if_neg nofun]
              omega
            · rw [length_onTeam_cons, spec.sideB, pickedBy_cons, isPick, if_pos rfl, if_neg nofun]
              omega

/-! ### Seats -/

/-- Every member has one seat, on the recorded side; seats 0 and 2 are team A, 1 and 3 team B. -/
structure SeatedWell (members : List UserId) (picks : UserId → Option GameTeam)
    (seats : List SeatAssignment) : Prop where
  perm : (seats.map SeatAssignment.userId).Perm members
  honours : ∀ seat ∈ seats, ∀ team ∈ picks seat.userId, seat.team = some team
  layout : seats.map (fun seat => (seat.seat, seat.team)) =
    [(0, some .a), (1, some .b), (2, some .a), (3, some .b)]

theorem perm_onTeam (assigned : List (UserId × GameTeam)) :
    (onTeam assigned .a ++ onTeam assigned .b).Perm (assigned.map Prod.fst) := by
  unfold onTeam
  rw [← List.map_append]
  have others : assigned.filter (fun entry => entry.2 = .b) =
      assigned.filter fun entry => !Decidable.decide (entry.2 = .a) := by
    refine List.filter_congr fun entry _ => ?_
    cases entry.2 <;> rfl
  rw [others]
  exact (List.filter_append_perm _ _).map _

theorem honours_onTeam {assigned : List (UserId × GameTeam)} {team side : GameTeam}
    {userId : UserId} (honours : ∀ entry ∈ assigned, ∀ team ∈ picks entry.1, entry.2 = team)
    (isOn : userId ∈ onTeam assigned team) (isPick : picks userId = some side) : team = side := by
  obtain ⟨entry, isEntry, rfl⟩ := List.mem_map.mp isOn
  obtain ⟨isThere, isTeam⟩ := List.mem_filter.mp isEntry
  exact (of_decide_eq_true isTeam).symm.trans (honours entry isThere side isPick)

/-- Four members on sides of two at most are seated. -/
theorem assignTeamsAndSeats_spec (four : members.length = 4)
    (aSide : pickedBy picks (some .a) members ≤ 2) (bSide : pickedBy picks (some .b) members ≤ 2) :
    ∃ seats, assignTeamsAndSeats members picks .team2v2 = .ok seats ∧
      SeatedWell members picks seats := by
  have total := pickedBy_total picks members
  rw [four] at total
  obtain ⟨assigned, filled, spec⟩ := fillOpenSlots_spec aSide bSide total
  have sideA : (onTeam assigned .a).length = 2 := by
    rw [spec.sideA]
    omega
  have sideB : (onTeam assigned .b).length = 2 := by
    rw [spec.sideB]
    omega
  obtain ⟨a0, a1, isA⟩ := List.length_eq_two.mp sideA
  obtain ⟨b0, b1, isB⟩ := List.length_eq_two.mp sideB
  refine ⟨[⟨a0, some .a, 0⟩, ⟨b0, some .b, 1⟩, ⟨a1, some .a, 2⟩, ⟨b1, some .b, 3⟩], ?_, ?_, ?_, rfl⟩
  · unfold assignTeamsAndSeats
    dsimp only
    rw [if_neg (not_not.mpr four)]
    rw [if_neg (by unfold pickedBy at aSide bSide; omega)]
    unfold pickedBy at filled
    rw [filled]
    dsimp only
    rw [isA, isB]
  · have perm := perm_onTeam assigned
    rw [spec.all, isA, isB] at perm
    refine List.Perm.trans ?_ perm
    exact List.Perm.cons a0 (List.Perm.swap a1 b0 [b1])
  · have onA : ∀ userId ∈ [a0, a1], ∀ team ∈ picks userId, some GameTeam.a = some team :=
      fun userId isOn team isTeam => congrArg some
        (honours_onTeam spec.honours (isA.symm ▸ isOn) isTeam)
    have onB : ∀ userId ∈ [b0, b1], ∀ team ∈ picks userId, some GameTeam.b = some team :=
      fun userId isOn team isTeam => congrArg some
        (honours_onTeam spec.honours (isB.symm ▸ isOn) isTeam)
    intro seat isSeat
    simp only [List.mem_cons, List.not_mem_nil, or_false] at isSeat
    rcases isSeat with rfl | rfl | rfl | rfl
    · exact onA a0 (by simp)
    · exact onB b0 (by simp)
    · exact onA a1 (by simp)
    · exact onB b1 (by simp)

/-! ### Balanced lobbies -/

namespace GameLobby

/-- The side that a member is recorded on. -/
def pick (lobby : GameLobby) (userId : UserId) : Option GameTeam :=
  (lobby.getMember userId).bind GameLobbyMember.team

/-- A full team lobby is seated, as its members picked. -/
def Seatable (lobby : GameLobby) : Prop :=
  lobby.mode = .team2v2 → lobby.members.length = 4 →
    ∃ seats, assignTeamsAndSeats lobby.listMemberIds lobby.pick lobby.mode = .ok seats ∧
      SeatedWell lobby.listMemberIds lobby.pick seats

structure Balanced (lobby : GameLobby) : Prop where
  ids : lobby.listMemberIds.Nodup
  sides : lobby.mode = .team2v2 → ∀ team, lobby.countTeam team ≤ 2

variable {lobby fresh : GameLobby}

theorem pickedBy_pick (ids : lobby.listMemberIds.Nodup) (team : GameTeam) :
    pickedBy lobby.pick (some team) lobby.listMemberIds = lobby.countTeam team := by
  unfold pickedBy listMemberIds countTeam
  rw [List.filter_map, List.length_map]
  congr 1
  refine List.filter_congr fun member isMember => ?_
  have found : lobby.getMember member.userId = some member := KeyedRows.find_of_mem ids isMember
  rw [Function.comp_apply]
  unfold pick
  rw [found]
  rfl

theorem Balanced.seatable (balanced : lobby.Balanced) : lobby.Seatable := by
  intro isTeam four
  have sides : ∀ team, pickedBy lobby.pick (some team) lobby.listMemberIds ≤ 2 := fun team =>
    (pickedBy_pick balanced.ids team).trans_le (balanced.sides isTeam team)
  rw [isTeam]
  exact assignTeamsAndSeats_spec ((List.length_map _).trans four) (sides .a) (sides .b)

theorem Balanced.of_members (balanced : fresh.Balanced) (mode : lobby.mode = fresh.mode)
    (members : lobby.members = fresh.members) : lobby.Balanced := by
  have ids : lobby.listMemberIds = fresh.listMemberIds :=
    congrArg (List.map GameLobbyMember.userId) members
  refine ⟨ids ▸ balanced.ids, fun isTeam team => ?_⟩
  unfold countTeam
  rw [members]
  exact balanced.sides (mode ▸ isTeam) team

theorem Balanced.left (balanced : fresh.Balanced) (userId : UserId) :
    (fresh.removeMember userId).Balanced := by
  constructor
  · exact balanced.ids.sublist (List.filter_sublist.map _)
  · intro isTeam team
    refine Nat.le_trans ?_ (balanced.sides isTeam team)
    exact (List.filter_sublist.filter _).length_le

theorem countTeam_concat (fresh : GameLobby) (member : GameLobbyMember) (team : GameTeam) :
    countTeam { fresh with members := fresh.members ++ [member] } team =
      fresh.countTeam team + if member.team = some team then 1 else 0 := by
  unfold countTeam
  dsimp only
  rw [List.filter_append, List.length_append, List.filter_singleton]
  congr 1
  by_cases isTeam : member.team = some team
  · simp [isTeam]
  · simp [isTeam]

/-- A new member goes to a side that has room. -/
theorem Balanced.joined {member : GameLobbyMember} (balanced : fresh.Balanced)
    (isNew : fresh.getMember member.userId = none)
    (room : fresh.mode = .team2v2 → ∀ team, member.team = some team → fresh.countTeam team < 2) :
    Balanced { fresh with members := fresh.members ++ [member] } := by
  constructor
  · unfold listMemberIds
    rw [List.map_append]
    refine List.Nodup.append balanced.ids (List.nodup_singleton _)
      (List.disjoint_singleton.mpr fun taken => ?_)
    obtain ⟨other, isOther, sameId⟩ := List.mem_map.mp taken
    have absent := List.find?_eq_none.mp isNew other isOther
    exact absent (decide_eq_true sameId)
  · intro isTeam team
    rw [countTeam_concat]
    split
    · rename_i isSide
      exact room isTeam team isSide
    · exact balanced.sides isTeam team

theorem countTeams_le (lobby : GameLobby) :
    lobby.countTeam .a + lobby.countTeam .b ≤ lobby.countMembers := by
  unfold countTeam countMembers
  have others : lobby.members.filter (fun member => member.team = some .b) =
      (lobby.members.filter fun member => !Decidable.decide (member.team = some .a)).filter
        fun member => member.team = some .b := by
    rw [List.filter_filter]
    refine List.filter_congr fun member _ => ?_
    by_cases isB : member.team = some .b
    · simp [isB]
    · simp [isB]
  have whole := (List.filter_append_perm
    (fun member : GameLobbyMember => member.team = some .a) lobby.members).length_eq
  rw [List.length_append] at whole
  rw [others, ← whole]
  exact Nat.add_le_add_left (List.length_filter_le _ _) _

/-- The smaller side of a lobby that is not full has room. -/
theorem countTeam_smallerTeam (room : fresh.countMembers < 4) :
    fresh.countTeam fresh.smallerTeam < 2 := by
  have both := countTeams_le fresh
  unfold smallerTeam
  split <;> omega

/-- A member changes to a side that has room beside them. -/
theorem Balanced.teamed (balanced : fresh.Balanced) {userId : UserId} {team : GameTeam}
    {member : GameLobbyMember} (found : fresh.getMember userId = some member)
    (room : fresh.mode = .team2v2 → (fresh.members.filter fun other =>
      other.team = some team ∧ other.userId ≠ userId).length < 2) :
    (fresh.setMemberTeam userId team).Balanced := by
  have keeps : KeyedRows.KeepsKey GameLobbyMember.userId
      fun member : GameLobbyMember => { member with team := some team } := fun _ => rfl
  have isUpdate : (fresh.setMemberTeam userId team).members =
      KeyedRows.update GameLobbyMember.userId userId
        (fun member => { member with team := some team }) fresh.members := rfl
  have ids : (fresh.setMemberTeam userId team).listMemberIds = fresh.listMemberIds :=
    KeyedRows.keys_update keeps
  refine ⟨ids ▸ balanced.ids, fun isTeam side => ?_⟩
  have moved := KeyedRows.find_update_self keeps found
  have counted := KeyedRows.countP_filter_ne
    (fun member => Decidable.decide (member.team = some side))
    (ids.symm ▸ balanced.ids : (fresh.setMemberTeam userId team).listMemberIds.Nodup) moved
  rw [isUpdate, KeyedRows.filter_ne_update keeps] at counted
  have before := KeyedRows.countP_filter_ne
    (fun member => Decidable.decide (member.team = some side)) balanced.ids found
  have atMost := balanced.sides isTeam side
  unfold countTeam at atMost ⊢
  rw [← List.countP_eq_length_filter] at atMost ⊢
  rw [isUpdate, counted]
  by_cases isSide : team = side
  · subst isSide
    have beside := room isTeam
    rw [← List.countP_eq_length_filter] at beside
    rw [if_pos (decide_eq_true rfl), List.countP_filter]
    refine Nat.succ_le_of_lt (Nat.lt_of_le_of_lt (Nat.le_of_eq ?_) beside)
    refine List.countP_congr fun other _ => ?_
    simp
  · rw [if_neg (by simpa using isSide)]
    omega

end GameLobby

/-! ### Operations -/

namespace GamesDb

def Balanced (db : GamesDb) : Prop :=
  ∀ lobby ∈ db.lobbies, lobby.Balanced

variable {db after : GamesDb} {id : LobbyId} {fresh lobby : GameLobby}

theorem Balanced.found (balanced : db.Balanced) (found : db.lobbies[id]? = some fresh) :
    fresh.Balanced :=
  balanced fresh (List.mem_of_getElem? found)

theorem Balanced.put (balanced : db.Balanced) (isBalanced : lobby.Balanced) :
    (db.putLobby id lobby).Balanced := by
  intro row isRow
  rcases List.mem_or_eq_of_mem_set isRow with before | rfl
  · exact balanced row before
  · exact isBalanced

/-- A lobby is written with the members it has. -/
theorem Balanced.rewrite (balanced : db.Balanced) (found : db.lobbies[id]? = some fresh)
    (mode : lobby.mode = fresh.mode) (members : lobby.members = fresh.members) :
    (db.putLobby id lobby).Balanced :=
  balanced.put ((balanced.found found).of_members mode members)

theorem Balanced.opened (balanced : db.Balanced) (isBalanced : lobby.Balanced) :
    (db.createLobby lobby).Balanced := by
  intro row isRow
  rcases List.mem_append.mp isRow with before | isNew
  · exact balanced row before
  · exact List.mem_singleton.mp isNew ▸ isBalanced

theorem Balanced.orUnchanged (balanced : db.Balanced) {result : Except GameFailure GamesDb}
    (step : ∀ after, result = .ok after → after.Balanced) :
    (orUnchanged db result).Balanced := by
  cases result with
  | error failure => exact balanced
  | ok after => exact step after rfl

end GamesDb

/-- Room for a new member: fewer than four of them, and fewer than two on the side it asks for. -/
def HasRoom (surroundings : Surroundings) (db : GamesDb) (code : String)
    (asked : Option GameTeam) : Prop :=
  ∀ id, requireLobby surroundings db code = .ok id → ∀ fresh ∈ db.getLobbyById id,
    fresh.mode = .team2v2 →
      fresh.countMembers < 4 ∧ ∀ team ∈ asked, fresh.countTeam team < 2

/-- New members find room. -/
def KeepsSides (surroundings : Surroundings) (db : GamesDb) : LobbyOperation → Prop
  | .joinLobby _ code _ _ _ => HasRoom surroundings db code none
  | .addBot _ code _ team => HasRoom surroundings db code team
  | _ => True

instance (surroundings : Surroundings) (db : GamesDb) (code : String)
    (asked : Option GameTeam) : Decidable (HasRoom surroundings db code asked) :=
  match isLobby : requireLobby surroundings db code with
  | .error _ => isTrue fun _ isOther => nomatch isLobby.symm.trans isOther
  | .ok id =>
      decidable_of_iff
        (∀ fresh ∈ db.getLobbyById id, fresh.mode = .team2v2 →
          fresh.countMembers < 4 ∧ ∀ team ∈ asked, fresh.countTeam team < 2)
        ⟨fun all _ isOther => Except.ok.inj (isLobby.symm.trans isOther) ▸ all,
          fun all => all id isLobby⟩

instance (surroundings : Surroundings) (db : GamesDb) :
    (operation : LobbyOperation) → Decidable (KeepsSides surroundings db operation)
  | .joinLobby _ code _ _ _ => inferInstanceAs (Decidable (HasRoom surroundings db code none))
  | .addBot _ code _ team => inferInstanceAs (Decidable (HasRoom surroundings db code team))
  | .createLobby .. | .leaveLobby .. | .transferLobbyHost .. | .kickMember .. | .closeLobby ..
  | .closeRoomBoundLobby .. | .sweepExpiredLobby .. | .repointLobbyHost ..
  | .updateLobbySettings .. | .setPlayerTeam .. | .startLobby .. | .finalizeMatch ..
  | .startMatch .. => isTrue trivial

section Operations

variable {surroundings : Surroundings} {db after : GamesDb} {actor : UserId} {code : String}

theorem balanced_joinLobby {password : Option String} {authorisation : Authorisation}
    {balances : Balances} (balanced : db.Balanced) (hasRoom : HasRoom surroundings db code none)
    (joined : joinLobby surroundings db actor code password authorisation balances = .ok after) :
    after.Balanced := by
  simp only [joinLobby, bind_eq_ok, require_eq_ok] at joined
  obtain ⟨id, isLobby, fresh, opened, _, _, _, _, _, isNew, _, _, _, _, lobby, added, same⟩ :=
    joined
  cases same
  cases addMember_ok added
  obtain ⟨found, _⟩ := requireOpen_ok opened
  refine balanced.put ((balanced.found found).joined isNew fun isTeam team isSide => ?_)
  dsimp only at isSide
  rw [if_pos isTeam] at isSide
  cases isSide
  exact GameLobby.countTeam_smallerTeam (hasRoom id isLobby fresh found isTeam).1

/-- A member can be added only under a new id. -/
theorem absent_of_addMember {lobby joined : GameLobby} {member : GameLobbyMember}
    (added : lobby.addMember member = .ok joined) : lobby.getMember member.userId = none := by
  unfold GameLobby.addMember at added
  split at added
  · cases added
  · rename_i isAbsent
    rwa [Bool.not_eq_true, Option.isSome_eq_false_iff, Option.isNone_iff_eq_none] at isAbsent

theorem requireHosted_lobby {message : String} {id : LobbyId} {fresh : GameLobby}
    (hosted : requireHosted surroundings db actor code message = .ok (id, fresh)) :
    requireLobby surroundings db code = .ok id := by
  simp only [requireHosted, bind_eq_ok] at hosted
  obtain ⟨_, isLobby, _, _, _, _, _, _, same⟩ := hosted
  cases same
  exact isLobby

theorem balanced_addBot {botId : UserId} {team : Option GameTeam} (balanced : db.Balanced)
    (hasRoom : HasRoom surroundings db code team)
    (added : addBot surroundings db actor code botId team = .ok after) : after.Balanced := by
  simp only [addBot, bind_eq_ok, require_eq_ok] at added
  obtain ⟨⟨id, fresh⟩, hosted, _, _, _, _, lobby, joined, same⟩ := added
  cases same
  have isNew := absent_of_addMember joined
  cases addMember_ok joined
  obtain ⟨found, _⟩ := requireHosted_ok hosted
  refine balanced.put ((balanced.found found).joined isNew fun isTeam side isSide => ?_)
  obtain ⟨room, asked⟩ := hasRoom id (requireHosted_lobby hosted) fresh found isTeam
  dsimp only at isSide
  cases team with
  | some picked =>
      cases isSide
      exact asked side rfl
  | none =>
      rw [Option.none_or, if_pos isTeam] at isSide
      cases isSide
      exact GameLobby.countTeam_smallerTeam room

theorem balanced_leaveLobby (balanced : db.Balanced)
    (gone : leaveLobby surroundings db actor code = .ok after) : after.Balanced := by
  simp only [leaveLobby, bind_eq_ok] at gone
  obtain ⟨id, _, fresh, opened, gone⟩ := gone
  obtain ⟨found, _⟩ := requireOpen_ok opened
  split at gone
  · cases gone
    exact balanced.rewrite found rfl rfl
  · simp only [bind_eq_ok] at gone
    obtain ⟨_, _, same⟩ := gone
    cases same
    exact balanced.put ((balanced.found found).left actor)

theorem balanced_kickMember {targetUserId : UserId} (balanced : db.Balanced)
    (kicked : kickMember surroundings db actor code targetUserId = .ok after) :
    after.Balanced := by
  simp only [kickMember, bind_eq_ok] at kicked
  obtain ⟨⟨id, fresh⟩, hosted, _, _, _, _, same⟩ := kicked
  cases same
  exact balanced.put ((balanced.found (requireHosted_ok hosted).1).left targetUserId)

theorem balanced_setPlayerTeam {team : GameTeam} (balanced : db.Balanced)
    (picked : setPlayerTeam surroundings db actor code team = .ok after) : after.Balanced := by
  simp only [setPlayerTeam, bind_eq_ok, require_eq_ok] at picked
  obtain ⟨id, _, fresh, opened, _, _, _, isMember, _, room, same⟩ := picked
  cases same
  obtain ⟨member, isThere⟩ := Option.isSome_iff_exists.mp isMember
  exact balanced.put ((balanced.found (requireOpen_ok opened).1).teamed isThere fun _ => room)

theorem balanced_closeIfOpen (balanced : db.Balanced) (id : LobbyId) (status : GameLobbyStatus) :
    (closeIfOpen db id status).Balanced := by
  unfold closeIfOpen
  split
  · exact balanced
  · rename_i fresh opened
    exact balanced.rewrite (requireOpen_ok opened).1 rfl rfl

theorem balanced_transferLobbyHost (balanced : db.Balanced) (id : LobbyId)
    (expectedOldHostId : UserId) : (transferLobbyHost db id expectedOldHostId).Balanced := by
  unfold transferLobbyHost
  split
  · exact balanced
  · rename_i fresh found
    split
    · split
      · exact balanced.rewrite found rfl rfl
      · exact balanced.rewrite found rfl rfl
    · exact balanced

theorem balanced_startSessionFromLobby {lobbyId : LobbyId} {authorisation : Authorisation}
    {staked : Bool} (balanced : db.Balanced)
    (started : startSessionFromLobby surroundings db lobbyId actor authorisation staked =
      .ok after) : after.Balanced := by
  simp only [startSessionFromLobby, bind_eq_ok] at started
  obtain ⟨session, _, fresh, isOpen, started⟩ := started
  split at started
  · cases started
    have same : GamesDb.Balanced
        { db with sessions := db.sessions ++ [{ session with
          potAmount := potOf session (fresh.listMemberIds.length - fresh.botIds.length) }] } :=
      balanced
    exact same.rewrite (requireOpen_ok isOpen).1 rfl rfl
  · cases started
    exact balanced

theorem balanced_createLobby {dto : CreateLobbyDto} {authorisation : Authorisation}
    {draws : List String} (balanced : db.Balanced)
    (created : createLobby surroundings db actor dto authorisation draws = .ok after) :
    after.Balanced := by
  simp only [createLobby, bind_eq_ok] at created
  obtain ⟨_, _, definition, _, _, _, _, _, carrom, _, opened, _, lobby, added, same⟩ := created
  cases same
  cases addMember_ok added
  refine balanced.opened ⟨List.nodup_singleton actor, fun _ team => ?_⟩
  exact Nat.le_trans (List.length_filter_le _ _) (Nat.le_succ 1)

theorem balanced_finalizeMatch {state : ReadyCheckState} {draws : List String}
    (balanced : db.Balanced)
    (finalized : finalizeMatch surroundings db state draws = .ok after) : after.Balanced := by
  simp only [finalizeMatch, bind_eq_ok] at finalized
  obtain ⟨definition, _, carrom, _, opened, _, same⟩ := finalized
  cases same
  refine balanced.opened ⟨?_, fun _ team => ?_⟩
  · unfold GameLobby.listMemberIds
    rw [List.map_map]
    exact (List.map_id state.players).symm ▸ state.distinct
  · -- Matched players have picked no side yet.
    unfold GameLobby.countTeam
    dsimp only
    rw [List.filter_map, List.length_map]
    refine Nat.le_trans (Nat.le_of_eq ?_) (Nat.zero_le 2)
    rw [List.length_eq_zero_iff, List.filter_eq_nil_iff]
    intro player _ isOn
    have isPick : (none : Option GameTeam) = some team := of_decide_eq_true isOn
    cases isPick

/-- What one operation keeps. -/
theorem balanced_step (surroundings : Surroundings) (balanced : db.Balanced)
    (operation : LobbyOperation) (keeps : KeepsSides surroundings db operation) :
    (lobbyStep surroundings db operation).Balanced := by
  cases operation with
  | createLobby actor dto authorisation draws =>
      exact balanced.orUnchanged fun _ => balanced_createLobby balanced
  | joinLobby actor code password authorisation balances =>
      exact balanced.orUnchanged fun _ => balanced_joinLobby balanced keeps
  | leaveLobby actor code => exact balanced.orUnchanged fun _ => balanced_leaveLobby balanced
  | transferLobbyHost id expectedOldHostId =>
      exact balanced_transferLobbyHost balanced id expectedOldHostId
  | kickMember actor code targetUserId =>
      exact balanced.orUnchanged fun _ => balanced_kickMember balanced
  | closeLobby actor code =>
      refine balanced.orUnchanged fun after closed => ?_
      simp only [closeLobby, bind_eq_ok] at closed
      obtain ⟨⟨id, fresh⟩, hosted, same⟩ := closed
      cases same
      exact balanced.rewrite (requireHosted_ok hosted).1 rfl rfl
  | closeRoomBoundLobby roomId =>
      rw [lobbyStep, closeRoomBoundLobby]
      split
      · exact balanced
      · exact balanced_closeIfOpen balanced _ .cancelled
  | sweepExpiredLobby id => exact balanced_closeIfOpen balanced id .expired
  | repointLobbyHost roomId newOwnerId =>
      rw [lobbyStep, repointLobbyHost]
      split
      · exact balanced
      · split
        · exact balanced
        · rename_i lobby found
          exact balanced.rewrite found rfl rfl
  | updateLobbySettings actor code dto =>
      refine balanced.orUnchanged fun after updated => ?_
      obtain ⟨id, fresh, _, _, found, _, _, _, rfl⟩ := updateLobbySettings_ok updated
      exact balanced.rewrite found rfl rfl
  | addBot actor code botId team =>
      exact balanced.orUnchanged fun _ => balanced_addBot balanced keeps
  | setPlayerTeam actor code team =>
      exact balanced.orUnchanged fun _ => balanced_setPlayerTeam balanced
  | startLobby actor code authorisation staked =>
      refine balanced.orUnchanged fun after started => ?_
      simp only [startLobby, bind_eq_ok] at started
      obtain ⟨_, _, _, _, _, _, started⟩ := started
      exact balanced_startSessionFromLobby balanced started
  | finalizeMatch state draws => exact balanced.orUnchanged fun _ => balanced_finalizeMatch balanced
  | startMatch id hostId authorisation staked =>
      have closed : ∀ rows : GamesDb, rows.Balanced →
          (markLobbyClosed rows id .cancelled).Balanced := by
        intro rows allBalanced
        unfold markLobbyClosed
        split
        · exact allBalanced
        · rename_i lobby found
          exact allBalanced.rewrite found rfl rfl
      rw [lobbyStep, startMatch]
      split
      · exact closed db balanced
      · rename_i after started
        have afterStart := balanced_startSessionFromLobby balanced started
        split
        · exact afterStart
        · exact closed after afterStart

end Operations

/-! ### Runs -/

/-- Every full team lobby of every state is seated as its members picked, where new members always
found room. -/
theorem seatable_of_keepsSides (surroundings : Surroundings) (operations : List LobbyOperation)
    (keeps : Runs.Each (lobbyStep surroundings) (KeepsSides surroundings) GamesDb.empty
      operations) :
    Runs.Always (lobbyStep surroundings)
      (fun db => ∀ lobby ∈ db.lobbies, lobby.Seatable) GamesDb.empty operations := by
  have atStart : GamesDb.empty.Balanced := fun _ isLobby => absurd isLobby List.not_mem_nil
  have balanced :
      Runs.Always (lobbyStep surroundings) GamesDb.Balanced GamesDb.empty operations := by
    refine Runs.always_of_each ?_ GamesDb.empty atStart operations keeps
    exact fun _ operation before permitted => balanced_step surroundings before operation permitted
  exact balanced.imp fun db all lobby isLobby => (all lobby isLobby).seatable

open CrowdedCarrom in
/-- A friendly team match of Alice: Bob joins and leaves, and bots fill the seats. -/
def refilled : List LobbyOperation :=
  opening .team2v2 ++
    [.joinLobby "bob" "ABCDEF" none allowing wealthy,
      .addBot "alice" "ABCDEF" "bot-1" (some .a),
      .setPlayerTeam "alice" "ABCDEF" .b,
      .leaveLobby "bob" "ABCDEF",
      .addBot "alice" "ABCDEF" "bot-2" none,
      .addBot "alice" "ABCDEF" "bot-3" none]

open CrowdedCarrom in
theorem seatable_refilled :
    Runs.Always (lobbyStep surroundings)
      (fun db => ∀ lobby ∈ db.lobbies, lobby.Seatable) GamesDb.empty refilled :=
  seatable_of_keepsSides surroundings refilled (by decide +kernel)

open CrowdedCarrom in
/-- Two bots are put on the side of the host, and one on the other. -/
def lopsided : List LobbyOperation :=
  opening .team2v2 ++
    [.addBot "alice" "ABCDEF" "bot-1" (some .a),
      .addBot "alice" "ABCDEF" "bot-2" (some .a),
      .addBot "alice" "ABCDEF" "bot-3" none]

open CrowdedCarrom in
theorem not_seatable_lopsided :
    ¬Runs.Always (lobbyStep surroundings)
      (fun db => ∀ lobby ∈ db.lobbies, lobby.Seatable) GamesDb.empty lopsided := by
  intro always
  have full : ∃ lobby ∈ (Runs.run (lobbyStep surroundings) GamesDb.empty lopsided).lobbies,
      lobby.mode = .team2v2 ∧ lobby.members.length = 4 ∧
        assignTeamsAndSeats lobby.listMemberIds lobby.pick lobby.mode = .error .unbalanced := by
    decide +kernel
  obtain ⟨lobby, isLobby, isTeam, four, isUnbalanced⟩ := full
  obtain ⟨seats, isSeated, _⟩ := Runs.Always.final always lobby isLobby isTeam four
  rw [isUnbalanced] at isSeated
  cases isSeated

end Soulzaa.Games
