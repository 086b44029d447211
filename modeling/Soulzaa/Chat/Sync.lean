/-
What a client that was away gets when it asks for what has changed.

Every change of a message moves its `updatedAt`, and a page tells of what has changed since a
cursor, oldest first.  Changes land between the pages, and between a call's start and what it reads.
-/

import Mathlib.Data.List.Sort
import Mathlib.Data.Prod.Lex
import Mathlib.Data.String.Basic
import Soulzaa.Lib.KeyedRows
import Soulzaa.Lib.Runs

namespace Soulzaa.Chat

abbrev UserId := String
abbrev MessageId := String

structure MessageBody where
  content : String
  isDeleted : Bool := false
  /-- Who has reacted, and how. -/
  reactions : List (UserId × String) := []
  deriving DecidableEq, Repr

structure DirectMessage where
  id : MessageId
  conversationId : String
  senderId : UserId
  body : MessageBody
  createdAt : Nat
  updatedAt : Nat
  deriving DecidableEq, Repr

structure HiddenMessage where
  messageId : MessageId
  userId : UserId
  createdAt : Nat
  deriving DecidableEq, Repr

/-- What a viewer is shown of a message. -/
structure MessageView where
  conversationId : String
  senderId : UserId
  body : MessageBody
  createdAt : Nat
  isStarred : Bool
  deriving DecidableEq, Repr

structure Scope where
  conversationId : String
  clearedAt : Option Nat := none
  deriving DecidableEq, Repr

structure Store where
  messages : List DirectMessage
  distinct : (messages.map DirectMessage.id).Nodup
  hidden : List HiddenMessage := []
  starred : List (MessageId × UserId) := []
  now : Nat

namespace Store

/-! ### Changes -/

/-- A message changes, and the time of its last change with it. -/
def touch (store : Store) (id : MessageId) (change : MessageBody → MessageBody)
    (starred : List (MessageId × UserId)) : Store :=
  { store with
    messages := KeyedRows.update DirectMessage.id id
      (fun message => { message with body := change message.body, updatedAt := store.now })
      store.messages
    distinct := by
      refine Eq.mpr (congrArg List.Nodup (KeyedRows.keys_update ?_)) store.distinct
      exact fun _ => rfl
    starred := starred }

def create (store : Store) (id : MessageId) (conversationId : String) (senderId : UserId)
    (content : String) : Store :=
  if fresh : id ∈ store.messages.map DirectMessage.id then store
  else
    { store with
      messages := store.messages ++
        [{ id := id
           conversationId := conversationId
           senderId := senderId
           body := { content := content }
           createdAt := store.now
           updatedAt := store.now }]
      distinct := by
        rw [List.map_append]
        exact store.distinct.append (List.nodup_singleton _)
          (List.disjoint_singleton.mpr fresh) }

def edit (store : Store) (id : MessageId) (content : String) : Store :=
  store.touch id (fun body => { body with content := content }) store.starred

def softDelete (store : Store) (id : MessageId) : Store :=
  store.touch id (fun body => { body with isDeleted := true, content := "" }) store.starred

def reacted (store : Store) (id : MessageId) (reaction : UserId × String) : Prop :=
  ∃ message ∈ store.messages, message.id = id ∧ reaction ∈ message.body.reactions

instance (store : Store) (id : MessageId) (reaction : UserId × String) :
    Decidable (store.reacted id reaction) :=
  inferInstanceAs (Decidable (∃ message ∈ store.messages, _))

/-- To react twice is nothing. -/
def addReaction (store : Store) (id : MessageId) (reaction : UserId × String) : Store :=
  if store.reacted id reaction then store
  else store.touch id (fun body => { body with reactions := body.reactions ++ [reaction] })
    store.starred

def removeReaction (store : Store) (id : MessageId) (reaction : UserId × String) : Store :=
  if store.reacted id reaction then
    store.touch id
      (fun body => { body with reactions := body.reactions.filter fun other => other ≠ reaction })
      store.starred
  else store

def star (store : Store) (id : MessageId) (userId : UserId) : Store :=
  if (id, userId) ∈ store.starred then store
  else store.touch id (fun body => body) ((id, userId) :: store.starred)

def unstar (store : Store) (id : MessageId) (userId : UserId) : Store :=
  if (id, userId) ∈ store.starred then
    store.touch id (fun body => body) (store.starred.filter fun other => other ≠ (id, userId))
  else store

/-- What is hidden already stays hidden since then. -/
def hide (store : Store) (id : MessageId) (userId : UserId) : Store :=
  { store with
    hidden :=
      if store.hidden.any fun hide => hide.messageId = id ∧ hide.userId = userId then store.hidden
      else store.hidden ++ [{ messageId := id, userId := userId, createdAt := store.now }]
    starred := store.starred.filter fun other => other ≠ (id, userId) }

/-! ### Reads -/

def Hides (store : Store) (viewerId : UserId) (id : MessageId) : Prop :=
  ∃ hide ∈ store.hidden, hide.messageId = id ∧ hide.userId = viewerId

instance (store : Store) (viewerId : UserId) (id : MessageId) :
    Decidable (store.Hides viewerId id) :=
  inferInstanceAs (Decidable (∃ hide ∈ store.hidden, _))

end Store

/-- Later than what the user has cleared away. -/
def DirectMessage.InScope (scopes : List Scope) (message : DirectMessage) : Prop :=
  ∃ scope ∈ scopes, message.conversationId = scope.conversationId ∧
    ∀ clearedAt ∈ scope.clearedAt, clearedAt < message.createdAt

instance (scopes : List Scope) (message : DirectMessage) : Decidable (message.InScope scopes) :=
  inferInstanceAs (Decidable (∃ scope ∈ scopes, _))

def DirectMessage.Before (one two : DirectMessage) : Prop :=
  toLex (one.updatedAt, one.id) ≤ toLex (two.updatedAt, two.id)

instance : DecidableRel DirectMessage.Before :=
  fun one two => inferInstanceAs
    (Decidable (toLex (one.updatedAt, one.id) ≤ toLex (two.updatedAt, two.id)))

namespace Store

/-- All that has changed, oldest change first. -/
def changes (store : Store) (viewerId : UserId) (scopes : List Scope) (since : Nat) :
    List DirectMessage :=
  (store.messages.filter fun message =>
    message.InScope scopes ∧ since ≤ message.updatedAt ∧
      ¬store.Hides viewerId message.id).insertionSort DirectMessage.Before

def changedSince (store : Store) (viewerId : UserId) (scopes : List Scope) (since take : Nat) :
    List DirectMessage :=
  (store.changes viewerId scopes since).take take

def hiddenSince (store : Store) (userId : UserId) (since : Nat) : List MessageId :=
  (store.hidden.filter fun hide => hide.userId = userId ∧ since ≤ hide.createdAt).map
    HiddenMessage.messageId

def view (store : Store) (viewerId : UserId) (message : DirectMessage) : MessageView where
  conversationId := message.conversationId
  senderId := message.senderId
  body := message.body
  createdAt := message.createdAt
  isStarred := (message.id, viewerId) ∈ store.starred

end Store

/-! ### Calls -/

structure Limits where
  syncMaxWindow : Nat
  syncMaxConversations : Nat
  syncMaxMessages : Nat

structure SyncCall where
  serverTime : Nat
  take : Nat

structure Client where
  copies : MessageId → Option MessageView
  since : Nat
  hasMore : Bool := false
  resyncRequired : Bool := false

structure World where
  store : Store
  viewerId : UserId
  scopes : List Scope
  limits : Limits
  client : Client
  /-- The call under way. -/
  call : Option SyncCall := none

inductive Change where
  | create (id : MessageId) (conversationId : String) (senderId : UserId) (content : String)
  | edit (id : MessageId) (content : String)
  | softDelete (id : MessageId)
  | addReaction (id : MessageId) (reaction : UserId × String)
  | removeReaction (id : MessageId) (reaction : UserId × String)
  | star (id : MessageId) (userId : UserId)
  | unstar (id : MessageId) (userId : UserId)
  | hide (id : MessageId) (userId : UserId)
  /-- The clock goes on. -/
  | wait (time : Nat)

def Store.change (store : Store) : Change → Store
  | .create id conversationId senderId content => store.create id conversationId senderId content
  | .edit id content => store.edit id content
  | .softDelete id => store.softDelete id
  | .addReaction id reaction => store.addReaction id reaction
  | .removeReaction id reaction => store.removeReaction id reaction
  | .star id userId => store.star id userId
  | .unstar id userId => store.unstar id userId
  | .hide id userId => store.hide id userId
  | .wait time => { store with now := max store.now time }

inductive Event where
  | change (change : Change)
  | sync (limit : Nat)
  | answer

/-- The last change of the page, or a millisecond on. -/
def nextCursor (page : List DirectMessage) (since : Nat) : Nat :=
  let last := (page.getLast?.map DirectMessage.updatedAt).getD since
  if since < last then last else since + 1

namespace World

def rows (world : World) (call : SyncCall) : List DirectMessage :=
  world.store.changedSince world.viewerId world.scopes world.client.since (call.take + 1)

/-- The client takes the page over, and then leaves out what is hidden. -/
def applied (world : World) (page : List DirectMessage) : MessageId → Option MessageView :=
  fun id =>
    if id ∈ world.store.hiddenSince world.viewerId world.client.since then none
    else
      match KeyedRows.find DirectMessage.id id page with
      | some message => some (world.store.view world.viewerId message)
      | none => world.client.copies id

/-- The time is taken before anything is read. -/
def sync (world : World) (limit : Nat) : World :=
  if world.client.since + world.limits.syncMaxWindow < world.store.now ∨
      world.limits.syncMaxConversations < world.scopes.length then
    { world with client := { world.client with hasMore := false, resyncRequired := true } }
  else
    { world with
      call := some
        { serverTime := world.store.now
          take := min limit world.limits.syncMaxMessages } }

/-- One row more than the page tells whether there is more. -/
def answer (world : World) (call : SyncCall) : World :=
  let page := (world.rows call).take call.take
  { world with
    call := none
    client :=
      { copies := world.applied page
        since :=
          if call.take < (world.rows call).length then nextCursor page world.client.since
          else call.serverTime
        hasMore := call.take < (world.rows call).length } }

def step (world : World) : Event → World
  | .change change => { world with store := world.store.change change }
  | .sync limit => if world.call.isSome then world else world.sync limit
  | .answer => (world.call.map world.answer).getD world

/-- Not all that is read to fill a page, and to see that there is more, has changed in the
cursor's own millisecond. -/
def Permits (world : World) : Event → Prop
  | .answer => ∀ call ∈ world.call, call.take < (world.rows call).length →
      ∃ row ∈ world.rows call, row.updatedAt ≠ world.client.since
  | _ => True

instance (world : World) (event : Event) : Decidable (world.Permits event) :=
  match event with
  | .answer => inferInstanceAs (Decidable (∀ call ∈ world.call, _ → ∃ row ∈ world.rows call, _))
  | .change _ | .sync _ => inferInstanceAs (Decidable True)

/-- The viewer sees the message. -/
def Shows (world : World) (message : DirectMessage) : Prop :=
  message ∈ world.store.messages ∧ message.InScope world.scopes ∧
    ¬world.store.Hides world.viewerId message.id

/-- The client has what the viewer sees as it is now, and nothing else. -/
def Current (world : World) : Prop :=
  ∀ id view, world.client.copies id = some view ↔
    ∃ message, world.Shows message ∧ message.id = id ∧
      view = world.store.view world.viewerId message

end World

/-! ### What a change leaves -/

namespace Store

variable {store after : Store} {viewerId : UserId}

/-- Nothing is of a time to come. -/
structure Stamped (store : Store) : Prop where
  messages : ∀ message ∈ store.messages, message.updatedAt ≤ store.now
  hidden : ∀ hide ∈ store.hidden, hide.createdAt ≤ store.now

/-- What has changed for the viewer has changed since then, and nothing is lost. -/
structure Later (store after : Store) (viewerId : UserId) : Prop where
  time : store.now ≤ after.now
  stamped : after.Stamped
  fresh : ∀ message ∈ after.messages, ¬after.Hides viewerId message.id →
    (message ∈ store.messages ∧ after.view viewerId message = store.view viewerId message) ∨
      store.now ≤ message.updatedAt
  stays : ∀ message ∈ store.messages, ∃ later ∈ after.messages, later.id = message.id ∧
    later.conversationId = message.conversationId ∧ later.createdAt = message.createdAt ∧
      message.updatedAt ≤ later.updatedAt
  hidden : ∀ hide ∈ store.hidden, hide ∈ after.hidden
  hides : ∀ hide ∈ after.hidden, hide ∈ store.hidden ∨ store.now ≤ hide.createdAt

theorem Later.refl (stamped : store.Stamped) : store.Later store viewerId where
  time := Nat.le_refl _
  stamped := stamped
  fresh := fun _ member _ => Or.inl ⟨member, rfl⟩
  stays := fun message member => ⟨message, member, rfl, rfl, rfl, Nat.le_refl _⟩
  hidden := fun _ member => member
  hides := fun _ member => Or.inl member

theorem view_congr {message : DirectMessage}
    (starred : (message.id, viewerId) ∈ after.starred ↔ (message.id, viewerId) ∈ store.starred) :
    after.view viewerId message = store.view viewerId message := by
  unfold view
  rw [decide_eq_decide.mpr starred]

/-- One message is touched, and stars of no other. -/
theorem later_touch (stamped : store.Stamped) (id : MessageId)
    (change : MessageBody → MessageBody) (starred : List (MessageId × UserId))
    (others : ∀ other, other ≠ id → ((other, viewerId) ∈ starred ↔
      (other, viewerId) ∈ store.starred)) :
    store.Later (store.touch id change starred) viewerId := by
  constructor
  · exact Nat.le_refl _
  · refine ⟨fun message member => ?_, stamped.hidden⟩
    obtain ⟨before, isBefore, rfl⟩ := KeyedRows.mem_update member
    split
    · exact Nat.le_refl _
    · exact stamped.messages before isBefore
  · intro message member _
    obtain ⟨before, isBefore, rfl⟩ := KeyedRows.mem_update member
    by_cases isIts : before.id = id
    · rw [if_pos isIts]
      exact Or.inr (Nat.le_refl _)
    · rw [if_neg isIts]
      exact Or.inl ⟨isBefore, view_congr (others _ isIts)⟩
  · intro message member
    refine ⟨_, List.mem_map_of_mem member, ?_⟩
    split
    · exact ⟨rfl, rfl, rfl, stamped.messages message member⟩
    · exact ⟨rfl, rfl, rfl, Nat.le_refl _⟩
  · exact fun _ member => member
  · exact fun _ member => Or.inl member

theorem later_create (stamped : store.Stamped) (id : MessageId) (conversationId : String)
    (senderId : UserId) (content : String) :
    store.Later (store.create id conversationId senderId content) viewerId := by
  unfold create
  split
  · exact .refl stamped
  · constructor
    · exact Nat.le_refl _
    · refine ⟨fun message member => ?_, stamped.hidden⟩
      rcases List.mem_append.mp member with before | new
      · exact stamped.messages message before
      · rw [List.mem_singleton.mp new]
    · intro message member _
      rcases List.mem_append.mp member with before | new
      · exact Or.inl ⟨before, rfl⟩
      · rw [List.mem_singleton.mp new]
        exact Or.inr (Nat.le_refl _)
    · exact fun message member =>
        ⟨message, List.mem_append_left _ member, rfl, rfl, rfl, Nat.le_refl _⟩
    · exact fun _ member => member
    · exact fun _ member => Or.inl member

theorem later_hide (stamped : store.Stamped) (id : MessageId) (userId : UserId) :
    store.Later (store.hide id userId) viewerId := by
  have mem_hidden : ∀ hide ∈ (store.hide id userId).hidden, hide ∈ store.hidden ∨
      hide = { messageId := id, userId := userId, createdAt := store.now } := by
    unfold hide
    intro hide member
    dsimp only at member
    split at member
    · exact Or.inl member
    · exact (List.mem_append.mp member).imp_right List.mem_singleton.mp
  constructor
  · exact Nat.le_refl _
  · refine ⟨stamped.messages, fun hide member => ?_⟩
    rcases mem_hidden hide member with before | rfl
    · exact stamped.hidden hide before
    · exact Nat.le_refl _
  · intro message member unhidden
    refine Or.inl ⟨member, view_congr ?_⟩
    unfold hide
    dsimp only
    rw [List.mem_filter, decide_eq_true_iff]
    refine and_iff_left ?_
    rintro ⟨⟩
    apply unhidden
    unfold Hides hide
    dsimp only
    split
    · rename_i isHidden
      obtain ⟨hide, member, isIts⟩ := List.any_eq_true.mp isHidden
      exact ⟨hide, member, of_decide_eq_true isIts⟩
    · exact ⟨_, List.mem_append_right _ (List.mem_singleton_self _), rfl, rfl⟩
  · exact fun message member => ⟨message, member, rfl, rfl, rfl, Nat.le_refl _⟩
  · intro hide member
    unfold Store.hide
    dsimp only
    split
    · exact member
    · exact List.mem_append_left _ member
  · intro hide member
    rcases mem_hidden hide member with before | rfl
    · exact Or.inl before
    · exact Or.inr (Nat.le_refl _)

theorem later_change (stamped : store.Stamped) (change : Change) :
    store.Later (store.change change) viewerId := by
  cases change with
  | create id conversationId senderId content => exact later_create stamped _ _ _ _
  | edit id content =>
      exact later_touch stamped id (fun body => { body with content := content }) _
        fun _ _ => Iff.rfl
  | softDelete id =>
      exact later_touch stamped id (fun body => { body with isDeleted := true, content := "" }) _
        fun _ _ => Iff.rfl
  | addReaction id reaction =>
      unfold change addReaction
      dsimp only
      split
      · exact .refl stamped
      · exact later_touch stamped id _ _ fun _ _ => Iff.rfl
  | removeReaction id reaction =>
      unfold change removeReaction
      dsimp only
      split
      · exact later_touch stamped id _ _ fun _ _ => Iff.rfl
      · exact .refl stamped
  | star id userId =>
      unfold change star
      dsimp only
      split
      · exact .refl stamped
      · refine later_touch stamped id _ _ fun other different => ?_
        rw [List.mem_cons, or_iff_right]
        exact fun isIts => different (congrArg Prod.fst isIts)
  | unstar id userId =>
      unfold change unstar
      dsimp only
      split
      · refine later_touch stamped id _ _ fun other different => ?_
        rw [List.mem_filter, decide_eq_true_iff]
        exact and_iff_left fun isIts => different (congrArg Prod.fst isIts)
      · exact .refl stamped
  | hide id userId => exact later_hide stamped id userId
  | wait time =>
      have time : store.now ≤ max store.now time := Nat.le_max_left _ _
      exact
        { time := time
          stamped := ⟨fun message member => (stamped.messages message member).trans time,
            fun hide member => (stamped.hidden hide member).trans time⟩
          fresh := fun _ member _ => Or.inl ⟨member, rfl⟩
          stays := fun message member => ⟨message, member, rfl, rfl, rfl, Nat.le_refl _⟩
          hidden := fun _ member => member
          hides := fun _ member => Or.inl member }

end Store

/-! ### Pages -/

namespace World

variable {world : World} {copies : MessageId → Option MessageView} {after : Store} {call : SyncCall}
  {message row : DirectMessage} {bound : Nat}

theorem mem_changes {since : Nat} :
    message ∈ world.store.changes world.viewerId world.scopes since ↔
      world.Shows message ∧ since ≤ message.updatedAt := by
  unfold Store.changes Shows
  rw [List.mem_insertionSort, List.mem_filter, decide_eq_true_iff]
  tauto

theorem sorted_changes (since : Nat) :
    (world.store.changes world.viewerId world.scopes since).Pairwise
      fun one two => one.updatedAt ≤ two.updatedAt := by
  have total : Std.Total DirectMessage.Before := ⟨fun _ _ => le_total (toLex _) (toLex _)⟩
  have trans : IsTrans DirectMessage DirectMessage.Before := ⟨fun _ _ _ => le_trans⟩
  refine (List.pairwise_insertionSort DirectMessage.Before _).imp fun before => ?_
  rcases Prod.Lex.le_iff.mp before with earlier | ⟨same, -⟩
  · exact Nat.le_of_lt earlier
  · exact Nat.le_of_eq same

theorem of_mem_rows (isRow : row ∈ world.rows call) :
    world.Shows row ∧ world.client.since ≤ row.updatedAt :=
  mem_changes.mp (List.mem_of_mem_take isRow)

/-- What has changed since the cursor and is not on the page is the last that was read, or comes
after it. -/
theorem on_page_or_after (shows : world.Shows message)
    (since : world.client.since ≤ message.updatedAt) :
    message ∈ (world.rows call).take call.take ∨ (call.take < (world.rows call).length ∧
      ∀ row ∈ world.rows call, row.updatedAt ≤ message.updatedAt) := by
  have member := mem_changes.mpr ⟨shows, since⟩
  have sorted := @sorted_changes world world.client.since
  unfold rows Store.changedSince
  generalize world.store.changes world.viewerId world.scopes world.client.since = all
    at member sorted
  rw [List.take_take, Nat.min_eq_left (Nat.le_succ _)]
  obtain ⟨place, inside, rfl⟩ := List.getElem_of_mem member
  by_cases onPage : place < call.take
  · exact Or.inl (List.mem_take_iff_getElem.mpr ⟨place, by omega, rfl⟩)
  · refine Or.inr ⟨?_, fun row isRow => ?_⟩
    · rw [List.length_take]
      omega
    · obtain ⟨other, isOther, rfl⟩ := List.mem_take_iff_getElem.mp isRow
      rcases Nat.lt_or_eq_of_le (show other ≤ place by omega) with before | rfl
      · exact List.pairwise_iff_getElem.mp sorted other place _ inside before
      · exact Nat.le_refl _

theorem find_page_of_absent {id : MessageId}
    (absent : ∀ row, world.Shows row → row.id = id → row ∉ (world.rows call).take call.take) :
    KeyedRows.find DirectMessage.id id ((world.rows call).take call.take) = none :=
  List.find?_eq_none.mpr fun _ isRow isIts =>
    absent _ (of_mem_rows (List.mem_of_mem_take isRow)).1 (of_decide_eq_true isIts) isRow

theorem find_page (onPage : message ∈ (world.rows call).take call.take) :
    KeyedRows.find DirectMessage.id message.id ((world.rows call).take call.take) =
      some message := by
  refine KeyedRows.find_of_mem ?_ onPage
  unfold rows Store.changedSince Store.changes
  refine List.Nodup.sublist ((List.take_sublist _ _).map _) ?_
  refine List.Nodup.sublist ((List.take_sublist _ _).map _) ?_
  exact (((List.perm_insertionSort DirectMessage.Before _).map _).nodup_iff).mpr
    (world.store.distinct.sublist (List.filter_sublist.map _))

theorem mem_hiddenSince {id : MessageId} :
    id ∈ world.store.hiddenSince world.viewerId world.client.since ↔
      ∃ hide ∈ world.store.hidden, hide.messageId = id ∧ hide.userId = world.viewerId ∧
        world.client.since ≤ hide.createdAt := by
  unfold Store.hiddenSince
  simp only [List.mem_map, List.mem_filter, decide_eq_true_eq]
  constructor
  · rintro ⟨hide, ⟨member, isViewer, since⟩, isIts⟩
    exact ⟨hide, member, isIts, isViewer, since⟩
  · rintro ⟨hide, member, isIts, isViewer, since⟩
    exact ⟨hide, ⟨member, isViewer, since⟩, isIts⟩

/-! ### What the client has -/

/-- The copies are right as far as changes before the time go. -/
structure UpTo (world : World) (copies : MessageId → Option MessageView) (bound : Nat) : Prop where
  current : ∀ message, world.Shows message → message.updatedAt < bound →
    copies message.id = some (world.store.view world.viewerId message)
  gone : ∀ hide ∈ world.store.hidden, hide.userId = world.viewerId → hide.createdAt < bound →
    copies hide.messageId = none
  known : ∀ id, copies id ≠ none →
    ∃ message ∈ world.store.messages, message.id = id ∧ message.InScope world.scopes

theorem inScope_congr {one two : DirectMessage} (conversation : two.conversationId =
    one.conversationId) (created : two.createdAt = one.createdAt) :
    two.InScope world.scopes ↔ one.InScope world.scopes := by
  unfold DirectMessage.InScope
  rw [conversation, created]

theorem UpTo.later (upTo : world.UpTo copies bound) (later : world.store.Later after world.viewerId)
    (past : bound ≤ world.store.now) : UpTo { world with store := after } copies bound where
  current := by
    rintro message ⟨member, inScope, unhidden⟩ isBefore
    rcases later.fresh message member unhidden with ⟨before, view⟩ | changed
    · refine (upTo.current message ⟨before, inScope, ?_⟩ isBefore).trans (congrArg some view.symm)
      rintro ⟨hide, isHide, isIts⟩
      exact unhidden ⟨hide, later.hidden hide isHide, isIts⟩
    · omega
  gone := by
    intro hide member isViewer isBefore
    rcases later.hides hide member with before | new
    · exact upTo.gone hide before isViewer isBefore
    · omega
  known := by
    intro id isKnown
    obtain ⟨message, member, isIts, inScope⟩ := upTo.known id isKnown
    obtain ⟨next, isNext, sameId, conversation, created, -⟩ := later.stays message member
    exact ⟨next, isNext, sameId.trans isIts, (inScope_congr conversation created).mpr inScope⟩

/-- With a page, the client has what was shown and does not come after the page; and nothing
that is hidden. -/
theorem UpTo.applied (upTo : world.UpTo world.client.copies world.client.since)
    (byPage : call.take < (world.rows call).length → ∀ time,
      (∀ row ∈ world.rows call, row.updatedAt ≤ time) → bound ≤ time) :
    world.UpTo (world.applied ((world.rows call).take call.take)) bound where
  current := by
    intro message shows isBefore
    have unhidden : message.id ∉ world.store.hiddenSince world.viewerId world.client.since := by
      intro isHidden
      obtain ⟨hide, member, isIts, isViewer, -⟩ := mem_hiddenSince.mp isHidden
      exact shows.2.2 ⟨hide, member, isIts, isViewer⟩
    unfold World.applied
    rw [if_neg unhidden]
    by_cases since : world.client.since ≤ message.updatedAt
    · rcases @on_page_or_after _ call _ shows since with onPage | ⟨more, past⟩
      · rw [find_page onPage]
      · have := byPage more _ past
        omega
    · rw [find_page_of_absent fun row isShown sameId onPage => ?_]
      · exact upTo.current message shows (Nat.lt_of_not_le since)
      · have same := List.inj_on_of_nodup_map world.store.distinct isShown.1 shows.1 sameId
        exact since (same ▸ (of_mem_rows (List.mem_of_mem_take onPage)).2)
  gone := by
    intro hide member isViewer _
    unfold World.applied
    split
    · rfl
    · rename_i unlisted
      rw [find_page_of_absent fun row isShown sameId _ =>
        isShown.2.2 ⟨hide, member, sameId.symm, isViewer⟩]
      refine upTo.gone hide member isViewer (Nat.lt_of_not_le fun since => unlisted ?_)
      exact mem_hiddenSince.mpr ⟨hide, member, rfl, isViewer, since⟩
  known := by
    intro id isKnown
    unfold World.applied at isKnown
    split at isKnown
    · exact absurd rfl isKnown
    · split at isKnown
      · rename_i row found
        have shows := (of_mem_rows (List.mem_of_mem_take (KeyedRows.mem_of_find found))).1
        exact ⟨row, shows.1, KeyedRows.key_of_find found, shows.2.1⟩
      · exact upTo.known id isKnown

/-! ### Runs -/

theorem lt_nextCursor (page : List DirectMessage) (since : Nat) :
    since < nextCursor page since := by
  unfold nextCursor
  dsimp only
  split
  · assumption
  · exact Nat.lt_succ_self since

/-- The next page starts no later than what this one leaves out. -/
theorem nextCursor_le {page : List DirectMessage} {since time : Nat}
    (le : ∀ row ∈ page, row.updatedAt ≤ time) (moved : since < time) :
    nextCursor page since ≤ time := by
  unfold nextCursor
  cases isLast : page.getLast? with
  | none =>
      rw [Option.map_none, Option.getD_none, if_neg (Nat.lt_irrefl since)]
      exact moved
  | some last =>
      have := le last (List.mem_of_getLast? isLast)
      rw [Option.map_some, Option.getD_some]
      dsimp only
      split
      · assumption
      · exact moved

/-- The client has all that changed before its cursor. -/
structure Abreast (world : World) : Prop where
  stamped : world.store.Stamped
  since_le : world.client.since ≤ world.store.now
  upTo : world.UpTo world.client.copies world.client.since
  begun : ∀ call ∈ world.call, call.serverTime ≤ world.store.now

theorem Abreast.change (abreast : world.Abreast) (change : Change) :
    (world.step (.change change)).Abreast := by
  have later := @Store.later_change _ world.viewerId abreast.stamped change
  exact ⟨later.stamped, abreast.since_le.trans later.time,
    abreast.upTo.later later abreast.since_le,
    fun call isCall => (abreast.begun call isCall).trans later.time⟩

theorem Abreast.sync (abreast : world.Abreast) (limit : Nat) : (world.sync limit).Abreast := by
  have upTo := abreast.upTo
  unfold World.sync
  split
  · exact ⟨abreast.stamped, abreast.since_le, ⟨upTo.current, upTo.gone, upTo.known⟩,
      abreast.begun⟩
  · refine ⟨abreast.stamped, abreast.since_le, ⟨upTo.current, upTo.gone, upTo.known⟩, ?_⟩
    rintro _ ⟨⟩
    exact Nat.le_refl _

theorem Abreast.answer (abreast : world.Abreast) (isCall : world.call = some call)
    (permitted : world.Permits .answer) : (world.answer call).Abreast := by
  have next : call.take < (world.rows call).length → ∀ time,
      (∀ row ∈ world.rows call, row.updatedAt ≤ time) →
        nextCursor ((world.rows call).take call.take) world.client.since ≤ time := by
    intro more time le
    refine nextCursor_le (fun row isRow => le row (List.mem_of_mem_take isRow)) ?_
    obtain ⟨row, isRow, different⟩ := permitted call isCall more
    have := (of_mem_rows isRow).2
    have := le row isRow
    omega
  have upTo : world.UpTo (world.applied ((world.rows call).take call.take))
      (if call.take < (world.rows call).length then
        nextCursor ((world.rows call).take call.take) world.client.since
      else call.serverTime) := by
    refine abreast.upTo.applied fun more time le => ?_
    rw [if_pos more]
    exact next more time le
  refine ⟨abreast.stamped, ?_, ⟨upTo.current, upTo.gone, upTo.known⟩,
    fun _ isNone => by cases isNone⟩
  unfold World.answer
  dsimp only
  split
  · rename_i more
    exact next more _ fun row isRow => abreast.stamped.messages row (of_mem_rows isRow).1.1
  · exact abreast.begun call isCall

theorem Abreast.step (abreast : world.Abreast) {event : Event} (permitted : world.Permits event) :
    (world.step event).Abreast := by
  cases event with
  | change change => exact abreast.change change
  | sync limit =>
      unfold World.step
      dsimp only
      split
      · exact abreast
      · exact abreast.sync limit
  | answer =>
      unfold World.step
      cases isCall : world.call with
      | none => exact abreast
      | some call => exact abreast.answer isCall permitted

/-- Where there is no more, the client has everything as it is. -/
theorem Abreast.current (abreast : world.Abreast)
    (whole : (world.rows call).length ≤ call.take) : (world.answer call).Current := by
  have upTo : world.UpTo (world.applied ((world.rows call).take call.take)) (world.store.now + 1) :=
    abreast.upTo.applied fun more => absurd whole (Nat.not_le_of_gt more)
  have present : ∀ message, world.Shows message →
      world.applied ((world.rows call).take call.take) message.id =
        some (world.store.view world.viewerId message) := fun message shows =>
    upTo.current message shows (Nat.lt_succ_of_le (abreast.stamped.messages message shows.1))
  intro id view
  constructor
  · intro isCopy
    obtain ⟨message, member, rfl, inScope⟩ := upTo.known id
      (Option.isSome_iff_ne_none.mp (Option.isSome_of_eq_some isCopy))
    have shows : world.Shows message := by
      refine ⟨member, inScope, ?_⟩
      rintro ⟨hide, isHide, isIts, isViewer⟩
      have gone := upTo.gone hide isHide isViewer
        (Nat.lt_succ_of_le (abreast.stamped.hidden hide isHide))
      rw [isIts] at gone
      cases gone.symm.trans isCopy
    exact ⟨message, shows, rfl, Option.some.inj (isCopy.symm.trans (present message shows))⟩
  · rintro ⟨message, shows, rfl, rfl⟩
    exact present message shows

/-- One call, within which nothing changes. -/
def page (limit : Nat) : List Event := [.sync limit, .answer]

theorem page_cases (idle : world.call = none) (limit : Nat) :
    (Runs.run step world (page limit) = world.sync limit ∧
        (world.sync limit).client.hasMore = false ∧
        (world.sync limit).client.resyncRequired = true) ∨
      ∃ call, (world.sync limit).call = some call ∧ world.sync limit = { world with call := call } ∧
        Runs.run step world (page limit) = (world.sync limit).answer call := by
  have started : step world (.sync limit) = world.sync limit := by
    unfold step
    rw [idle]
    rfl
  change (step (step world (.sync limit)) .answer = _ ∧ _) ∨
    ∃ call, _ ∧ _ ∧ step (step world (.sync limit)) .answer = _
  rw [started]
  unfold World.sync
  split
  · refine Or.inl ⟨?_, rfl, rfl⟩
    unfold step
    dsimp only
    rw [idle]
    rfl
  · exact Or.inr ⟨_, rfl, rfl, rfl⟩

/-- However changes and calls interleave, a client that is then told that there is no more, and
not to start over, has everything that it may see as it is, and nothing else. -/
theorem current_of_permitted (abreast : world.Abreast) (events : List Event)
    (permitted : Runs.Each step Permits world events)
    (idle : (Runs.run step world events).call = none) (limit : Nat)
    (noMore : (Runs.run step world (events ++ page limit)).client.hasMore = false)
    (goesOn : (Runs.run step world (events ++ page limit)).client.resyncRequired = false) :
    (Runs.run step world (events ++ page limit)).Current := by
  have always : Runs.Always step Abreast world events :=
    Runs.always_of_each (fun _ _ abreast permitted => abreast.step permitted) _ abreast _ permitted
  rw [Runs.run_append] at noMore goesOn ⊢
  rcases page_cases idle limit with ⟨same, -, startsOver⟩ | ⟨call, -, -, answered⟩
  · rw [same, startsOver] at goesOn
    cases goesOn
  · rw [answered] at noMore ⊢
    exact (always.final.sync limit).current (Nat.le_of_not_lt (of_decide_eq_false noMore))

/-- A client that has nothing yet. -/
def joined : World where
  store := { messages := [], distinct := List.nodup_nil, now := 1 }
  viewerId := "ann"
  scopes := [{ conversationId := "talk" }]
  limits := { syncMaxWindow := 100, syncMaxConversations := 1, syncMaxMessages := 5 }
  client := { copies := fun _ => none, since := 0 }

theorem joined_stamped : joined.store.Stamped := ⟨List.forall_mem_nil _, List.forall_mem_nil _⟩

theorem joined_abreast : joined.Abreast where
  stamped := joined_stamped
  since_le := Nat.zero_le _
  upTo :=
    { current := fun _ _ early => absurd early (Nat.not_lt_zero _)
      gone := fun _ _ _ early => absurd early (Nat.not_lt_zero _)
      known := fun _ known => absurd rfl known }
  begun := fun _ isCall => by cases isCall

/-- What the first page told of is edited and hidden while the second is read. -/
def edited : List Event :=
  [.change (.create "first" "talk" "bob" "hi"), .change (.wait 2),
    .change (.create "second" "talk" "bob" "you"), .sync 1, .answer, .sync 5,
    .change (.edit "first" "hello"), .change (.wait 3), .change (.hide "second" "ann"), .answer]

theorem current_of_edited : (Runs.run step joined (edited ++ page 5)).Current :=
  current_of_permitted joined_abreast edited (by decide +kernel) (by decide +kernel) 5
    (by decide +kernel) (by decide +kernel)

theorem page_ends (idle : world.call = none) (stamped : world.store.Stamped) (limit : Nat) :
    (Runs.run step world (List.replicate 1 (page limit)).flatten).client.hasMore = false ∨
      (Runs.run step world (page limit)).store = world.store ∧
        (Runs.run step world (page limit)).call = none ∧
        world.client.since < (Runs.run step world (page limit)).client.since ∧
        world.client.since ≤ world.store.now := by
  rw [List.replicate_one, List.flatten_singleton]
  rcases page_cases idle limit with ⟨same, noMore, -⟩ | ⟨call, isCall, synced, answered⟩
  · rw [same]
    exact Or.inl noMore
  · rw [answered, synced]
    by_cases more : call.take < (rows { world with call := call } call).length
    · refine Or.inr ⟨rfl, rfl, ?_, ?_⟩
      · unfold World.answer
        dsimp only
        rw [if_pos more]
        exact lt_nextCursor _ _
      · have isRow := List.getElem_mem (Nat.zero_lt_of_lt more)
        have inSince := of_mem_rows isRow
        exact inSince.2.trans (stamped.messages _ inSince.1.1)
    · exact Or.inl (decide_eq_false more)

/-- Each further page starts later, and no message has changed in a time to come. -/
theorem ends_within (bound limit : Nat) (stamped : world.store.Stamped) (idle : world.call = none)
    (within : world.store.now < world.client.since + bound) :
    ∃ count, (Runs.run step world
      (List.replicate (count + 1) (page limit)).flatten).client.hasMore = false := by
  induction bound generalizing world with
  | zero =>
      obtain single | more := page_ends idle stamped limit
      · exact ⟨0, single⟩
      · omega
  | succ bound ih =>
      obtain single | ⟨store, rest, since, -⟩ := page_ends idle stamped limit
      · exact ⟨0, single⟩
      · obtain ⟨count, ended⟩ := ih (store ▸ stamped) rest (by rw [store]; omega)
        refine ⟨count + 1, ?_⟩
        rw [List.replicate_succ, List.flatten_cons, Runs.run_append]
        exact ended

end World

end Soulzaa.Chat
